import HintLint.Error
import HintLint.Json.Writer
import HintLint.Statement

/-!
Nodes of a syntax tree, of the five kinds that the linter inspects. In JSON a node is the record of
its kind with one more member that names the kind. `Node.ofValue` reads a node off a value and says
what is wrong with it as a breach of that form; `Node.read` reads one straight from text, where the
members come in the order of the text and a repeated field is refused. A record without the kind is
read by the kind's decoder.
-/

namespace HintLint

open Json

/-- A node that the linter inspects. -/
inductive Node where
  | parameters (list : ParameterList)
  | annotatedAssignment (assignment : AnnotatedAssignment)
  | assignment (assignment : Assignment)
  | definition (definition : Definition)
  | asyncDefinition (definition : Definition)
deriving DecidableEq

/-- The kinds of nodes. -/
inductive Node.Kind where
  | parameters
  | annotatedAssignment
  | assignment
  | definition
  | asyncDefinition
deriving DecidableEq

namespace Node.Kind

/-- The name of a kind. -/
def tag : Kind → String
  | parameters => "arguments"
  | annotatedAssignment => "ann_assign"
  | assignment => "assign"
  | definition => "function_def"
  | asyncDefinition => "async_function_def"

/-- All kinds. -/
def all : List Kind := [parameters, annotatedAssignment, assignment, definition, asyncDefinition]

/-- The kinds by name. -/
def names : List (String × Kind) := all.map fun kind => (kind.tag, kind)

/-- The kind of a name. -/
def ofTag? (tag : String) : Option Kind := names.lookup tag

/-- The shape of the record of a kind. -/
def decoder : Kind → Decoder Node
  | parameters => ParameterList.decoder.map .parameters
  | annotatedAssignment => AnnotatedAssignment.record.decoder.map .annotatedAssignment
  | assignment => Assignment.record.decoder.map .assignment
  | definition => Definition.record.decoder.map .definition
  | asyncDefinition => Definition.record.decoder.map .asyncDefinition

/-- The shape of the name of a kind. -/
def tagDecoder : Decoder Kind :=
  .scalar .tag fun
    | .string name => resolve names name
    | value => .error (.invalidType value.found .tag)

end Node.Kind

namespace Node

/-- The kind of a node. -/
def kind : Node → Kind
  | .parameters _ => .parameters
  | .annotatedAssignment _ => .annotatedAssignment
  | .assignment _ => .assignment
  | .definition _ => .definition
  | .asyncDefinition _ => .asyncDefinition

/-- The members of the node's record. -/
def members : Node → List (String × Value)
  | .parameters list => list.members
  | .annotatedAssignment statement => statement.members
  | .assignment statement => statement.members
  | .definition statement => statement.members
  | .asyncDefinition statement => statement.members

/-- The member that names the kind. -/
def kindKey : String := "kind"

/-- A node as a value. -/
def toValue (node : Node) : Value :=
  .object ((kindKey, .string node.kind.tag) :: node.members)

/-- The text of a node. -/
def toText (node : Node) : String := node.toValue.toText

/-- Reads a node off a value. -/
def ofValue (value : Value) : Except Error Node :=
  let value := value.canonical
  match value.member? kindKey with
  | some (.string tag) =>
    match Kind.ofTag? tag with
    | some kind =>
      (kind.decoder.ofValue value).mapError fun cause => .contractViolation tag cause.message
    | none => .error (.unknownKind tag)
  | some other =>
    .error (.contractViolation Error.noKind
      ("`" ++ kindKey ++ "` must be a string, found " ++ other.toText))
  | none => .error (.contractViolation Error.noKind (Mismatch.missingField kindKey).message)

/-- Reads a node from text, by way of a value. -/
def ofText (text : String) : Except Error Node :=
  match Value.parse text with
  | .ok value => ofValue value
  | .error error => .error (.json error)

/-- Reads a list of nodes from text. The whole text is read before the first node is looked at, and
the first node that is wrong decides. -/
def listOfText (text : String) : Except Error (List Node) :=
  match Decoder.any.list.parse text with
  | .ok values => values.mapM ofValue
  | .error error => .error (.json error)

/-- The kind among the members of a node. The other members are kept, as an object that should hold
the record of that kind. -/
def tagged : Record (Option Kind) (Kind × Value) where
  title := "OwnedNode"
  empty := none
  fields := [.of kindKey id Kind.tagDecoder fun kind _ => some kind]
  finish draft kept := do
    let kind ← required kindKey draft
    return (kind, .object kept)

/-- Reads a node written as a list, with the kind in front, after its opening bracket. -/
def readListed : Reader (Kind × Value) := fun levels text => do
  let (more, text) ← nextElement true text
  if more then
    let (kind, rest) ← Kind.tagDecoder.read levels text
    let (items, rest) ← elements (any levels) false rest
    return ((kind, .array items), rest)
  else .error (.unplaced (.missingField kindKey) text)

/-- Reads the kind of a node and the value that should hold its record. -/
def readTagged : Reader (Kind × Value) := fun levels text =>
  match blank text with
  | '[' :: rest => bracketed closeList readListed levels ('[' :: rest)
  | '{' :: rest => bracketed closeObject tagged.body levels ('{' :: rest)
  | rest => .error (mistyped (.tagged tagged.title) rest)

/-- Reads a node from text. What is wrong with the record has no place in the text. -/
def read : Reader Node := fun levels text => do
  let ((kind, value), rest) ← readTagged levels text
  let node ← atEnd (kind.decoder.ofValue value) rest
  return (node, rest)

end Node

end HintLint
