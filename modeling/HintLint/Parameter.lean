import HintLint.Hint

/-!
Parameters and parameter lists. A list holds the ordinary parameters in the order of declaration,
keyword-only ones among them, and apart from these the parameter that takes further positional
arguments and the one that takes further keyword arguments. `ParameterList.slots` puts all of them
back into the order of the signature.
-/

namespace HintLint

open Json

/-- How a parameter may be passed. -/
inductive Parameter.Kind where
  | positionalOnly
  | positional
  | keywordOnly
deriving DecidableEq

namespace Parameter.Kind

/-- Parameters are passed by position or keyword unless something else is said. -/
instance : Inhabited Kind := ⟨positional⟩

/-- The names of the kinds. -/
def names : List (String × Kind) := [
  ("positional_only", positionalOnly),
  ("positional", positional),
  ("keyword_only", keywordOnly)]

/-- The name of a kind. -/
def name : Kind → String
  | positionalOnly => "positional_only"
  | positional => "positional"
  | keywordOnly => "keyword_only"

/-- A kind as its name. -/
def toValue (kind : Kind) : Value := .string kind.name

/-- The shape of a kind. -/
def decoder : Decoder Kind := .name names

end Parameter.Kind

/-- A parameter of a function. -/
structure Parameter where
  name : String
  position : Position
  kind : Parameter.Kind := default
  hint : Option Hint := none
deriving DecidableEq

namespace Parameter

/-- The parameter with a hint, over the one that it had. -/
def annotate (parameter : Parameter) (hint : Hint) : Parameter :=
  { parameter with hint := some hint }

/-- The parameter with another kind. -/
def withKind (parameter : Parameter) (kind : Kind) : Parameter := { parameter with kind }

/-- A parameter as a record. -/
def toValue (parameter : Parameter) : Value :=
  .object (("name", .string parameter.name) :: parameter.position.members ++ [
    ("kind", parameter.kind.toValue),
    ("annotation", .ofOption Hint.toValue parameter.hint)])

/-- A parameter of which some fields are known. -/
structure Draft where
  name : Option String := none
  kind : Option Kind := none
  hint : Option (Option Hint) := none

/-- The record of a parameter. Its kind may be left out; its slot may be empty but not left out. -/
def record : Record Draft Parameter where
  title := "Param"
  empty := {}
  fields := [
    .of "name" (·.name) .string fun name draft => { draft with name := some name },
    .of "kind" (·.kind) Kind.decoder fun kind draft => { draft with kind := some kind },
    .of "annotation" (·.hint) Hint.decoder.nullable
      fun hint draft => { draft with hint := some hint }]
  finish draft kept := do
    let name ← required "name" draft.name
    let hint ← required "annotation" draft.hint
    let position ← Position.record.ofMembers kept
    return { name, position, kind := draft.kind.getD default, hint }

/-- The shape of a parameter. -/
def decoder : Decoder Parameter := record.decoder

end Parameter

/-- The parameters of a function. -/
structure ParameterList where
  position : Position
  /-- The ordinary parameters, in the order of declaration. -/
  parameters : List Parameter
  /-- The parameter that takes further positional arguments. -/
  star : Option Parameter := none
  /-- The parameter that takes further keyword arguments. -/
  doubleStar : Option Parameter := none
deriving DecidableEq

namespace ParameterList

/-- The list with a parameter for further positional arguments, over the one that it had. -/
def withStar (list : ParameterList) (parameter : Parameter) : ParameterList :=
  { list with star := some parameter }

/-- The list with a parameter for further keyword arguments, over the one that it had. -/
def withDoubleStar (list : ParameterList) (parameter : Parameter) : ParameterList :=
  { list with doubleStar := some parameter }

/-- All parameters in the order of the signature: those that are not keyword-only, the one for
further positional arguments, the keyword-only ones, the one for further keyword arguments. -/
def inOrder (list : ParameterList) : List Parameter :=
  list.parameters.filter (·.kind ≠ .keywordOnly) ++ list.star.toList ++
    list.parameters.filter (·.kind = .keywordOnly) ++ list.doubleStar.toList

/-- The hint slots of all parameters, in the order of the signature. -/
def slots (list : ParameterList) : List (Option Hint) := list.inOrder.map (·.hint)

/-- The members of a parameter list. -/
def members (list : ParameterList) : List (String × Value) :=
  list.position.members ++ [
    ("params", .array (list.parameters.map Parameter.toValue)),
    ("vararg", .ofOption Parameter.toValue list.star),
    ("kwarg", .ofOption Parameter.toValue list.doubleStar)]

/-- A parameter list as a record. -/
def toValue (list : ParameterList) : Value := .object list.members

/-- A parameter list of which some fields are known. -/
structure Draft where
  parameters : Option (List Parameter) := none
  star : Option (Option Parameter) := none
  doubleStar : Option (Option Parameter) := none

/-- The record of a parameter list. -/
def record : Record Draft ParameterList where
  title := "Arguments"
  empty := {}
  fields := [
    .of "params" (·.parameters) Parameter.decoder.list
      fun parameters draft => { draft with parameters := some parameters },
    .of "vararg" (·.star) Parameter.decoder.nullable
      fun star draft => { draft with star := some star },
    .of "kwarg" (·.doubleStar) Parameter.decoder.nullable
      fun doubleStar draft => { draft with doubleStar := some doubleStar }]
  finish draft kept := do
    let parameters ← required "params" draft.parameters
    let star ← required "vararg" draft.star
    let doubleStar ← required "kwarg" draft.doubleStar
    let position ← Position.record.ofMembers kept
    return { position, parameters, star, doubleStar }

/-- The shape of a parameter list. -/
def decoder : Decoder ParameterList := record.decoder

end ParameterList

end HintLint
