import HintLint.Parameter

/-!
The statements that can carry a type hint: an assignment with an inline hint, an assignment with a
type comment, and a function definition with a hint for what it returns. Whether a definition is
asynchronous is a matter of the node's kind and not of the definition.
-/

namespace HintLint

open Json

/-- An assignment with an inline hint. -/
structure AnnotatedAssignment where
  position : Position
  /-- The text of the target. -/
  target : String
  hint : Option Hint := none
deriving DecidableEq

namespace AnnotatedAssignment

/-- The assignment with a hint, over the one that it had. -/
def annotate (assignment : AnnotatedAssignment) (hint : Hint) : AnnotatedAssignment :=
  { assignment with hint := some hint }

/-- The members of the assignment. -/
def members (assignment : AnnotatedAssignment) : List (String × Value) :=
  assignment.position.members ++ [
    ("target", .string assignment.target),
    ("annotation", .ofOption Hint.toValue assignment.hint)]

/-- An assignment of which some fields are known. -/
structure Draft where
  target : Option String := none
  hint : Option (Option Hint) := none

/-- The record of an assignment with an inline hint. -/
def record : Record Draft AnnotatedAssignment where
  title := "AnnAssign"
  empty := {}
  fields := [
    .of "target" (·.target) .string fun target draft => { draft with target := some target },
    .of "annotation" (·.hint) Hint.decoder.nullable
      fun hint draft => { draft with hint := some hint }]
  finish draft kept := do
    let target ← required "target" draft.target
    let hint ← required "annotation" draft.hint
    let position ← Position.record.ofMembers kept
    return { position, target, hint }

end AnnotatedAssignment

/-- An assignment that may have a type comment. -/
structure Assignment where
  position : Position
  /-- The texts of the targets, from left to right. -/
  targets : List String
  /-- The hint in the type comment. -/
  comment : Option Hint := none
deriving DecidableEq

namespace Assignment

/-- The assignment with a type comment, over the one that it had. -/
def withComment (assignment : Assignment) (hint : Hint) : Assignment :=
  { assignment with comment := some hint }

/-- The members of the assignment. -/
def members (assignment : Assignment) : List (String × Value) :=
  assignment.position.members ++ [
    ("targets", .array (assignment.targets.map .string)),
    ("type_annotation", .ofOption Hint.toValue assignment.comment)]

/-- An assignment of which some fields are known. -/
structure Draft where
  targets : Option (List String) := none
  comment : Option (Option Hint) := none

/-- The record of an assignment that may have a type comment. -/
def record : Record Draft Assignment where
  title := "Assign"
  empty := {}
  fields := [
    .of "targets" (·.targets) Decoder.string.list
      fun targets draft => { draft with targets := some targets },
    .of "type_annotation" (·.comment) Hint.decoder.nullable
      fun comment draft => { draft with comment := some comment }]
  finish draft kept := do
    let targets ← required "targets" draft.targets
    let comment ← required "type_annotation" draft.comment
    let position ← Position.record.ofMembers kept
    return { position, targets, comment }

end Assignment

/-- A function definition. -/
structure Definition where
  position : Position
  name : String
  parameters : ParameterList
  /-- The hint for what the function returns. -/
  returns : Option Hint := none
deriving DecidableEq

namespace Definition

/-- The definition with a hint for what it returns, over the one that it had. -/
def withReturns (definition : Definition) (hint : Hint) : Definition :=
  { definition with returns := some hint }

/-- The members of the definition. -/
def members (definition : Definition) : List (String × Value) :=
  definition.position.members ++ [
    ("name", .string definition.name),
    ("args", definition.parameters.toValue),
    ("returns", .ofOption Hint.toValue definition.returns)]

/-- A definition of which some fields are known. -/
structure Draft where
  name : Option String := none
  parameters : Option ParameterList := none
  returns : Option (Option Hint) := none

/-- The record of a function definition. -/
def record : Record Draft Definition where
  title := "FunctionDef"
  empty := {}
  fields := [
    .of "name" (·.name) .string fun name draft => { draft with name := some name },
    .of "args" (·.parameters) ParameterList.decoder
      fun parameters draft => { draft with parameters := some parameters },
    .of "returns" (·.returns) Hint.decoder.nullable
      fun returns draft => { draft with returns := some returns }]
  finish draft kept := do
    let name ← required "name" draft.name
    let parameters ← required "args" draft.parameters
    let returns ← required "returns" draft.returns
    let position ← Position.record.ofMembers kept
    return { position, name, parameters, returns }

end Definition

end HintLint
