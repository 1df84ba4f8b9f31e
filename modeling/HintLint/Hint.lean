import HintLint.Position

/-!
Type hints, the expressions that the linter bans. A hint has its own position, apart from that of
the parameter or statement that carries it. The slot of a hint may be empty, which is written
`null`.
-/

namespace HintLint

open Json

/-- A type hint. -/
structure Hint where
  /-- The text of the hint. -/
  source : String
  position : Position
deriving DecidableEq

namespace Hint

/-- A hint as a record. -/
def toValue (hint : Hint) : Value :=
  .object (("source", .string hint.source) :: hint.position.members)

/-- A hint of which some fields are known. -/
structure Draft where
  source : Option String := none

/-- The record of a hint. -/
def record : Record Draft Hint where
  title := "AnnotationExpr"
  empty := {}
  fields := [
    .of "source" (·.source) .string fun source draft => { draft with source := some source }]
  finish draft kept := do
    let source ← required "source" draft.source
    let position ← Position.record.ofMembers kept
    return ⟨source, position⟩

/-- The shape of a hint. -/
def decoder : Decoder Hint := record.decoder

end Hint

end HintLint
