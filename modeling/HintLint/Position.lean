import HintLint.Json.Pair

/-!
Positions in a source file, ordered by line and then by column. A position may stand alone, as an
object or a list of two numbers, or its two numbers may stand among the members of a record.
-/

namespace HintLint

open Json

/-- A position in a source file. -/
structure Position where
  /-- The line, counted from one. -/
  line : UInt32
  /-- The bytes before the position on its line. -/
  column : UInt32
deriving DecidableEq

namespace Position

/-- By line, then by column. -/
instance : Ord Position where
  compare a b := (compare a.line b.line).then (compare a.column b.column)

/-- The positions in their order. -/
def sort (positions : List Position) : List Position :=
  positions.mergeSort fun a b => (compare a b).isLE

/-- Line and column with a colon between them. -/
def text (position : Position) : String :=
  toString position.line.toNat ++ ":" ++ toString position.column.toNat

/-- The members that a position adds to a record. -/
def members (position : Position) : List (String × Value) :=
  [("line", .ofWord position.line), ("col", .ofWord position.column)]

/-- A position that stands alone. -/
def toValue (position : Position) : Value := .object position.members

/-- Reads a position that stands alone. -/
def read : Reader Position := fun levels text => do
  let ((line, column), rest) ← readPair "Position" ⟨"line", Decoder.word.read, none⟩
    ⟨"col", Decoder.word.read, none⟩ levels text
  return (⟨line, column⟩, rest)

/-- A position of which some numbers are known. -/
structure Draft where
  line : Option UInt32 := none
  column : Option UInt32 := none

/-- The position among the members of a record. -/
def record : Record Draft Position where
  title := "Position"
  empty := {}
  fields := [
    .of "line" (·.line) .word fun line draft => { draft with line := some line },
    .of "col" (·.column) .word fun column draft => { draft with column := some column }]
  finish draft _ := do
    let line ← required "line" draft.line
    let column ← required "col" draft.column
    return ⟨line, column⟩

end Position

end HintLint
