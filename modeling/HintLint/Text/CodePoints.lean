/-!
Sets of characters, as tables of the Unicode character database give them.
-/

namespace HintLint.Text

/-- A set of characters. -/
structure CodePoints where
  /-- Closed ranges of code points. -/
  ranges : Array (Nat × Nat)

namespace CodePoints

/-- Whether a character belongs to a set. -/
def contains (set : CodePoints) (c : Char) : Bool :=
  set.ranges.any fun (first, last) => first ≤ c.toNat && c.toNat ≤ last

end CodePoints

end HintLint.Text
