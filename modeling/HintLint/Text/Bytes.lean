/-!
Places in a text counted in bytes of its UTF-8 form. There is no cut inside a character.
-/

namespace HintLint.Text

/-- The number of bytes of a text. -/
def byteCount : List Char → Nat
  | [] => 0
  | c :: chars => c.utf8Size + byteCount chars

/-- The text after the given number of bytes. -/
def dropBytes : Nat → List Char → Option (List Char)
  | 0, chars => some chars
  | _ + 1, [] => none
  | count + 1, c :: chars =>
    if c.utf8Size ≤ count + 1 then dropBytes (count + 1 - c.utf8Size) chars else none

/-- The given number of bytes of a text. -/
def takeBytes : Nat → List Char → Option (List Char)
  | 0, _ => some []
  | _ + 1, [] => none
  | count + 1, c :: chars =>
    if c.utf8Size ≤ count + 1 then (takeBytes (count + 1 - c.utf8Size) chars).map (c :: ·)
    else none

/-- The bytes of a text from one place up to another. -/
def cut (first last : Nat) (chars : List Char) : Option (List Char) :=
  (dropBytes first chars).bind (takeBytes (last - first))

end HintLint.Text
