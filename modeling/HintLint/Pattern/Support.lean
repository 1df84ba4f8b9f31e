import HintLint.Pattern.Reader

/-!
Which patterns can be used. A pattern matches text, never parts of a character, and it is used
without any tables of characters. So digits, blanks, word characters, edges of words and letters
without regard to case are available in ASCII only, where the flag `u` is cleared; and there nothing
may match bytes beyond ASCII.
-/

namespace HintLint

/-- The flags that decide what is available. -/
structure Pattern.Mode where
  caseless : Bool := false
  unicode : Bool := true

namespace Pattern.Mode

/-- The mode after flags. -/
def apply (letters : List Char) (mode : Mode) : Mode where
  caseless := applyFlag 'i' letters mode.caseless
  unicode := applyFlag 'u' letters mode.unicode

/-- Whether regard to case is as asked for. -/
def hasCases (mode : Mode) : Bool := !(mode.unicode && mode.caseless)

/-- Whether a character is available. Beyond ASCII, one that stands for a byte is not. -/
def hasLiteral (mode : Mode) (c : Char) (asByte : Bool) : Bool :=
  if mode.unicode then !mode.caseless else !(asByte && 0x80 ≤ c.toNat)

/-- Whether a shorthand is available. -/
def hasShorthand (mode : Mode) (negated : Bool) : Bool := !mode.unicode && !negated

/-- Whether the complement of a set is available. -/
def hasComplement (mode : Mode) (negated : Bool) : Bool := mode.unicode || !negated

/-- Whether a character can be an element of a set. -/
def hasElement (mode : Mode) (c : Char) : Bool :=
  if mode.unicode then !mode.caseless else c.toNat < 0x80

end Pattern.Mode

open Pattern (Mode)

mutual

/-- Whether a set can be used. -/
def CharSet.isSupported (mode : Mode) : CharSet → Bool
  | .nothing => true
  | .literal c => mode.hasElement c
  | .range _ last => mode.hasElement last
  | .named negated => mode.hasCases && mode.hasComplement negated
  | .shorthand negated => mode.hasShorthand negated
  | .bracketed negated inner => mode.hasComplement negated && inner.isSupported mode
  | .union items => CharSet.areSupported mode items
  | .operation left right => left.isSupported mode && right.isSupported mode

/-- Whether all sets can be used. -/
def CharSet.areSupported (mode : Mode) : List CharSet → Bool
  | [] => true
  | item :: items => item.isSupported mode && CharSet.areSupported mode items

end

namespace Pattern

mutual

/-- The mode after a pattern, if the pattern can be used. -/
def supported? (mode : Mode) : Pattern → Option Mode
  | empty | anchor => some mode
  | any => if mode.unicode then some mode else none
  | literal c asByte => if mode.hasLiteral c asByte then some mode else none
  | wordEdge => if mode.unicode then none else some mode
  | shorthand negated => if mode.hasShorthand negated then some mode else none
  | set inner => if inner.isSupported mode then some mode else none
  | flags letters => some (mode.apply letters)
  | group _ letters inner => (supported? (mode.apply letters) inner).map fun _ => mode
  | repeated inner => supported? mode inner
  | sequence parts => allSupported? mode parts
  | alternatives branches => allSupported? mode branches

/-- The mode after patterns that follow one another, if all can be used. -/
def allSupported? (mode : Mode) : List Pattern → Option Mode
  | [] => some mode
  | part :: parts => (supported? mode part).bind fun mode => allSupported? mode parts

end

/-- How deep a pattern may nest. -/
def nestingLimit : Nat := 250

/-- Whether a text is a pattern that can be used. No two of its groups have the same name. -/
def isUsable (chars : List Char) : Bool :=
  (ofChars? chars).any fun pattern =>
    pattern.fits nestingLimit && decide pattern.names.Nodup && (pattern.supported? {}).isSome

end Pattern

end HintLint
