/-!
Patterns: regular expressions over text, as far as it matters whether one can be used. What a
pattern matches is not said here.
-/

namespace HintLint

/-- A set of characters, as it is written in brackets. -/
inductive CharSet where
  | nothing
  | literal (c : Char)
  | range (first last : Char)
  /-- A set by name, such as `[:alpha:]` or, negated, `[:^alpha:]`. -/
  | named (negated : Bool)
  /-- Digits, blanks or word characters, or all others. -/
  | shorthand (negated : Bool)
  | bracketed (negated : Bool) (inner : CharSet)
  | union (items : List CharSet)
  /-- The characters in both sets, in the first only, or in one of them only. -/
  | operation (left right : CharSet)

namespace CharSet

/-- The union of items. -/
def ofItems : List CharSet → CharSet
  | [] => nothing
  | [item] => item
  | items => union items

mutual

/-- Whether brackets, unions and operations nest at most as deep as given. -/
def fits (depth : Nat) : CharSet → Bool
  | nothing | literal _ | range _ _ | named _ | shorthand _ => true
  | bracketed _ inner => depth != 0 && fits (depth - 1) inner
  | union items => depth != 0 && allFit (depth - 1) items
  | operation left right => depth != 0 && fits (depth - 1) left && fits (depth - 1) right

/-- Whether all sets nest at most as deep as given. -/
def allFit (depth : Nat) : List CharSet → Bool
  | [] => true
  | item :: items => fits depth item && allFit depth items

end

end CharSet

/-- A pattern. -/
inductive Pattern where
  | empty
  /-- A character. One that is written as two hexadecimal digits may stand for a byte. -/
  | literal (c : Char) (asByte : Bool)
  /-- Any character. -/
  | any
  /-- The start or the end of a line or of the text. -/
  | anchor
  /-- The edge of a word, or a place that is none. -/
  | wordEdge
  /-- Digits, blanks or word characters, or all others. -/
  | shorthand (negated : Bool)
  | set (set : CharSet)
  /-- Flags for the rest of the group. -/
  | flags (letters : List Char)
  /-- A group, with flags that hold inside, and with a name if it has one. -/
  | group (name : Option (List Char)) (letters : List Char) (inner : Pattern)
  | repeated (inner : Pattern)
  | sequence (parts : List Pattern)
  | alternatives (branches : List Pattern)

namespace Pattern

/-- The sequence of parts. -/
def ofParts : List Pattern → Pattern
  | [] => empty
  | [part] => part
  | parts => sequence parts

/-- The choice between branches. -/
def ofBranches : List Pattern → Pattern
  | [branch] => branch
  | branches => alternatives branches

/-- Whether a pattern does nothing but set flags. Flags cannot be repeated. -/
def isFlags : Pattern → Bool
  | flags _ => true
  | _ => false

mutual

/-- Whether groups, repetitions, sequences, choices and sets nest at most as deep as given. -/
def fits (depth : Nat) : Pattern → Bool
  | empty | literal _ _ | any | anchor | wordEdge | shorthand _ | flags _ => true
  | set inner => inner.fits depth
  | group _ _ inner => depth != 0 && fits (depth - 1) inner
  | repeated inner => depth != 0 && fits (depth - 1) inner
  | sequence parts => depth != 0 && allFit (depth - 1) parts
  | alternatives branches => depth != 0 && allFit (depth - 1) branches

/-- Whether all patterns nest at most as deep as given. -/
def allFit (depth : Nat) : List Pattern → Bool
  | [] => true
  | part :: parts => fits depth part && allFit depth parts

end

mutual

/-- The names of the groups in a pattern. -/
def names : Pattern → List (List Char)
  | empty | literal _ _ | any | anchor | wordEdge | shorthand _ | flags _ | set _ => []
  | group name _ inner => name.toList ++ names inner
  | repeated inner => names inner
  | sequence parts => allNames parts
  | alternatives branches => allNames branches

/-- The names of the groups in several patterns. -/
def allNames : List Pattern → List (List Char)
  | [] => []
  | part :: parts => names part ++ allNames parts

end

end Pattern

end HintLint
