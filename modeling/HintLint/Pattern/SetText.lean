import HintLint.Pattern.Basic
import HintLint.Pattern.Escape

/-!
Reading sets of characters in brackets. A set is a union of characters, ranges, shorthands and
further sets; `&&`, `--` and `~~` combine what stands on their left with what follows.
-/

namespace HintLint.CharSet

open Pattern

/-- The names of sets. -/
def setNames : List String :=
  ["alnum", "alpha", "ascii", "blank", "cntrl", "digit", "graph", "lower", "print", "punct",
    "space", "upper", "word", "xdigit"]

/-- Reads a set by name, after its opening bracket. -/
def named? (chars : List Char) : Option (CharSet × List Char) :=
  match chars with
  | ':' :: '^' :: rest => ofName true rest
  | ':' :: rest => ofName false rest
  | _ => none
where
  /-- Reads the name and what closes it. -/
  ofName (negated : Bool) (chars : List Char) : Option (CharSet × List Char) :=
    match chars.span (· != ':') with
    | (name, ':' :: ']' :: rest) =>
      if setNames.contains (String.ofList name) then some (named negated, rest) else none
    | _ => none

/-- The character after a hyphen that decides whether the hyphen makes a range. Where blanks mean
nothing they are passed over, and so is the number sign of a comment. -/
def peek (verbose : Bool) (rest : List Char) : Option Char :=
  if verbose then
    match rest.dropWhile Text.blanks.contains with
    | [] => rest.head?
    | '#' :: comment =>
      match comment.dropWhile Text.blanks.contains with
      | [] => rest.head?
      | c :: _ => some c
    | c :: _ => some c
  else rest.head?

/-- Reads a character, which may stand behind a backslash. -/
def element? (verbose : Bool) : List Char → Option (Escape × List Char)
  | [] => none
  | '\\' :: rest => Escape.ofChars? verbose rest
  | c :: rest => some (.literal c false, rest)

/-- Reads a single item: a range, a shorthand or a character. -/
def item? (verbose : Bool) (chars : List Char) : Option (CharSet × List Char) := do
  let (first, rest) ← element? verbose chars
  match next verbose rest with
  | [] => none
  | '-' :: after =>
    if peek verbose after = some ']' || peek verbose after = some '-' then
      single first ('-' :: after)
    else
      match first, ← element? verbose (next verbose after) with
      | .literal first _, (.literal last _, rest) =>
        if first ≤ last then some (range first last, rest) else none
      | _, _ => none
  | rest => single first rest
where
  /-- An item that is no range. -/
  single (first : Escape) (rest : List Char) : Option (CharSet × List Char) :=
    match first with
    | .literal c _ => some (literal c, rest)
    | .shorthand negated => some (shorthand negated, rest)
    | .anchor | .wordEdge => none

/-- Reads hyphens that stand for themselves at the start of a set. -/
def leadingHyphens (verbose : Bool) : Nat → List CharSet → List Char → List CharSet × List Char
  | rounds + 1, items, '-' :: rest =>
    leadingHyphens verbose rounds (literal '-' :: items) (next verbose rest)
  | _, items, chars => (items, chars)

/-- Reads the start of a set after its opening bracket: whether it is negated, and the items that
could not stand elsewhere, which are hyphens, or else a closing bracket. -/
def opening (verbose : Bool) (chars : List Char) : Bool × List CharSet × List Char :=
  let (negated, chars) := match next verbose chars with
    | '^' :: rest => (true, next verbose rest)
    | chars => (false, chars)
  match leadingHyphens verbose chars.length [] chars with
  | ([], ']' :: rest) => (negated, [literal ']'], rest)
  | (items, rest) => (negated, items, rest)

/-- What has been read of a set: the last items, in reverse, and what stands on the left of the last
operation. -/
structure Draft where
  left : Option CharSet
  items : List CharSet

namespace Draft

/-- The draft with one more item. -/
def push (draft : Draft) (item : CharSet) : Draft := { draft with items := item :: draft.items }

/-- The set that has been read. -/
def close (draft : Draft) : CharSet :=
  match draft.left with
  | none => ofItems draft.items.reverse
  | some left => operation left (ofItems draft.items.reverse)

/-- The draft after the sign of an operation. -/
def operate (draft : Draft) : Draft := ⟨some draft.close, []⟩

end Draft

/-- Reads a set up to its closing bracket. -/
def bodyWithin (verbose : Bool) : Nat → Draft → List Char → Option (CharSet × List Char)
  | 0, _, _ => none
  | rounds + 1, draft, chars =>
    match next verbose chars with
    | [] => none
    | ']' :: rest => some (draft.close, rest)
    | '&' :: '&' :: rest | '-' :: '-' :: rest | '~' :: '~' :: rest =>
      bodyWithin verbose rounds draft.operate rest
    | '[' :: rest =>
      match named? rest with
      | some (item, rest) => bodyWithin verbose rounds (draft.push item) rest
      | none => do
        let (negated, items, rest) := opening verbose rest
        let (inner, rest) ← bodyWithin verbose rounds ⟨none, items⟩ rest
        bodyWithin verbose rounds (draft.push (bracketed negated inner)) rest
    | chars => do
      let (item, rest) ← item? verbose chars
      bodyWithin verbose rounds (draft.push item) rest

/-- Reads a set after its opening bracket. -/
def ofChars? (verbose : Bool) (chars : List Char) : Option (CharSet × List Char) := do
  let (negated, items, rest) := opening verbose chars
  let (inner, rest) ← bodyWithin verbose (rest.length + 1) ⟨none, items⟩ rest
  return (bracketed negated inner, rest)

end HintLint.CharSet
