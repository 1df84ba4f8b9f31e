import HintLint.Pattern.SetText
import HintLint.Text.Alphanumeric

/-!
Reading patterns. A pattern is a choice between sequences of characters, sets and groups, each of
which may be repeated. Flags in parentheses hold up to the end of the group that they stand in; of
all flags only `x`, which makes a pattern verbose, changes how the rest is read.
-/

namespace HintLint.Pattern

/-- The letters of the flags. -/
def flagLetters : List Char := ['i', 'm', 's', 'U', 'u', 'R', 'x']

/-- Whether letters can be read as flags. Each stands there once, and a hyphen, behind which flags
are cleared, has one after it. -/
def areFlags (letters : List Char) : Bool :=
  letters.all (fun c => c == '-' || flagLetters.contains c) && decide letters.Nodup &&
    letters.getLast? != some '-'

/-- What becomes of a flag: set before a hyphen, cleared after it, and left alone if it is not
there. -/
def applyFlag (letter : Char) (letters : List Char) (before : Bool) : Bool :=
  match letters.span (· != '-') with
  | (on, off) => on.contains letter || (before && !off.contains letter)

/-- Whether a character may stand in the name of a group. -/
def isNameChar (first : Bool) (c : Char) : Bool :=
  if first then c == '_' || Text.alphabetic.contains c
  else c == '_' || c == '.' || c == '[' || c == ']' || Text.isAlphanumeric c

/-- Whether a text can be the name of a group. -/
def isName : List Char → Bool
  | [] => false
  | c :: rest => isNameChar true c && rest.all (isNameChar false)

/-- What an opening parenthesis starts. -/
inductive Opening where
  /-- Flags for the rest of the group, which close at once. -/
  | flags (letters : List Char)
  | group (name : Option (List Char)) (letters : List Char)

/-- Reads the name of a group. -/
def groupName? (chars : List Char) : Option (Opening × List Char) :=
  match chars.span (· != '>') with
  | (name, '>' :: rest) => if isName name then some (.group (some name) [], rest) else none
  | _ => none

/-- Reads what stands after an opening parenthesis before the content of a group. Looking ahead and
looking behind are refused. -/
def opening? (chars : List Char) : Option (Opening × List Char) :=
  match chars with
  | '?' :: '=' :: _ | '?' :: '!' :: _ | '?' :: '<' :: '=' :: _ | '?' :: '<' :: '!' :: _ => none
  | '?' :: 'P' :: '<' :: rest | '?' :: '<' :: rest => groupName? rest
  | '?' :: rest =>
    match rest.span fun c => c != ':' && c != ')' with
    | (letters, ':' :: rest) =>
      if areFlags letters then some (.group none letters, rest) else none
    | (letters, ')' :: rest) =>
      if areFlags letters && !letters.isEmpty then some (.flags letters, rest) else none
    | _ => none
  | chars => some (.group none [], chars)

/-- Reads a number of repetitions, with blanks around it; there may be no digits. -/
def countWithin (verbose : Bool) : Nat → Option Nat → List Char → Option Nat × List Char
  | rounds + 1, count, c :: rest =>
    if c.isDigit then
      countWithin verbose rounds (some (10 * count.getD 0 + (c.toNat - '0'.toNat)))
        (next verbose rest)
    else (count, (c :: rest).dropWhile Text.blanks.contains)
  | _, count, chars => (count, chars)

/-- Reads a number of repetitions. It is below two to the power of 32. -/
def count? (verbose : Bool) (chars : List Char) : Option (Option Nat × List Char) :=
  let chars := chars.dropWhile Text.blanks.contains
  match countWithin verbose chars.length none chars with
  | (some count, rest) => if count < UInt32.size then some (some count, rest) else none
  | (none, rest) => some (none, rest)

/-- Reads how often to repeat, after an opening brace: a number, a least number, or both ends of a
range. -/
def bounds? (verbose : Bool) (chars : List Char) : Option (List Char) := do
  let (least, rest) ← count? verbose (next verbose chars)
  match least, rest with
  | some _, '\x7d' :: rest => some rest
  | some least, ',' :: rest =>
    match next verbose rest with
    | '\x7d' :: rest => some rest
    | rest =>
      let (most, rest) ← count? verbose rest
      match most, rest with
      | some most, '\x7d' :: rest => if least ≤ most then some rest else none
      | _, _ => none
  | _, _ => none

/-- The rest after a mark that makes a repetition prefer fewer rounds. -/
def afterMark : List Char → List Char
  | '?' :: rest => rest
  | chars => chars

/-- Repeats the last of the parts, if there is one that can be repeated. -/
def repeatLast? : List Pattern → Option (List Pattern)
  | [] => none
  | part :: parts => if part.isFlags then none else some (repeated part :: parts)

/-- Reads a character, alone or behind a backslash. -/
def atom? (verbose : Bool) : List Char → Option (Pattern × List Char)
  | [] => none
  | '.' :: rest => some (any, rest)
  | '^' :: rest | '$' :: rest => some (anchor, rest)
  | '\\' :: rest => do
    let (escape, rest) ← Escape.ofChars? verbose rest
    match escape with
    | .literal c asByte => some (literal c asByte, rest)
    | .anchor => some (anchor, rest)
    | .wordEdge => some (wordEdge, rest)
    | .shorthand negated => some (shorthand negated, rest)
  | c :: rest => some (literal c false, rest)

/-- What has been read of a group: its branches and the parts of its last branch, in reverse. -/
structure Draft where
  branches : List Pattern := []
  parts : List Pattern := []

namespace Draft

/-- The draft with one more part. -/
def push (draft : Draft) (part : Pattern) : Draft := { draft with parts := part :: draft.parts }

/-- The draft after a bar. -/
def divide (draft : Draft) : Draft := ⟨ofParts draft.parts.reverse :: draft.branches, []⟩

/-- The pattern that has been read. -/
def close (draft : Draft) : Pattern := ofBranches draft.divide.branches.reverse

end Draft

/-- Reads the content of a group up to the closing parenthesis or the end, which it leaves. -/
def bodyWithin : Nat → Bool → Draft → List Char → Option (Pattern × List Char)
  | 0, _, _, _ => none
  | rounds + 1, verbose, draft, chars =>
    match next verbose chars with
    | [] => some (draft.close, [])
    | ')' :: rest => some (draft.close, ')' :: rest)
    | '|' :: rest => bodyWithin rounds verbose draft.divide rest
    | '(' :: rest =>
      match opening? (next verbose rest) with
      | none => none
      | some (.flags letters, rest) =>
        bodyWithin rounds (applyFlag 'x' letters verbose) (draft.push (flags letters)) rest
      | some (.group name letters, rest) =>
        match bodyWithin rounds (applyFlag 'x' letters verbose) {} rest with
        | some (inner, ')' :: rest) =>
          bodyWithin rounds verbose (draft.push (group name letters inner)) rest
        | _ => none
    | '[' :: rest => do
      let (inner, rest) ← CharSet.ofChars? verbose rest
      bodyWithin rounds verbose (draft.push (set inner)) rest
    | '?' :: rest | '*' :: rest | '+' :: rest => do
      let parts ← repeatLast? draft.parts
      bodyWithin rounds verbose { draft with parts } (afterMark rest)
    | '\x7b' :: rest => do
      let parts ← repeatLast? draft.parts
      let rest ← bounds? verbose rest
      bodyWithin rounds verbose { draft with parts } (afterMark (next verbose rest))
    | chars => do
      let (part, rest) ← atom? verbose chars
      bodyWithin rounds verbose (draft.push part) rest

/-- Reads a pattern. -/
def ofChars? (chars : List Char) : Option Pattern :=
  match bodyWithin (chars.length + 1) false {} chars with
  | some (pattern, []) => some pattern
  | _ => none

end HintLint.Pattern
