import HintLint.Text.Blank

/-!
The small parts of a written pattern: blanks that may be passed over, and characters behind a
backslash. Where a pattern is verbose, blanks and comments between its parts mean nothing.
-/

namespace HintLint.Pattern

/-- Passes over blanks and comments. A comment goes from a number sign to the end of the line. -/
def skipBlanks : List Char → List Char
  | [] => []
  | c :: rest =>
    if Text.blanks.contains c then skipBlanks rest
    else if c = '#' then inComment rest
    else c :: rest
where
  /-- Passes over the rest of a comment. -/
  inComment : List Char → List Char
    | [] => []
    | '\n' :: rest => skipBlanks rest
    | _ :: rest => inComment rest

/-- Passes over what means nothing in front of the next part. -/
def next (verbose : Bool) (chars : List Char) : List Char :=
  if verbose then skipBlanks chars else chars

/-- What a backslash makes of the characters after it. -/
inductive Escape where
  | literal (c : Char) (asByte : Bool)
  | anchor
  | wordEdge
  | shorthand (negated : Bool)

namespace Escape

/-- The value of a hexadecimal digit. -/
def hexValue? (c : Char) : Option Nat :=
  if '0' ≤ c ∧ c ≤ '9' then some (c.toNat - '0'.toNat)
  else if 'a' ≤ c ∧ c ≤ 'f' then some (c.toNat - 'a'.toNat + 10)
  else if 'A' ≤ c ∧ c ≤ 'F' then some (c.toNat - 'A'.toNat + 10)
  else none

/-- The character with the given code point. -/
def charOf? (code : Nat) : Option Char := if code.isValidChar then some (Char.ofNat code) else none

/-- Reads the given number of hexadecimal digits. -/
def hexDigits? (verbose : Bool) : Nat → Nat → List Char → Option (Nat × List Char)
  | 0, code, chars => some (code, chars)
  | _ + 1, _, [] => none
  | count + 1, code, c :: rest => do
    hexDigits? verbose count (16 * code + (← hexValue? c)) (next verbose rest)

/-- Reads hexadecimal digits up to a closing brace. -/
def bracedHex? (verbose : Bool) : Nat → Option Nat → List Char → Option (Nat × List Char)
  | 0, _, _ => none
  | _ + 1, _, [] => none
  | rounds + 1, code, c :: rest =>
    if c = '\x7d' then code.map fun code => (code, next verbose rest)
    else do
      let digit ← hexValue? c
      bracedHex? verbose rounds (some (16 * code.getD 0 + digit)) (next verbose rest)

/-- Reads a character by its code point, after the letter that announces it. -/
def codePoint? (verbose : Bool) (digits : Nat) (asByte : Bool) (chars : List Char) :
    Option (Escape × List Char) :=
  match next verbose chars with
  | '\x7b' :: rest => do
    let rest := next verbose rest
    let (code, rest) ← bracedHex? verbose (rest.length + 1) none rest
    return (literal (← charOf? code) false, rest)
  | chars => do
    let (code, rest) ← hexDigits? verbose digits 0 chars
    return (literal (← charOf? code) asByte, rest)

/-- Whether a letter or a hyphen, of which the names of special word edges consist. -/
def isEdgeChar (c : Char) : Bool := c.isAlpha || c == '-'

/-- Reads the name of a special word edge up to a closing brace. -/
def edgeName? (verbose : Bool) : Nat → List Char → List Char → Option (List Char × List Char)
  | 0, _, _ => none
  | _ + 1, _, [] => none
  | rounds + 1, name, c :: rest =>
    if c = '\x7d' then some (name.reverse, rest)
    else if isEdgeChar c then edgeName? verbose rounds (c :: name) (next verbose rest)
    else none

/-- Reads the edge of a word, after its letter. It may have a name in braces; braces with anything
but a name are left for a repetition. -/
def wordEdge? (verbose : Bool) (chars : List Char) : Option (Escape × List Char) :=
  match chars with
  | '\x7b' :: rest =>
    match next verbose rest with
    | [] => none
    | c :: inner =>
      if isEdgeChar c then do
        let (name, rest) ← edgeName? verbose (inner.length + 2) [] (c :: inner)
        if ["start", "end", "start-half", "end-half"].contains (String.ofList name) then
          return (wordEdge, rest)
        else none
      else some (wordEdge, chars)
  | chars => some (wordEdge, chars)

/-- Reads what stands behind a backslash. Letters and digits without a meaning are refused, and so
are properties of characters, for which there are no tables. All other ASCII characters stand for
themselves. -/
def ofChars? (verbose : Bool) : List Char → Option (Escape × List Char)
  | [] => none
  | 'x' :: rest => codePoint? verbose 2 true rest
  | 'u' :: rest => codePoint? verbose 4 false rest
  | 'U' :: rest => codePoint? verbose 8 false rest
  | 'd' :: rest | 's' :: rest | 'w' :: rest => some (shorthand false, rest)
  | 'D' :: rest | 'S' :: rest | 'W' :: rest => some (shorthand true, rest)
  | 'a' :: rest => some (literal '\x07' false, rest)
  | 'f' :: rest => some (literal '\x0c' false, rest)
  | 't' :: rest => some (literal '\t' false, rest)
  | 'n' :: rest => some (literal '\n' false, rest)
  | 'r' :: rest => some (literal '\r' false, rest)
  | 'v' :: rest => some (literal '\x0b' false, rest)
  | 'A' :: rest | 'z' :: rest => some (anchor, rest)
  | 'B' :: rest | '<' :: rest | '>' :: rest => some (wordEdge, rest)
  | 'b' :: rest => wordEdge? verbose rest
  | c :: rest => if c.toNat < 0x80 && !c.isAlphanum then some (literal c false, rest) else none

end Escape

end HintLint.Pattern
