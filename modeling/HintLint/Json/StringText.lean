import HintLint.Json.Reading

/-!
JSON strings after their opening quote. `stringBody` reads the characters that a string stands for;
`skipString` only finds its end, and does not look at how surrogates pair up. A character outside
the basic plane is written as two escapes of four digits, a high and a low surrogate.
-/

namespace HintLint.Json

/-- The value of a hexadecimal digit. -/
def hexDigit? (c : Char) : Option Nat :=
  if '0' ≤ c ∧ c ≤ '9' then some (c.toNat - '0'.toNat)
  else if 'a' ≤ c ∧ c ≤ 'f' then some (c.toNat - 'a'.toNat + 10)
  else if 'A' ≤ c ∧ c ≤ 'F' then some (c.toNat - 'A'.toNat + 10)
  else none

/-- The number that four hexadecimal digits stand for. -/
def codeUnit? (a b c d : Char) : Option Nat := do
  return (((← hexDigit? a) * 16 + (← hexDigit? b)) * 16 + (← hexDigit? c)) * 16 + (← hexDigit? d)

/-- The first half of a character outside the basic plane. -/
def isHighSurrogate (unit : Nat) : Bool := 0xD800 ≤ unit && unit ≤ 0xDBFF

/-- The second half of a character outside the basic plane. -/
def isLowSurrogate (unit : Nat) : Bool := 0xDC00 ≤ unit && unit ≤ 0xDFFF

/-- The character of a high and a low surrogate. -/
def joinSurrogates (high low : Nat) : Char :=
  Char.ofNat (0x10000 + (high - 0xD800) * 0x400 + (low - 0xDC00))

/-- The character that a letter after a backslash stands for. -/
def shortEscape? : Char → Option Char
  | '"' => some '"'
  | '\\' => some '\\'
  | '/' => some '/'
  | 'b' => some '\x08'
  | 'f' => some '\x0c'
  | 'n' => some '\n'
  | 'r' => some '\r'
  | 't' => some '\t'
  | _ => none

/-- The failure where four hexadecimal digits should stand and do not: four bytes are read if there
are as many. -/
def badHex (text : Unread) : Failure :=
  if byteLength text < 4 then stop .endInString [] else stopPast 4 .invalidEscape text

/-- The failure where a high surrogate is not followed by four more digits. -/
def badPair : Unread → Failure
  | '\\' :: 'u' :: rest => badHex rest
  | '\\' :: c :: rest => stopAt .unpairedSurrogate (c :: rest)
  | ['\\'] => stop .endInString []
  | c :: rest => stopAt .unpairedSurrogate (c :: rest)
  | [] => stop .endInString []

/-- Puts a character before the characters read. -/
def prepend (c : Char) (read : Except Failure (List Char × Unread)) :
    Except Failure (List Char × Unread) :=
  read.map fun (chars, rest) => (c :: chars, rest)

/-- Reads the characters of a string up to and including its closing quote. -/
def stringBody : Unread → Except Failure (List Char × Unread)
  | [] => .error (stop .endInString [])
  | '"' :: rest => .ok ([], rest)
  | ['\\'] => .error (stop .endInString [])
  | '\\' :: 'u' :: a :: b :: c :: d :: rest =>
    match codeUnit? a b c d with
    | none => .error (badHex (a :: b :: c :: d :: rest))
    | some unit =>
      if isLowSurrogate unit then .error (stop .loneSurrogate rest)
      else if isHighSurrogate unit then
        match rest with
        | '\\' :: 'u' :: e :: f :: g :: h :: rest =>
          match codeUnit? e f g h with
          | none => .error (badHex (e :: f :: g :: h :: rest))
          | some low =>
            if isLowSurrogate low then prepend (joinSurrogates unit low) (stringBody rest)
            else .error (stop .loneSurrogate rest)
        | rest => .error (badPair rest)
      else prepend (Char.ofNat unit) (stringBody rest)
  | '\\' :: 'u' :: rest => .error (badHex rest)
  | '\\' :: c :: rest =>
    match shortEscape? c with
    | some char => prepend char (stringBody rest)
    | none => .error (stopAt .invalidEscape (c :: rest))
  | c :: rest =>
    if c.toNat < 0x20 then .error (stopAt .controlCharacter (c :: rest))
    else prepend c (stringBody rest)

/-- Finds the end of a string. -/
def skipString : Unread → Except Failure Unread
  | [] => .error (stop .endInString [])
  | '"' :: rest => .ok rest
  | ['\\'] => .error (stop .endInString [])
  | '\\' :: 'u' :: a :: b :: c :: d :: rest =>
    match codeUnit? a b c d with
    | none => .error (badHex (a :: b :: c :: d :: rest))
    | some _ => skipString rest
  | '\\' :: 'u' :: rest => .error (badHex rest)
  | '\\' :: c :: rest =>
    match shortEscape? c with
    | some _ => skipString rest
    | none => .error (stopAt .invalidEscape (c :: rest))
  | c :: rest =>
    if c.toNat < 0x20 then .error (stop .controlCharacter (c :: rest)) else skipString rest

end HintLint.Json
