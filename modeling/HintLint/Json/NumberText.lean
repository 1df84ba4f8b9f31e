import HintLint.Json.Reading

/-!
JSON numbers. `number` reads the value: digits are taken into a significand of 64 bits as long as it
holds them, whole digits beyond count as powers of ten and fraction digits beyond are dropped. A
number without fraction and exponent that fits into 64 bits is an integer; any other is the
significand, rounded to binary, times or over one rounded power of ten. `skipNumber` only finds the
end.
-/

namespace HintLint.Json

/-- The value of a decimal digit. -/
def digitValue (c : Char) : Nat := c.toNat - '0'.toNat

/-- Takes digits into a significand of 64 bits as long as it holds them, and returns the digits
that are left. -/
def absorb (significand : Nat) : List Char → Nat × List Char
  | [] => (significand, [])
  | c :: digits =>
    let next := significand * 10 + digitValue c
    if next < UInt64.size then absorb next digits else (significand, c :: digits)

/-- The digits before the point. A zero stands alone. -/
def wholePart : Unread → Except Failure (List Char × Unread)
  | [] => .error (stop .endInValue [])
  | '0' :: d :: rest =>
    if d.isDigit then .error (stopAt .invalidNumber (d :: rest)) else .ok (['0'], d :: rest)
  | c :: rest =>
    if c.isDigit then .ok ((c :: rest).span Char.isDigit)
    else .error (stopAt .invalidNumber (c :: rest))

/-- The digits after the point, of which there is at least one. -/
def fractionPart (text : Unread) : Except Failure (List Char × Unread) :=
  match text with
  | [] => .error (stop .endInValue [])
  | c :: rest =>
    if c.isDigit then .ok (text.span Char.isDigit)
    else .error (stopAt .invalidNumber (c :: rest))

/-- The greatest power of ten that is divided or multiplied by at once. -/
def greatestPower : Nat := 308

/-- The magnitude over a power of ten, by as many rounded divisions as the power needs. -/
def shrink (magnitude : Decimal.Binary) (power : Nat) : Decimal.Binary :=
  if power ≤ greatestPower then magnitude.div (.tenPow power)
  else if magnitude.mantissa = 0 then magnitude
  else shrink (magnitude.div (.tenPow greatestPower)) (power - greatestPower)
termination_by power
decreasing_by
  have : 0 < greatestPower := by decide
  omega

/-- The magnitude of `significand * 10 ^ exponent`, unless it is too large. -/
def magnitude? (significand : Nat) : Int → Option Decimal.Binary
  | .ofNat power =>
    if significand = 0 then some .zero
    else if power ≤ greatestPower then
      let product := (Decimal.Binary.ofNat significand).mul (.tenPow power)
      if product.inRange then some product else none
    else none
  | .negSucc power => some (shrink (.ofNat significand) (power + 1))

/-- A floating-point number, or the failure of one that is too large. -/
def float (negative : Bool) (significand : Nat) (exponent : Int) (rest : Unread) :
    Except Failure (Number × Unread) :=
  match magnitude? significand exponent with
  | some magnitude => .ok (.float negative magnitude, rest)
  | none => .error (stop .numberOutOfRange rest)

/-- Exponents are numbers of 31 bits. -/
def exponentBound : Nat := 0x80000000

/-- The value of exponent digits. When it outgrows 31 bits, only the text after the digit at which
it does. -/
def exponentValue (value : Nat) : Unread → Except Unread (Nat × Unread)
  | [] => .ok (value, [])
  | c :: rest =>
    if c.isDigit then
      let next := value * 10 + digitValue c
      if next < exponentBound then exponentValue next rest else .error rest
    else .ok (value, c :: rest)

/-- A floating-point number whose exponent starts at the text, after its mark and sign. -/
def floatWithExponent (negative : Bool) (significand : Nat) (exponent : Int) (down : Bool)
    (text : Unread) : Except Failure (Number × Unread) :=
  match text with
  | [] => .error (stop .endInValue [])
  | c :: rest =>
    if c.isDigit then
      match exponentValue 0 text with
      | .ok (value, rest) =>
        float negative significand (if down then exponent - value else exponent + value) rest
      | .error rest =>
        if significand = 0 || down then
          .ok (.float negative .zero, rest.dropWhile Char.isDigit)
        else .error (stop .numberOutOfRange rest)
    else .error (stopAt .invalidNumber (c :: rest))

/-- Whether the text goes on with the mark of an exponent. -/
def startsExponent : Unread → Bool
  | c :: _ => c == 'e' || c == 'E'
  | [] => false

/-- A floating-point number of which an exponent may follow. -/
def floatTail (negative : Bool) (significand : Nat) (exponent : Int) (text : Unread) :
    Except Failure (Number × Unread) :=
  if startsExponent text then
    match text.drop 1 with
    | '+' :: rest => floatWithExponent negative significand exponent false rest
    | '-' :: rest => floatWithExponent negative significand exponent true rest
    | rest => floatWithExponent negative significand exponent false rest
  else float negative significand exponent text

/-- The greatest number whose negation fits into 64 bits with a sign. -/
def greatestNegated : Nat := 0x8000000000000000

/-- A whole number without fraction and exponent. Negative zero, and what does not fit into 64 bits
with a sign, are floating-point numbers. -/
def wholeNumber (negative : Bool) (significand : Nat) : Number :=
  if negative then
    if significand = 0 ∨ greatestNegated < significand then .float true (.ofNat significand)
    else .integer (-significand)
  else .integer significand

/-- Reads a number after its sign. -/
def number (negative : Bool) (text : Unread) : Except Failure (Number × Unread) := do
  let (whole, rest) ← wholePart text
  let (significand, beyond) := absorb 0 whole
  match rest with
  | '.' :: rest =>
    let (fraction, rest) ← fractionPart rest
    let (extended, dropped) := absorb significand fraction
    floatTail negative extended (beyond.length - (fraction.length - dropped.length : Nat)) rest
  | rest =>
    if beyond.isEmpty && !startsExponent rest then .ok (wholeNumber negative significand, rest)
    else floatTail negative significand beyond.length rest

/-- Finds the end of an exponent, after its mark and sign. -/
def skipExponent : Unread → Except Failure Unread
  | [] => .error (stop .invalidNumber [])
  | c :: rest =>
    if c.isDigit then .ok (rest.dropWhile Char.isDigit)
    else .error (stopAt .invalidNumber (c :: rest))

/-- Finds the end of a number of which an exponent may follow. -/
def skipTail (text : Unread) : Except Failure Unread :=
  if startsExponent text then
    match text.drop 1 with
    | '+' :: rest => skipExponent rest
    | '-' :: rest => skipExponent rest
    | rest => skipExponent rest
  else .ok text

/-- Finds the end of a number after its sign. -/
def skipNumber (text : Unread) : Except Failure Unread :=
  match text with
  | [] => .error (stop .invalidNumber [])
  | _ => do
    let (_, rest) ← wholePart text
    match rest with
    | '.' :: fraction =>
      match fraction.span Char.isDigit with
      | ([], rest) => .error (stopAt .invalidNumber rest)
      | (_, rest) => skipTail rest
    | rest => skipTail rest

end HintLint.Json
