/-!
Texts that stand for floating-point numbers: an optional sign before digits, a point among or beside
them, and an exponent of ten; or infinity, or no number. Letters count in any case.
-/

namespace HintLint.Decimal

/-- Whether digits follow, and nothing else. -/
def areDigits (chars : List Char) : Bool := !chars.isEmpty && chars.all Char.isDigit

/-- The text after a sign. -/
def afterSign : List Char → List Char
  | '+' :: rest | '-' :: rest => rest
  | chars => chars

/-- Whether an exponent may follow here, and nothing else. -/
def isExponentPart : List Char → Bool
  | [] => true
  | c :: rest => (c == 'e' || c == 'E') && areDigits (afterSign rest)

/-- Whether a text stands for a number without a sign. -/
def isUnsignedNumeral (chars : List Char) : Bool :=
  ["inf", "infinity", "nan"].contains (String.ofList chars).toLower ||
    match chars.span Char.isDigit with
    | (whole, '.' :: rest) =>
      let (fraction, rest) := rest.span Char.isDigit
      !(whole.isEmpty && fraction.isEmpty) && isExponentPart rest
    | (whole, rest) => !whole.isEmpty && isExponentPart rest

/-- Whether a text stands for a number. -/
def isNumeral (chars : List Char) : Bool := isUnsignedNumeral (afterSign chars)

end HintLint.Decimal
