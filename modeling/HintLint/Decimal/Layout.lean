import HintLint.Decimal.Shortest

/-!
How a shortest decimal is laid out as text: positionally near one, with an exponent elsewhere. The
bounds of the positional range are fields of a record, so a format is one value of `Layout`.
-/

namespace HintLint.Decimal

/-- Where the decimal point of a number `0.d₁d₂… * 10 ^ point` may stand in positional text. -/
structure Layout where
  /-- Positional text is used only for points after this one. -/
  pointAfter : Int
  /-- Positional text is used only up to this point. -/
  pointUpTo : Int
deriving DecidableEq

/-- The text of `digits * 10 ^ exponent`. A whole number keeps one zero after the point, and an
exponent always has a sign. -/
def Layout.write (layout : Layout) (number : Scaled) : List Char :=
  let digits := Nat.toDigits 10 number.digits
  let point := digits.length + number.exponent
  if 0 ≤ number.exponent ∧ point ≤ layout.pointUpTo then
    digits ++ List.replicate number.exponent.toNat '0' ++ ['.', '0']
  else if 0 < point ∧ point ≤ layout.pointUpTo then
    digits.take point.toNat ++ '.' :: digits.drop point.toNat
  else if layout.pointAfter < point ∧ point ≤ 0 then
    ['0', '.'] ++ List.replicate (-point).toNat '0' ++ digits
  else
    let fraction := if digits.length = 1 then [] else '.' :: digits.drop 1
    let sign := if point ≤ 0 then '-' else '+'
    digits.take 1 ++ fraction ++ 'e' :: sign :: Nat.toDigits 10 (point - 1).natAbs

/-- The text of a magnitude with a sign; zero keeps its sign too. -/
def Layout.writeBinary (layout : Layout) (negative : Bool) (magnitude : Binary) : List Char :=
  (if negative then ['-'] else []) ++
    (if magnitude.mantissa = 0 then ['0', '.', '0'] else layout.write magnitude.shortest)

end HintLint.Decimal
