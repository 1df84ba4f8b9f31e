/-!
Binary floating-point magnitudes with 53-bit mantissas, in exact `Nat` arithmetic. `nearest` rounds
a quotient of natural numbers to the closest magnitude, an exact tie going to the even mantissa;
multiplication and division are the exact operation followed by that rounding. Nothing is assumed
about any machine arithmetic. The exponent is bounded below only: a result too large for the
64-bit format is still formed, and `inRange` tells it apart.
-/

namespace HintLint.Decimal

/-- The magnitude `mantissa * 2 ^ exponent`. -/
structure Binary where
  /-- Below `2 ^ 53`; at least `2 ^ 52` unless the exponent is the least one. -/
  mantissa : Nat
  /-- At least `Binary.leastExponent`. -/
  exponent : Int
deriving DecidableEq, Inhabited

namespace Binary

/-- The exponent of the subnormal magnitudes. -/
def leastExponent : Int := -1074

/-- The least mantissa of a magnitude that is not subnormal. -/
def leastNormal : Nat := 1 <<< 52

/-- The exponent of the largest magnitudes of the 64-bit format. -/
def greatestExponent : Int := 971

/-- The magnitude zero. -/
def zero : Binary := ⟨0, leastExponent⟩

/-- Whether the 64-bit format has the magnitude. -/
def inRange (x : Binary) : Bool := x.exponent ≤ greatestExponent

/-- The quotient rounded to the nearest natural number, an exact half to the even one. -/
def roundQuotient (num den : Nat) : Nat :=
  let quotient := num / den
  let twice := 2 * (num % den)
  if twice < den then quotient
  else if den < twice then quotient + 1
  else quotient + quotient % 2

/-- The fraction `num / (den * 2 ^ exponent)`, as a pair of natural numbers. -/
def scaleDown (num den : Nat) : Int → Nat × Nat
  | .ofNat n => (num, den <<< n)
  | .negSucc n => (num <<< (n + 1), den)

/-- The least exponent at which the mantissa of `num / den` keeps at most 53 bits. -/
def exponentOf (num den : Nat) : Int :=
  let guess := (Nat.log2 num : Int) - Nat.log2 den - 52
  let (scaled, unit) := scaleDown num den guess
  let exponent := if scaled < unit * leastNormal then guess - 1 else guess
  if exponent < leastExponent then leastExponent else exponent

/-- The magnitude nearest to `num / den`, an exact tie going to the even mantissa. -/
def nearest (num den : Nat) : Binary :=
  if num = 0 then zero
  else
    let exponent := exponentOf num den
    let (scaled, unit) := scaleDown num den exponent
    let mantissa := roundQuotient scaled unit
    if mantissa = 2 * leastNormal then ⟨leastNormal, exponent + 1⟩ else ⟨mantissa, exponent⟩

/-- The magnitude nearest to a natural number. -/
def ofNat (n : Nat) : Binary := nearest n 1

/-- The magnitude as an exact fraction of natural numbers. -/
def toFraction (x : Binary) : Nat × Nat := scaleDown x.mantissa 1 (-x.exponent)

/-- The rounded product. -/
def mul (x y : Binary) : Binary :=
  let (xNum, xDen) := x.toFraction
  let (yNum, yDen) := y.toFraction
  nearest (xNum * yNum) (xDen * yDen)

/-- The rounded quotient. -/
def div (x y : Binary) : Binary :=
  let (xNum, xDen) := x.toFraction
  let (yNum, yDen) := y.toFraction
  nearest (xNum * yDen) (xDen * yNum)

/-- The magnitude nearest to a power of ten. -/
def tenPow (power : Nat) : Binary := ofNat (Nat.pow 10 power)

end Binary

end HintLint.Decimal
