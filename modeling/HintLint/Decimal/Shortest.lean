import HintLint.Decimal.Binary

/-!
The shortest decimal that reads back as a given binary magnitude. A magnitude stands for the
interval of reals that round to it, whose ends belong to it exactly when the mantissa is even. The
shortest decimal is a point of that interval on the coarsest grid of multiples of a power of ten
that has one; of two such points the one nearer to the magnitude is taken, of two equally near the
even one.
-/

namespace HintLint.Decimal

/-- The decimal `digits * 10 ^ exponent`. -/
structure Scaled where
  digits : Nat
  exponent : Int
deriving DecidableEq, Inhabited

/-- The reals that round to one magnitude. All bounds count quarters of the last mantissa bit. -/
structure Interval where
  lower : Nat
  middle : Nat
  upper : Nat
  /-- Whether the bounds belong to the interval. -/
  closed : Bool
  /-- The value of one quarter is `2 ^ quarter`. -/
  quarter : Int

/-- Below a power of two the neighbours lie closer, so the lower bound is nearer too. -/
def Binary.interval (x : Binary) : Interval where
  lower :=
    if x.mantissa = Binary.leastNormal ∧ Binary.leastExponent < x.exponent then 4 * x.mantissa - 1
    else 4 * x.mantissa - 2
  middle := 4 * x.mantissa
  upper := 4 * x.mantissa + 2
  closed := x.mantissa % 2 = 0
  quarter := x.exponent - 2

namespace Interval

/-- The number of quarters in `10 ^ power`, as a fraction. -/
def quartersIn (power : Int) (interval : Interval) : Nat × Nat :=
  let (num, den) := Binary.scaleDown 1 1 interval.quarter
  match power with
  | .ofNat n => (num * Nat.pow 10 n, den)
  | .negSucc n => (num, den * Nat.pow 10 (n + 1))

/-- Whether `quarters / unit` quarters lie in the interval. -/
def holds (interval : Interval) (quarters unit : Nat) : Bool :=
  if interval.closed then interval.lower * unit ≤ quarters && quarters ≤ interval.upper * unit
  else interval.lower * unit < quarters && quarters < interval.upper * unit

/-- The point of the interval on the grid of multiples of `10 ^ power` that is nearest to its
middle, if there is a point at all. -/
def onGrid? (interval : Interval) (power : Int) : Option Nat :=
  let (step, unit) := interval.quartersIn power
  let below := interval.middle * unit / step
  let left := interval.middle * unit - below * step
  let right := (below + 1) * step - interval.middle * unit
  match interval.holds (below * step) unit, interval.holds ((below + 1) * step) unit with
  | false, false => none
  | true, false => some below
  | false, true => some (below + 1)
  | true, true =>
    if left < right then some below
    else if right < left then some (below + 1)
    else some (below + below % 2)

/-- Searches the grids from `10 ^ power` on, each a tenth of the one before. -/
def coarsest (interval : Interval) : Nat → Int → Scaled
  | 0, power => ⟨(interval.onGrid? power).getD 0, power⟩
  | finer + 1, power =>
    match interval.onGrid? power with
    | some digits => ⟨digits, power⟩
    | none => coarsest interval finer (power - 1)

end Interval

/-- No grid finer than multiples of `10 ^ -324` is needed, since those fit into every interval. -/
def finestPower : Nat := 324

/-- The shortest decimal of a magnitude other than zero. -/
def Binary.shortest (x : Binary) : Scaled :=
  let (num, den) := x.toFraction
  let wholeDigits := (Nat.toDigits 10 (num / den)).length
  x.interval.coarsest (wholeDigits + finestPower) wholeDigits

end HintLint.Decimal
