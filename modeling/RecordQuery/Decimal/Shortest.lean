import RecordQuery.Decimal.Double

/-!
# Shortest decimals

A double is written with the fewest digits that read back as the same double, and
among the decimals with that many digits with the one nearest to it. For one, two,
… up to seventeen digits the two neighbours of the value on the decimal grid of
that many digits are tried (`RecordQuery.Decimal.Double.onGrid?`); seventeen always
suffice. Which decimals read back as the value is decided by its rounding interval,
whose ends belong to it exactly when the mantissa is even
(`RecordQuery.Decimal.Double.readsBack`).
-/

namespace RecordQuery.Decimal

/-- A decimal `digits · 10 ^ exponent`. -/
structure Scaled where
  /-- The digits, read as one number. -/
  digits : Nat
  /-- The power of ten of the last digit. -/
  exponent : Int
deriving DecidableEq

namespace Scaled

/-- The same decimal without zeros at the end of its digits; `fuel` bounds their
number. -/
def trimmed : Nat → Scaled → Scaled
  | 0, d => d
  | fuel + 1, d =>
    if d.digits % 10 = 0 && d.digits ≠ 0 then trimmed fuel ⟨d.digits / 10, d.exponent + 1⟩ else d

/-- Compares `digits · 10 ^ exponent` with `num / den`. -/
def compareQuotient (d : Scaled) (num den : Nat) : Ordering :=
  compare (d.digits * tenTo d.exponent.toNat * den) (num * tenTo (-d.exponent).toNat)

end Scaled

namespace Double

/-- The denominator of the ends of the rounding interval: they are multiples of a
quarter of the last bit. -/
def quarterDenominator (x : Double) : Nat :=
  twoTo (-(x.exponent - 2)).toNat

/-- A number of quarters of the last bit, over `quarterDenominator`. -/
def quarters (x : Double) (count : Nat) : Nat :=
  count * twoTo (x.exponent - 2).toNat

/-- The lower end of the rounding interval in quarters of the last bit: half a bit
below, or a quarter of a bit where the spacing of doubles doubles. -/
def lowerQuarters (x : Double) : Nat :=
  if x.mantissa = twoTo 52 && x.exponent ≠ leastExponent then 4 * x.mantissa - 1
  else 4 * x.mantissa - 2

/-- The upper end of the rounding interval in quarters of the last bit. -/
def upperQuarters (x : Double) : Nat :=
  4 * x.mantissa + 2

/-- Whether a decimal reads back as the magnitude of the double: it lies inside the
rounding interval, or at an end of it if the mantissa is even. -/
def readsBack (x : Double) (d : Scaled) : Bool :=
  let below := d.compareQuotient (x.quarters x.lowerQuarters) x.quarterDenominator
  let above := d.compareQuotient (x.quarters x.upperQuarters) x.quarterDenominator
  let closed := x.mantissa % 2 == 0
  (below == .gt || (closed && below == .eq)) && (above == .lt || (closed && above == .eq))

/-- The power of ten of the first digit of a positive quotient. -/
def leadingPower (num den : Nat) : Int :=
  -- the logarithm of two is close to 0.30103, and the guess at most three too small
  let guess : Int := ((num.log2 : Int) - (den.log2 : Int) - 1) * 30103 / 100000 - 1
  let reaches (power : Int) : Bool :=
    decide (den * tenTo power.toNat ≤ num * tenTo (-power).toNat)
  if reaches (guess + 3) then guess + 3
  else if reaches (guess + 2) then guess + 2
  else if reaches (guess + 1) then guess + 1
  else guess

/-- The value's lower neighbour on the grid of multiples of `10 ^ exponent`. -/
def floorOnGrid (x : Double) (exponent : Int) : Scaled :=
  ⟨x.numerator * tenTo (-exponent).toNat / (x.denominator * tenTo exponent.toNat), exponent⟩

/-- Whether the value is nearer to its lower neighbour on a grid than to the upper
one, or as near and the lower one even. -/
def prefersFloor (x : Double) (exponent : Int) : Bool :=
  let num := x.numerator * tenTo (-exponent).toNat
  let den := x.denominator * tenTo exponent.toNat
  Double.roundQuotient num den == num / den

/-- The neighbour of the value on a grid that reads back as it, the nearer one if
both do. -/
def onGrid? (x : Double) (exponent : Int) : Option Scaled :=
  let lower := x.floorOnGrid exponent
  let upper : Scaled := ⟨lower.digits + 1, exponent⟩
  match x.readsBack lower, x.readsBack upper with
  | true, true => some (if x.prefersFloor exponent then lower else upper)
  | true, false => some lower
  | false, true => some upper
  | false, false => none

/-- **The shortest decimal** of the magnitude of a double: the first grid, from one
digit to seventeen, with a neighbour that reads back. -/
def shortest (x : Double) : Scaled :=
  if x.mantissa = 0 then ⟨0, 0⟩
  else
    let leading := leadingPower x.numerator x.denominator
    let found := (List.range 17).findSome? fun (n : Nat) => x.onGrid? (leading - (n : Int))
    (found.getD (x.floorOnGrid (leading - 16))).trimmed 17

end Double

end RecordQuery.Decimal
