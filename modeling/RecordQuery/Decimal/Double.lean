/-!
# Doubles

A number that is not a whole number of 64 bits is held as the nearest finite
double: a sign, a mantissa below `2 ^ 53` and the exponent of its last bit, which
is never below `-1074`. The module rounds a quotient of natural numbers to the
nearest double, a half going to the even mantissa
(`RecordQuery.Decimal.Double.ofQuotient?`); products, quotients and decimals are
instances of it, and all of it is exact arithmetic on natural numbers: the factors that
move the point of a binary or a decimal number are powers of two and ten
(`RecordQuery.Decimal.twoTo`, `RecordQuery.Decimal.tenTo`).
-/

namespace RecordQuery.Decimal

/-! ### Powers of two and ten -/

/-- A power of two. -/
def twoTo (power : Nat) : Nat :=
  Nat.pow 2 power

/-- A power of ten. -/
def tenTo (power : Nat) : Nat :=
  Nat.pow 10 power

@[simp] theorem twoTo_zero : twoTo 0 = 1 := rfl

theorem twoTo_succ (power : Nat) : twoTo (power + 1) = twoTo power * 2 := rfl

/-- A power of two is a divisor that never vanishes. -/
theorem twoTo_pos (power : Nat) : 0 < twoTo power := by
  induction power with
  | zero => decide
  | succ power ih =>
    rw [twoTo_succ]
    exact Nat.mul_pos ih (by decide)

@[simp] theorem tenTo_zero : tenTo 0 = 1 := rfl

theorem tenTo_succ (power : Nat) : tenTo (power + 1) = tenTo power * 10 := rfl

/-- A power of ten is a divisor that never vanishes. -/
theorem tenTo_pos (power : Nat) : 0 < tenTo power := by
  induction power with
  | zero => decide
  | succ power ih =>
    rw [tenTo_succ]
    exact Nat.mul_pos ih (by decide)

/-- The natural numbers that fit into a word of 64 bits are below this. -/
def wordLimit : Nat :=
  twoTo 64

/-- The integers of 64 bits with a sign start at minus this and end below it. -/
def signedLimit : Nat :=
  twoTo 63

/-! ### Finite doubles -/

/-- A finite double: `mantissa · 2 ^ exponent`, negated if `negative`. Zero has a
sign as well. -/
structure Double where
  /-- Whether the sign is a minus. -/
  negative : Bool
  /-- The mantissa, below `2 ^ 53`; below `2 ^ 52` only at the least exponent. -/
  mantissa : Nat
  /-- The exponent of the last bit of the mantissa. -/
  exponent : Int
deriving DecidableEq

namespace Double

/-- The exponent of the last bit of the least positive double. -/
def leastExponent : Int := -1074

/-- The exponent of the last bit of the greatest double. -/
def greatestExponent : Int := 971

/-- Zero with a sign. -/
def zero (negative : Bool) : Double :=
  ⟨negative, 0, leastExponent⟩

/-! ### Rounding -/

/-- The natural number nearest to `num / den`, the even one of two. -/
def roundQuotient (num den : Nat) : Nat :=
  let quotient := num / den
  let twice := 2 * (num % den)
  if twice < den then quotient
  else if den < twice then quotient + 1
  else quotient + quotient % 2

/-- Numerator and denominator of `num / den` in units of `2 ^ exponent`. -/
def inUnits (num den : Nat) (exponent : Int) : Nat × Nat :=
  (num * twoTo (-exponent).toNat, den * twoTo exponent.toNat)

/-- The exponent of the last bit of the double that `num / den` rounds to, before a
carry out of the mantissa: the quotient in units of it is below `2 ^ 53`, and at
least `2 ^ 52` unless the exponent is the least one. -/
def unitExponent (num den : Nat) : Int :=
  -- in these units the quotient lies between `2 ^ 52` and `2 ^ 54`
  let guess : Int := (num.log2 : Int) - (den.log2 : Int) - 53
  let scaled := inUnits num den guess
  let exponent := if scaled.1 / scaled.2 < twoTo 53 then guess else guess + 1
  max exponent leastExponent

/-- The double nearest to `± num / den`, or nothing if it is too large to be finite. -/
def ofQuotient? (negative : Bool) (num den : Nat) : Option Double :=
  if num = 0 then some (zero negative)
  else
    let exponent := unitExponent num den
    let scaled := inUnits num den exponent
    let mantissa := roundQuotient scaled.1 scaled.2
    -- rounding up the greatest mantissa gives the least one of the next exponent
    let carried := if mantissa = twoTo 53 then (twoTo 52, exponent + 1) else (mantissa, exponent)
    if carried.2 ≤ greatestExponent then some ⟨negative, carried.1, carried.2⟩ else none

/-! ### Arithmetic -/

/-- The numerator of the magnitude of a double over its denominator. -/
def numerator (x : Double) : Nat :=
  x.mantissa * twoTo x.exponent.toNat

/-- The denominator of the magnitude of a double: a power of two. -/
def denominator (x : Double) : Nat :=
  twoTo (-x.exponent).toNat

/-- The product, rounded, or nothing if it is too large. -/
def mul? (x y : Double) : Option Double :=
  ofQuotient? (x.negative != y.negative) (x.numerator * y.numerator)
    (x.denominator * y.denominator)

/-- The quotient by a double other than zero, rounded, or nothing if it is too
large. -/
def div? (x y : Double) : Option Double :=
  ofQuotient? (x.negative != y.negative) (x.numerator * y.denominator)
    (x.denominator * y.numerator)

/-- The double nearest to a natural number. -/
def ofNat? (negative : Bool) (value : Nat) : Option Double :=
  ofQuotient? negative value 1

/-- The double nearest to `± digits · 10 ^ exponent`, or nothing if it is too large.
Exponents far outside the range of doubles are decided without writing out the
power of ten. -/
def ofDecimal? (negative : Bool) (digits : Nat) (exponent : Int) : Option Double :=
  if digits = 0 then some (zero negative)
  -- beyond these bounds the value is above every double, or below half the least one
  else if 310 < exponent then none
  else if exponent < -((digits.log2 : Int) / 3 + 400) then some (zero negative)
  else ofQuotient? negative (digits * tenTo exponent.toNat) (tenTo (-exponent).toNat)

/-! ### Whole numbers -/

/-- Whether the value is a whole number. -/
def isWhole (x : Double) : Bool :=
  x.numerator % x.denominator == 0

/-- The magnitude of a whole double as a natural number. -/
def wholeMagnitude (x : Double) : Nat :=
  x.numerator / x.denominator

/-- The integer that a whole double is. -/
def toInt (x : Double) : Int :=
  if x.negative then -(x.wholeMagnitude : Int) else x.wholeMagnitude

end Double

end RecordQuery.Decimal
