import RecordQuery.Decimal.Double

/-!
# Decimal numerals

A numeral of a JSON or TOML text is its sign, the digits before the point, the
digits after it and the power of ten that scales it. Two rules give it a value as a
double. The exact rule takes the nearest double
(`RecordQuery.Decimal.Numeral.nearest?`). The word rule keeps only the leading
digits that fit into 64 bits and scales their double by a single product or
quotient with a power of ten, so it is quick and may miss the nearest double by a
bit or two (`RecordQuery.Decimal.Numeral.byWord?`).
-/

namespace RecordQuery.Decimal

/-- The number that digits spell, continuing from the digits read before. -/
def spell (start base : Nat) (digits : List Nat) : Nat :=
  digits.foldl (fun value digit => value * base + digit) start

@[simp] theorem spell_nil (start base : Nat) : spell start base [] = start := rfl

@[simp] theorem spell_cons (start base digit : Nat) (digits : List Nat) :
    spell start base (digit :: digits) = spell (start * base + digit) base digits := rfl

/-- A decimal numeral: `± whole.fraction · 10 ^ exponent`. -/
structure Numeral where
  /-- Whether the numeral has a minus sign. -/
  negative : Bool
  /-- The digits before the point. -/
  whole : List Nat
  /-- The digits after the point. -/
  fraction : List Nat
  /-- The power of ten that scales the numeral. -/
  exponent : Int
deriving DecidableEq

namespace Numeral

/-- The number spelled by the digits before the point. -/
def wholeValue (n : Numeral) : Nat :=
  spell 0 10 n.whole

/-! ### The exact rule -/

/-- The nearest double, or nothing if the numeral is too large. -/
def nearest? (n : Numeral) : Option Double :=
  Double.ofDecimal? n.negative (spell 0 10 (n.whole ++ n.fraction))
    (n.exponent - n.fraction.length)

/-! ### The word rule -/

/-- Appends the leading digits that fit into a word. The result is the word and the
number of digits left over, from the first one that does not fit. -/
def packWord : Nat → List Nat → Nat × Nat
  | word, [] => (word, 0)
  | word, digit :: digits =>
    if word * 10 + digit < wordLimit then packWord (word * 10 + digit) digits
    else (word, digits.length + 1)

/-- The word and power of ten that stand for the numeral. A digit before the point
that is left over counts as a factor of ten; one after it is dropped. -/
def word (n : Numeral) : Nat × Int :=
  let (whole, dropped) := packWord 0 n.whole
  let (word, ignored) := packWord whole n.fraction
  let used := n.fraction.length - ignored
  (word, n.exponent + (dropped : Int) - (used : Int))

/-- The greatest power of ten that is a finite double. -/
def greatestPower : Nat := 308

/-- A power of ten as a double. -/
def power (k : Nat) : Double :=
  (Double.ofDecimal? false 1 (k : Int)).getD (Double.zero false)

/-- Divides by a large power of ten so many times, stopping at zero, and then by the
last power. -/
def divideSteps (large : Double) : Nat → Nat → Double → Option Double
  | 0, last, x => x.div? (power last)
  | steps + 1, last, x =>
    if x.mantissa = 0 then some x
    else match x.div? large with
      | some y => divideSteps large steps last y
      | none => none

/-- Divides by a power of ten, in as few steps as finite powers allow. -/
def divideByPower (k : Nat) (x : Double) : Option Double :=
  let steps := (k - 1) / greatestPower
  divideSteps (power greatestPower) steps (k - steps * greatestPower) x

/-- Multiplies a double by a power of ten. A power that is not finite leaves only
zero in range. -/
def scale (x : Double) (exponent : Int) : Option Double :=
  if 0 ≤ exponent then
    if exponent.toNat ≤ greatestPower then x.mul? (power exponent.toNat)
    else if x.mantissa = 0 then some x else none
  else divideByPower (-exponent).toNat x

/-- The double of the word rule, or nothing if the numeral is out of range. -/
def byWord? (n : Numeral) : Option Double :=
  match Double.ofNat? n.negative n.word.1 with
  | some x => scale x n.word.2
  | none => none

end Numeral

end RecordQuery.Decimal
