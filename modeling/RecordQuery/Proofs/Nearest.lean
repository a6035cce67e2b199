import Mathlib.Algebra.Order.Field.Power
import Mathlib.Data.Rat.Cast.Order
import Mathlib.Tactic.FieldSimp
import Mathlib.Tactic.Linarith
import Mathlib.Tactic.NormNum
import Mathlib.Tactic.Ring
import RecordQuery.Decimal.Shortest
import RecordQuery.Proofs.Rounding

/-!
# The numbers that round to a double

Rounding a quotient to a double is exact arithmetic on its numerator and denominator, told
apart by shifts and divisions. This file says what it does to the number that the quotient is.

A positive number has one power of two for the last bit of its double
(`RecordQuery.Decimal.Double.IsLastBit`), which is found from the binary logarithms of
numerator and denominator; in units of it the number is rounded to the nearest natural number,
to the even one of two (`RecordQuery.Decimal.Double.IsNearest`). So what comes out is a finite
double (`RecordQuery.Decimal.Double.isFinite_of_ofQuotient?`), and every finite double comes out
for all numbers of its rounding interval (`RecordQuery.Decimal.Double.ofQuotient?_of_rounds`).
The interval is shorter on the side where the spacing of doubles changes: there a number rounds
up to a power of two in units of half of its last bit.

The same holds of decimals, whatever their digits and their exponent
(`RecordQuery.Decimal.Double.ofDecimal?_of_rounds`): the two bounds at which a decimal is decided
without writing out its power of ten are outside the interval of any double but zero.
-/

namespace RecordQuery.Decimal

/-! ### Powers as rationals -/

theorem cast_twoTo (k : Nat) : (twoTo k : ℚ) = 2 ^ k :=
  Nat.cast_pow 2 k

theorem cast_tenTo (k : Nat) : (tenTo k : ℚ) = 10 ^ k :=
  Nat.cast_pow 10 k

/-- A power is split into a factor of the numerator and one of the denominator. -/
theorem pow_div_pow (base : ℚ) (exponent : Int) :
    base ^ exponent.toNat / base ^ (-exponent).toNat = base ^ exponent := by
  cases exponent with
  | ofNat k =>
    have hneg : (-Int.ofNat k).toNat = 0 := by simp
    rw [hneg, pow_zero, div_one]
    exact (zpow_natCast base k).symm
  | negSucc k => rw [Int.toNat_negSucc, Int.neg_negSucc, Int.toNat_natCast, pow_zero, one_div,
      zpow_negSucc]

namespace Double

/-! ### Finite doubles -/

/-- **A finite double**: its mantissa has at most 53 binary digits, and all of them are used
unless the exponent is the least one. -/
structure IsFinite (x : Double) : Prop where
  lt : x.mantissa < twoTo 53
  least : leastExponent ≤ x.exponent
  greatest : x.exponent ≤ greatestExponent
  full : leastExponent < x.exponent → twoTo 52 ≤ x.mantissa

theorem isFinite_zero (negative : Bool) : (zero negative).IsFinite where
  lt := twoTo_pos 53
  least := Int.le_refl _
  greatest := (by decide : leastExponent ≤ greatestExponent)
  full h := absurd h (Int.lt_irrefl _)

/-- The finite doubles without a mantissa are the two zeros. -/
theorem IsFinite.eq_zero {x : Double} (h : x.IsFinite) (hzero : x.mantissa = 0) :
    x = zero x.negative := by
  obtain ⟨negative, mantissa, exponent⟩ := x
  obtain rfl : mantissa = 0 := hzero
  have hleast : exponent = leastExponent := by
    refine Int.le_antisymm (Int.not_lt.1 fun hlt => ?_) h.least
    exact absurd (h.full hlt) (Nat.not_le.2 (twoTo_pos 52))
  rw [hleast]
  rfl

/-- The magnitude is the numerator over the denominator. -/
theorem magnitude_eq_div (x : Double) :
    (x.mantissa * 2 ^ x.exponent : ℚ) = x.numerator / x.denominator := by
  rw [numerator, denominator, Nat.cast_mul, cast_twoTo, cast_twoTo, mul_div_assoc, pow_div_pow]

/-! ### The last bit -/

/-- **The last bit** of the double that a magnitude rounds to: in units of it the magnitude has
at most 53 binary digits before its point, and as many unless the bit is the least one. -/
structure IsLastBit (magnitude : ℚ) (unit : Int) : Prop where
  least : leastExponent ≤ unit
  lt : magnitude < 2 ^ 53 * 2 ^ unit
  full : leastExponent < unit → 2 ^ 52 * 2 ^ unit ≤ magnitude

section LastBit

variable {magnitude : ℚ} {unit other : Int}

theorem IsLastBit.not_lt (h : IsLastBit magnitude unit) (hother : IsLastBit magnitude other) :
    ¬ unit < other := by
  intro hlt
  -- the larger bit wants a number that is too large for the smaller one
  have hfull := hother.full (Int.lt_of_le_of_lt h.least hlt)
  have hstep : (2 : ℚ) ^ (unit + 1) ≤ 2 ^ other := zpow_le_zpow_right₀ (by norm_num) hlt
  rw [zpow_add_one₀ (by norm_num)] at hstep
  have hmagnitude := h.lt
  linarith

/-- There is one last bit. -/
theorem IsLastBit.unique (h : IsLastBit magnitude unit) (hother : IsLastBit magnitude other) :
    unit = other :=
  Int.le_antisymm (Int.not_lt.1 (hother.not_lt h)) (Int.not_lt.1 (h.not_lt hother))

end LastBit

section Quotient

variable {num den : Nat} (hden : 0 < den)
include hden

/-- Numerator and denominator in units of a power of two. -/
theorem inUnits_div (unit : Int) :
    ((inUnits num den unit).1 : ℚ) / (inUnits num den unit).2 = num / den / 2 ^ unit := by
  have hne : (den : ℚ) ≠ 0 := Nat.cast_ne_zero.2 (Nat.ne_of_gt hden)
  rw [inUnits, Nat.cast_mul, Nat.cast_mul, cast_twoTo, cast_twoTo, ← pow_div_pow 2 unit]
  field_simp

theorem div_lt_iff_cast (bound : Nat) : num / den < bound ↔ (num / den : ℚ) < bound := by
  rw [Nat.div_lt_iff_lt_mul hden, div_lt_iff₀ (Nat.cast_pos.2 hden)]
  exact_mod_cast Iff.rfl

/-- How many binary digits the whole part has in units of a power of two. -/
theorem inUnits_lt_iff (unit : Int) (bits : Nat) :
    (inUnits num den unit).1 / (inUnits num den unit).2 < twoTo bits ↔
      (num / den : ℚ) < 2 ^ bits * 2 ^ unit := by
  rw [div_lt_iff_cast (inUnits_pos num hden unit), inUnits_div hden, cast_twoTo,
    div_lt_iff₀ (zpow_pos (by norm_num) _)]

/-- The binary logarithms of numerator and denominator enclose the quotient. -/
theorem quotient_bounds (hnum : 0 < num) :
    (2 : ℚ) ^ ((num.log2 : Int) - den.log2 - 1) < num / den ∧
      (num / den : ℚ) < 2 ^ ((num.log2 : Int) - den.log2 + 1) := by
  have hnumLow : (2 : ℚ) ^ (num.log2 : Int) ≤ num := by
    rw [zpow_natCast]
    exact_mod_cast Nat.log2_self_le (Nat.ne_of_gt hnum)
  have hnumHigh : (num : ℚ) < 2 ^ ((num.log2 : Int) + 1) := by
    have hlt : num < 2 ^ (num.log2 + 1) := Nat.lt_log2_self
    exact_mod_cast hlt
  have hdenLow : (2 : ℚ) ^ (den.log2 : Int) ≤ den := by
    rw [zpow_natCast]
    exact_mod_cast Nat.log2_self_le (Nat.ne_of_gt hden)
  have hdenHigh : (den : ℚ) < 2 ^ ((den.log2 : Int) + 1) := by
    have hlt : den < 2 ^ (den.log2 + 1) := Nat.lt_log2_self
    exact_mod_cast hlt
  have hpos : (0 : ℚ) < den := Nat.cast_pos.2 hden
  have hpower : ∀ power : Int, (0 : ℚ) < 2 ^ power := fun power => zpow_pos (by norm_num) power
  constructor
  · rw [lt_div_iff₀ hpos]
    calc (2 : ℚ) ^ ((num.log2 : Int) - den.log2 - 1) * den
        < 2 ^ ((num.log2 : Int) - den.log2 - 1) * 2 ^ ((den.log2 : Int) + 1) :=
          mul_lt_mul_of_pos_left hdenHigh (hpower _)
      _ = 2 ^ (num.log2 : Int) := by
          rw [← zpow_add₀ (by norm_num)]
          congr 1
          omega
      _ ≤ num := hnumLow
  · rw [div_lt_iff₀ hpos]
    calc (num : ℚ) < 2 ^ ((num.log2 : Int) + 1) := hnumHigh
      _ = 2 ^ ((num.log2 : Int) - den.log2 + 1) * 2 ^ (den.log2 : Int) := by
          rw [← zpow_add₀ (by norm_num)]
          congr 1
          omega
      _ ≤ 2 ^ ((num.log2 : Int) - den.log2 + 1) * den :=
          mul_le_mul_of_nonneg_left hdenLow (le_of_lt (hpower _))

/-- **The exponent that is found** is that of the last bit. -/
theorem isLastBit_unitExponent (hnum : 0 < num) :
    IsLastBit (num / den) (unitExponent num den) := by
  obtain ⟨hlow, hhigh⟩ := quotient_bounds hden hnum
  have hpower : ∀ (k : Nat) (unit : Int), (2 : ℚ) ^ (unit + k) = 2 ^ k * 2 ^ unit := by
    intro k unit
    rw [zpow_add₀ (by norm_num), zpow_natCast, mul_comm]
  -- the first guess is right or one too small
  have hexponent : ∃ unit : Int, unitExponent num den = max unit leastExponent ∧
      (2 : ℚ) ^ 52 * 2 ^ unit ≤ num / den ∧ (num / den : ℚ) < 2 ^ 53 * 2 ^ unit := by
    let guess : Int := (num.log2 : Int) - (den.log2 : Int) - 53
    have hguessLow : (2 : ℚ) ^ 52 * 2 ^ guess < num / den := by
      rw [← hpower 52 guess]
      convert hlow using 2
      simp only [guess]
      omega
    have hguessHigh : (num / den : ℚ) < 2 ^ 54 * 2 ^ guess := by
      rw [← hpower 54 guess]
      convert hhigh using 2
      simp only [guess]
      omega
    by_cases hfits : (inUnits num den guess).1 / (inUnits num den guess).2 < twoTo 53
    · exact ⟨guess, by rw [unitExponent, if_pos hfits], le_of_lt hguessLow,
        (inUnits_lt_iff hden guess 53).1 hfits⟩
    · refine ⟨guess + 1, by rw [unitExponent, if_neg hfits], ?_, ?_⟩
      · have hlarge := not_lt.1 (mt (inUnits_lt_iff hden guess 53).2 hfits)
        rw [zpow_add_one₀ (by norm_num)]
        linarith
      · rw [zpow_add_one₀ (by norm_num)]
        linarith
  obtain ⟨unit, heq, hleast, hlt⟩ := hexponent
  rw [heq]
  rcases Int.le_total leastExponent unit with hle | hle
  · rw [Int.max_eq_left hle]
    exact ⟨hle, hlt, fun _ => hleast⟩
  · rw [Int.max_eq_right hle]
    refine ⟨Int.le_refl _, lt_of_lt_of_le hlt ?_, fun h => absurd h (Int.lt_irrefl _)⟩
    exact mul_le_mul_of_nonneg_left (zpow_le_zpow_right₀ (by norm_num) hle) (by norm_num)

end Quotient

/-! ### The nearest natural number -/

/-- Whether a magnitude lies in an interval, the ends of which may belong to it. -/
def Within (closed : Prop) (low high magnitude : ℚ) : Prop :=
  (low < magnitude ∨ closed ∧ low = magnitude) ∧ (magnitude < high ∨ closed ∧ magnitude = high)

section Within

variable {closed : Prop} {low high magnitude : ℚ}

theorem Within.le (h : Within closed low high magnitude) : low ≤ magnitude ∧ magnitude ≤ high :=
  ⟨h.1.elim le_of_lt fun h => h.2.le, h.2.elim le_of_lt fun h => h.2.le⟩

/-- A larger interval. -/
theorem Within.mono (h : Within closed low high magnitude) {low' high' : ℚ} (hlow : low' ≤ low)
    (hhigh : high ≤ high') : Within closed low' high' magnitude := by
  refine ⟨?_, ?_⟩
  · rcases h.1 with h | ⟨hclosed, rfl⟩
    · exact .inl (lt_of_le_of_lt hlow h)
    · exact (lt_or_eq_of_le hlow).imp_right fun h => ⟨hclosed, h⟩
  · rcases h.2 with h | ⟨hclosed, rfl⟩
    · exact .inl (lt_of_lt_of_le h hhigh)
    · exact (lt_or_eq_of_le hhigh).imp_right fun h => ⟨hclosed, h⟩

/-- Another unit. -/
theorem within_div_iff {unit : ℚ} (hunit : 0 < unit) :
    Within closed low high (magnitude / unit) ↔
      Within closed (low * unit) (high * unit) magnitude := by
  simp only [Within, lt_div_iff₀ hunit, div_lt_iff₀ hunit, eq_div_iff hunit.ne',
    div_eq_iff hunit.ne']

end Within

/-- **The natural number nearest to a magnitude**, the even one of two. -/
def IsNearest (magnitude : ℚ) (n : Nat) : Prop :=
  Within (n % 2 = 0) (n - 1 / 2) (n + 1 / 2) magnitude

section Nearest

variable {magnitude : ℚ} {n other : Nat}

theorem IsNearest.not_lt (h : IsNearest magnitude n) (hother : IsNearest magnitude other) :
    ¬ n < other := by
  intro hlt
  have hstep : (n : ℚ) + 1 ≤ other := by exact_mod_cast hlt
  rcases h.2 with hhigh | ⟨heven, hhigh⟩
  · rcases hother.1 with hlow | ⟨-, hlow⟩ <;> linarith
  · rcases hother.1 with hlow | ⟨heven', hlow⟩
    · linarith
    · -- of two neighbors only one is even
      have hnext : (n : ℚ) + 1 = other := by linarith
      have hnext : n + 1 = other := by exact_mod_cast hnext
      omega

/-- One number is the nearest. -/
theorem IsNearest.unique (h : IsNearest magnitude n) (hother : IsNearest magnitude other) :
    n = other :=
  Nat.le_antisymm (Nat.not_lt.1 (hother.not_lt h)) (Nat.not_lt.1 (h.not_lt hother))

end Nearest

section Fraction

variable (num : Nat) {den : Nat} (hden : 0 < den)
include hden

/-- A quotient is its whole part and a fraction below one. -/
theorem whole_add_fraction :
    (num : ℚ) / den = (num / den : Nat) + ((num % den : Nat) : ℚ) / den ∧
      0 ≤ ((num % den : Nat) : ℚ) / den ∧ ((num % den : Nat) : ℚ) / den < 1 := by
  have hpos : (0 : ℚ) < den := Nat.cast_pos.2 hden
  have hsum : (den : ℚ) * (num / den : Nat) + (num % den : Nat) = num := by
    exact_mod_cast Nat.div_add_mod num den
  refine ⟨?_, div_nonneg (Nat.cast_nonneg _) hpos.le, ?_⟩
  · rw [div_eq_iff hpos.ne', add_mul, div_mul_cancel₀ _ hpos.ne']
    linarith
  · rw [div_lt_iff₀ hpos, one_mul]
    exact_mod_cast Nat.mod_lt num hden

/-- The fraction compares with a half as twice the remainder with the denominator. -/
theorem fraction_half :
    (((num % den : Nat) : ℚ) / den < 1 / 2 ↔ 2 * (num % den) < den) ∧
      (1 / 2 < ((num % den : Nat) : ℚ) / den ↔ den < 2 * (num % den)) := by
  have hpos : (0 : ℚ) < den := Nat.cast_pos.2 hden
  constructor
  · rw [div_lt_div_iff₀ hpos (by norm_num), one_mul, mul_comm]
    exact_mod_cast Iff.rfl
  · rw [div_lt_div_iff₀ (by norm_num) hpos, one_mul, mul_comm]
    exact_mod_cast Iff.rfl

/-- **Rounding a quotient** takes the nearest natural number. -/
theorem isNearest_roundQuotient : IsNearest (num / den) (roundQuotient num den) := by
  obtain ⟨hparts, hnonneg, hless⟩ := whole_add_fraction num hden
  obtain ⟨hdown, hup⟩ := fraction_half num hden
  rw [hparts, roundQuotient]
  split
  · next hnear =>
    have hnear := hdown.2 hnear
    exact ⟨.inl (by linarith), .inl (by linarith)⟩
  · next hnot =>
    split
    · next hfar =>
      have hfar := hup.2 hfar
      refine ⟨.inl ?_, .inl ?_⟩
      all_goals
        push_cast
        linarith
    · next hnot' =>
      have hequal : ((num % den : Nat) : ℚ) / den = 1 / 2 :=
        le_antisymm (not_lt.1 (mt hup.1 hnot')) (not_lt.1 (mt hdown.1 hnot))
      -- halfway between two numbers it is the even one
      rw [hequal]
      rcases Nat.mod_two_eq_zero_or_one (num / den) with heven | hodd
      · rw [heven, Nat.add_zero]
        exact ⟨.inl (by linarith), .inr ⟨heven, rfl⟩⟩
      · rw [hodd]
        refine ⟨.inr ⟨by omega, ?_⟩, .inl ?_⟩
        · push_cast
          ring
        · push_cast
          linarith

end Fraction

/-! ### Finite results -/

/-- **A rounded quotient is a finite double.** -/
theorem isFinite_of_ofQuotient? {negative : Bool} {num den : Nat} {x : Double} (hden : 0 < den)
    (h : ofQuotient? negative num den = some x) : x.IsFinite := by
  rw [ofQuotient?] at h
  split at h
  · rw [← Option.some.inj h]
    exact isFinite_zero negative
  · next hne =>
    have hbit := isLastBit_unitExponent hden (Nat.pos_of_ne_zero hne)
    generalize hunit : unitExponent num den = unit at h hbit
    obtain ⟨hfloor, hceil⟩ := roundQuotient_bounds (inUnits num den unit).1 (inUnits num den unit).2
    have hlt : (inUnits num den unit).1 / (inUnits num den unit).2 < twoTo 53 :=
      (inUnits_lt_iff hden unit 53).2 hbit.lt
    have hfull : leastExponent < unit →
        twoTo 52 ≤ (inUnits num den unit).1 / (inUnits num den unit).2 := by
      intro hleast
      rw [← Nat.not_lt, inUnits_lt_iff hden, not_lt]
      exact hbit.full hleast
    dsimp only at h
    by_cases hcarry :
        roundQuotient (inUnits num den unit).1 (inUnits num den unit).2 = twoTo 53
    · -- the carry leaves a power of two in units twice as large
      rw [if_pos hcarry] at h
      split at h
      · next hgreatest =>
        rw [← Option.some.inj h]
        exact ⟨(by decide : twoTo 52 < twoTo 53), Int.le_add_one hbit.least, hgreatest,
          fun _ => Nat.le_refl _⟩
      · exact absurd h (by simp)
    · rw [if_neg hcarry] at h
      split at h
      · next hgreatest =>
        rw [← Option.some.inj h]
        exact ⟨by dsimp only; omega, hbit.least, hgreatest,
          fun hleast => Nat.le_trans (hfull hleast) hfloor⟩
      · exact absurd h (by simp)

/-! ### The rounding interval -/

/-- **The numbers that round to a double**: those of its rounding interval, the ends among them
if the mantissa is even. -/
def Rounds (x : Double) (magnitude : ℚ) : Prop :=
  Within (x.mantissa % 2 = 0) (x.lowerQuarters * 2 ^ (x.exponent - 2))
    (x.upperQuarters * 2 ^ (x.exponent - 2)) magnitude

/-- A quarter of the last bit. -/
theorem quarter_eq (exponent : Int) : (2 : ℚ) ^ (exponent - 2) = 2 ^ exponent / 4 := by
  rw [zpow_sub₀ (by norm_num)]
  norm_num

section Rounds

variable {x : Double} (hne : x.mantissa ≠ 0) {magnitude : ℚ}

theorem upperQuarters_mul (x : Double) :
    (x.upperQuarters * 2 ^ (x.exponent - 2) : ℚ) = (x.mantissa + 1 / 2) * 2 ^ x.exponent := by
  rw [quarter_eq, upperQuarters]
  push_cast
  ring

include hne

/-- The interval goes half of the last bit down, or a quarter where the spacing changes. -/
theorem lowerQuarters_mul :
    (x.lowerQuarters * 2 ^ (x.exponent - 2) : ℚ) =
      (x.mantissa - if x.mantissa = twoTo 52 ∧ x.exponent ≠ leastExponent then 1 / 4 else 1 / 2) *
        2 ^ x.exponent := by
  have hfour : 2 ≤ 4 * x.mantissa := by omega
  simp only [quarter_eq, lowerQuarters, Bool.and_eq_true, decide_eq_true_eq]
  split
  · rw [Nat.cast_sub (by omega)]
    push_cast
    ring
  · rw [Nat.cast_sub hfour]
    push_cast
    ring

/-- A number that rounds to a double is within half of its last bit. -/
theorem Rounds.half (h : x.Rounds magnitude) :
    Within (x.mantissa % 2 = 0) ((x.mantissa - 1 / 2) * 2 ^ x.exponent)
      ((x.mantissa + 1 / 2) * 2 ^ x.exponent) magnitude := by
  have hunit : (0 : ℚ) < 2 ^ x.exponent := zpow_pos (by norm_num) _
  refine Within.mono h ?_ (upperQuarters_mul x).le
  rw [lowerQuarters_mul hne]
  refine mul_le_mul_of_nonneg_right ?_ hunit.le
  split <;> linarith

theorem Rounds.pos (h : x.Rounds magnitude) : 0 < magnitude := by
  have hone : (1 : ℚ) ≤ x.mantissa := by exact_mod_cast Nat.pos_of_ne_zero hne
  have hunit : (0 : ℚ) < 2 ^ x.exponent := zpow_pos (by norm_num) _
  refine lt_of_lt_of_le ?_ (h.half hne).le.1
  exact mul_pos (by linarith) hunit

/-- As long as the last bit is that of the double, its mantissa is the nearest natural number. -/
theorem Rounds.at_exponent (hx : x.IsFinite) (h : x.Rounds magnitude)
    (hfull : x.exponent = leastExponent ∨ 2 ^ 52 * 2 ^ x.exponent ≤ magnitude) :
    IsLastBit magnitude x.exponent ∧ IsNearest (magnitude / 2 ^ x.exponent) x.mantissa := by
  have hunit : (0 : ℚ) < 2 ^ x.exponent := zpow_pos (by norm_num) _
  have hmantissa : (x.mantissa : ℚ) + 1 ≤ 2 ^ 53 := by
    rw [← cast_twoTo]
    exact_mod_cast hx.lt
  have hhalf := h.half hne
  refine ⟨⟨hx.least, lt_of_le_of_lt hhalf.le.2 ?_, fun hleast => ?_⟩,
    (within_div_iff hunit).2 hhalf⟩
  · exact mul_lt_mul_of_pos_right (by linarith) hunit
  · exact hfull.resolve_left (Int.ne_of_gt hleast)

/-- Only the double at a power of two has numbers below it that round to it. -/
theorem Rounds.mantissa_eq (hx : x.IsFinite) (h : x.Rounds magnitude)
    (hleast : leastExponent < x.exponent) (hless : magnitude < 2 ^ 52 * 2 ^ x.exponent) :
    x.mantissa = twoTo 52 := by
  have hunit : (0 : ℚ) < 2 ^ x.exponent := zpow_pos (by norm_num) _
  refine le_antisymm ?_ (hx.full hleast)
  have hhalf : ((x.mantissa : ℚ) - 1 / 2) < 2 ^ 52 :=
    lt_of_mul_lt_mul_right (lt_of_le_of_lt (h.half hne).le.1 hless) hunit.le
  have hnext : (x.mantissa : ℚ) < (twoTo 52 + 1 : Nat) := by
    rw [Nat.cast_succ, cast_twoTo]
    linarith
  exact Nat.lt_succ_iff.1 (by exact_mod_cast hnext)

/-- Below a power of two the last bit is half of that of the double, and the power the nearest
number of such bits. -/
theorem Rounds.below_exponent (hx : x.IsFinite) (h : x.Rounds magnitude)
    (hleast : leastExponent < x.exponent) (hless : magnitude < 2 ^ 52 * 2 ^ x.exponent) :
    IsLastBit magnitude (x.exponent - 1) ∧
      IsNearest (magnitude / 2 ^ (x.exponent - 1)) (twoTo 53) := by
  have hunit : (0 : ℚ) < 2 ^ x.exponent := zpow_pos (by norm_num) _
  have hbelow : (2 : ℚ) ^ (x.exponent - 1) = 2 ^ x.exponent / 2 := by
    rw [zpow_sub_one₀ (by norm_num)]
    rfl
  have hlow : ((2 : ℚ) ^ 53 - 1 / 2) * 2 ^ (x.exponent - 1) =
      x.lowerQuarters * 2 ^ (x.exponent - 2) := by
    have hpower := h.mantissa_eq hne hx hleast hless
    rw [lowerQuarters_mul hne, if_pos ⟨hpower, Int.ne_of_gt hleast⟩, hpower, cast_twoTo, hbelow]
    ring
  constructor
  · refine ⟨Int.le_sub_one_of_lt hleast, ?_, fun _ => ?_⟩
    · rw [hbelow]
      linarith
    · have hle := (Within.le h).1
      rw [← hlow, hbelow] at hle
      rw [hbelow]
      linarith
  · rw [IsNearest, within_div_iff (zpow_pos (by norm_num) _), cast_twoTo, hlow]
    refine ⟨h.1.imp_right fun h => ⟨by decide, h.2⟩, .inl ?_⟩
    rw [hbelow]
    linarith

end Rounds

/-- A quotient is rounded by its last bit and the nearest natural number. -/
theorem ofQuotient?_eq (negative : Bool) {num den n : Nat} {unit : Int} (hnum : 0 < num)
    (hden : 0 < den) (hunit : IsLastBit (num / den) unit)
    (hnear : IsNearest (num / den / 2 ^ unit) n) :
    ofQuotient? negative num den =
      let carried := if n = twoTo 53 then (twoTo 52, unit + 1) else (n, unit)
      if carried.2 ≤ greatestExponent then some ⟨negative, carried.1, carried.2⟩ else none := by
  have hexponent : unitExponent num den = unit := (isLastBit_unitExponent hden hnum).unique hunit
  have hround : roundQuotient (inUnits num den unit).1 (inUnits num den unit).2 = n := by
    have hnearest := isNearest_roundQuotient (inUnits num den unit).1 (inUnits_pos num hden unit)
    rw [inUnits_div hden] at hnearest
    exact hnearest.unique hnear
  simp only [ofQuotient?, if_neg (Nat.ne_of_gt hnum), hexponent, hround]

/-- **A double is rounded to by all numbers of its rounding interval.** -/
theorem ofQuotient?_of_rounds {x : Double} (hx : x.IsFinite) (hne : x.mantissa ≠ 0)
    {num den : Nat} (hden : 0 < den) (h : x.Rounds (num / den)) :
    ofQuotient? x.negative num den = some x := by
  have hnum : 0 < num := by
    refine Nat.pos_of_ne_zero ?_
    rintro rfl
    have hpos := h.pos hne
    rw [Nat.cast_zero, zero_div] at hpos
    exact lt_irrefl 0 hpos
  by_cases hfull : x.exponent = leastExponent ∨ (2 : ℚ) ^ 52 * 2 ^ x.exponent ≤ num / den
  · obtain ⟨hbit, hnear⟩ := h.at_exponent hne hx hfull
    rw [ofQuotient?_eq x.negative hnum hden hbit hnear]
    simp only [if_neg (Nat.ne_of_lt hx.lt), if_pos hx.greatest]
  · -- the number rounds up to the power of two
    obtain ⟨hleast, hless⟩ := not_or.1 hfull
    have hleast : leastExponent < x.exponent := lt_of_le_of_ne hx.least (Ne.symm hleast)
    have hless := not_le.1 hless
    obtain ⟨hbit, hnear⟩ := h.below_exponent hne hx hleast hless
    rw [ofQuotient?_eq x.negative hnum hden hbit hnear]
    simp only [if_true, Int.sub_add_cancel, if_pos hx.greatest]
    rw [← h.mantissa_eq hne hx hleast hless]

/-! ### Decimals -/

/-- A decimal as the quotient that is rounded. -/
theorem decimal_eq_div (digits : Nat) (exponent : Int) :
    (digits * 10 ^ exponent : ℚ) =
      (digits * tenTo exponent.toNat : Nat) / (tenTo (-exponent).toNat : Nat) := by
  rw [Nat.cast_mul, cast_tenTo, cast_tenTo, mul_div_assoc, pow_div_pow]

section Decimal

variable {x : Double} (hx : x.IsFinite) (hne : x.mantissa ≠ 0) {digits : Nat} {exponent : Int}
  (h : x.Rounds (digits * 10 ^ exponent))

include hne h in
theorem digits_pos : 0 < digits := by
  refine Nat.pos_of_ne_zero ?_
  rintro rfl
  have hpos := h.pos hne
  rw [Nat.cast_zero, zero_mul] at hpos
  exact lt_irrefl 0 hpos

include hx hne h

/-- No double is as large as a decimal beyond the upper bound. -/
theorem exponent_le : exponent ≤ 310 := by
  by_contra hlarge
  have hone : (1 : ℚ) ≤ digits := by exact_mod_cast digits_pos hne h
  have hten : (10 : ℚ) ^ (311 : Int) ≤ 10 ^ exponent :=
    zpow_le_zpow_right₀ (by norm_num) (by omega)
  have hmantissa : (x.mantissa : ℚ) + 1 ≤ 2 ^ 53 := by
    rw [← cast_twoTo]
    exact_mod_cast hx.lt
  have hunit : (2 : ℚ) ^ x.exponent ≤ 2 ^ (971 : Int) :=
    zpow_le_zpow_right₀ (by norm_num) hx.greatest
  have hupper : ((x.mantissa : ℚ) + 1 / 2) * 2 ^ x.exponent ≤ 2 ^ 53 * 2 ^ (971 : Int) :=
    mul_le_mul (by linarith) hunit (zpow_nonneg (by norm_num) _) (by norm_num)
  have hdigits : (10 : ℚ) ^ exponent ≤ digits * 10 ^ exponent :=
    le_mul_of_one_le_left (zpow_nonneg (by norm_num) _) hone
  have hgap : (2 : ℚ) ^ 53 * 2 ^ (971 : Int) < 10 ^ (311 : Int) := by
    have hgap : twoTo 53 * twoTo 971 < tenTo 311 := by decide +kernel
    rw [zpow_ofNat, zpow_ofNat, ← cast_twoTo, ← cast_twoTo, ← cast_tenTo]
    exact_mod_cast hgap
  exact not_le.2 hgap (hten.trans (hdigits.trans ((h.half hne).le.2.trans hupper)))

/-- No double but zero is as small as a decimal beyond the lower bound. -/
theorem le_exponent : -((digits.log2 : Int) / 3 + 400) ≤ exponent := by
  by_contra hsmall
  have hdigits : (digits : ℚ) ≤ 10 ^ ((digits.log2 : Int) / 3 + 1) := by
    have hlt : digits < 2 ^ (digits.log2 + 1) := Nat.lt_log2_self
    have hthree : 2 ^ (digits.log2 + 1) ≤ 10 ^ (digits.log2 / 3 + 1) := calc
      2 ^ (digits.log2 + 1) ≤ 2 ^ (3 * (digits.log2 / 3 + 1)) :=
        Nat.pow_le_pow_right (by decide) (by omega)
      _ = 8 ^ (digits.log2 / 3 + 1) := Nat.pow_mul 2 3 _
      _ ≤ 10 ^ (digits.log2 / 3 + 1) := Nat.pow_le_pow_left (by decide) _
    have hcast : (digits : ℚ) ≤ (10 ^ (digits.log2 / 3 + 1) : Nat) := by
      exact_mod_cast (Nat.le_of_lt hlt).trans hthree
    rw [Nat.cast_pow, Nat.cast_ofNat, ← zpow_natCast] at hcast
    exact_mod_cast hcast
  have hsum : (10 : ℚ) ^ ((digits.log2 : Int) / 3 + 1) * 10 ^ exponent ≤ 10 ^ (-400 : Int) := by
    rw [← zpow_add₀ (by norm_num)]
    exact zpow_le_zpow_right₀ (by norm_num) (by omega)
  have hupper : (digits * 10 ^ exponent : ℚ) ≤ 10 ^ (-400 : Int) :=
    (mul_le_mul_of_nonneg_right hdigits (zpow_nonneg (by norm_num) _)).trans hsum
  have hone : (1 : ℚ) ≤ x.mantissa := by exact_mod_cast Nat.pos_of_ne_zero hne
  have hunit : (2 : ℚ) ^ (-1074 : Int) ≤ 2 ^ x.exponent :=
    zpow_le_zpow_right₀ (by norm_num) hx.least
  have hlower : (1 / 2 : ℚ) * 2 ^ (-1074 : Int) ≤ ((x.mantissa : ℚ) - 1 / 2) * 2 ^ x.exponent :=
    mul_le_mul (by linarith) hunit (zpow_nonneg (by norm_num) _) (by linarith)
  have hgap : (10 : ℚ) ^ (-400 : Int) < 1 / 2 * 2 ^ (-1074 : Int) := by
    have hgap : twoTo 1075 < tenTo 400 := by decide +kernel
    have hhalf : (1 / 2 : ℚ) * 2 ^ (-1074 : Int) = (2 ^ 1075)⁻¹ := by
      rw [zpow_neg, zpow_ofNat, pow_succ 2 1074, mul_inv, one_div, mul_comm]
    rw [hhalf, zpow_neg, zpow_ofNat, ← cast_twoTo, ← cast_tenTo]
    exact inv_strictAnti₀ (Nat.cast_pos.2 (twoTo_pos 1075)) (by exact_mod_cast hgap)
  exact not_le.2 hgap (hlower.trans ((h.half hne).le.1.trans hupper))

/-- **A double is rounded to by all decimals of its rounding interval.** -/
theorem ofDecimal?_of_rounds : ofDecimal? x.negative digits exponent = some x := by
  have hpos := digits_pos hne h
  have hhigh := exponent_le hx hne h
  have hlow := le_exponent hx hne h
  rw [ofDecimal?, if_neg (Nat.ne_of_gt hpos), if_neg (Int.not_lt.2 hhigh),
    if_neg (Int.not_lt.2 hlow)]
  rw [decimal_eq_div] at h
  exact ofQuotient?_of_rounds hx hne (tenTo_pos _) h

end Decimal

/-- A decimal is rounded to a finite double. -/
theorem isFinite_of_ofDecimal? {negative : Bool} {digits : Nat} {exponent : Int} {x : Double}
    (h : ofDecimal? negative digits exponent = some x) : x.IsFinite := by
  rw [ofDecimal?] at h
  split at h
  · rw [← Option.some.inj h]
    exact isFinite_zero negative
  · split at h
    · exact absurd h (by simp)
    · split at h
      · rw [← Option.some.inj h]
        exact isFinite_zero negative
      · exact isFinite_of_ofQuotient? (tenTo_pos _) h

end Double

end RecordQuery.Decimal
