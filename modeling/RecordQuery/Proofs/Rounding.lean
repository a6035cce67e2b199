import Mathlib.Data.Nat.Log
import RecordQuery.Decimal.Numeral

/-!
# Where the two rules for doubles agree

The double of a decimal numeral is found by two rules. One takes the nearest double
(`RecordQuery.Decimal.Numeral.nearest?`); the other rounds the digits to a double first
and then multiplies or divides by a power of ten, rounding again
(`RecordQuery.Decimal.Numeral.byWord?`). They agree where the second rule rounds only
once: the digits are a double, so is the power of ten, and the product or the quotient is
the only thing left to round (`RecordQuery.Decimal.Numeral.byWord?_eq_nearest?`).

Rounding is a function of a quotient, not of the two numbers it is made of, and that is
what makes the comparison work: the exact double `x` of a number `n` has another numerator
and denominator than `n / 1`, but the factor between them is a power of two, which rounding
does not see (`RecordQuery.Decimal.Double.ofQuotient?_mul`). The other ingredient is that a
double is rounded to itself (`RecordQuery.Decimal.Double.ofQuotient?_self`), from which a
number with few binary digits is rounded to itself as well
(`RecordQuery.Decimal.Double.ofNat?_exact`).
-/

namespace RecordQuery.Decimal

/-! ### Powers of two -/

theorem twoTo_add (a b : Nat) : twoTo (a + b) = twoTo a * twoTo b :=
  Nat.pow_add 2 a b

theorem log2_mul_twoTo {n : Nat} (hn : 0 < n) (j : Nat) : (n * twoTo j).log2 = n.log2 + j := by
  have hne : n ≠ 0 := Nat.ne_of_gt hn
  have hpos : n * twoTo j ≠ 0 := Nat.ne_of_gt (Nat.mul_pos hn (twoTo_pos j))
  rw [Nat.log2_eq_iff hpos]
  constructor
  · rw [Nat.pow_add]
    exact Nat.mul_le_mul_right _ (Nat.log2_self_le hne)
  · rw [Nat.add_right_comm, Nat.pow_add]
    exact Nat.mul_lt_mul_of_pos_right Nat.lt_log2_self (twoTo_pos j)

theorem log2_twoTo (j : Nat) : (twoTo j).log2 = j :=
  Nat.log2_two_pow

namespace Double

/-! ### Rounding does not see a common factor -/

theorem roundQuotient_mul (num den : Nat) {k : Nat} (hk : 0 < k) :
    roundQuotient (num * k) (den * k) = roundQuotient num den := by
  have htwice : 2 * (num % den * k) = 2 * (num % den) * k := (Nat.mul_assoc _ _ _).symm
  have hlt : ∀ a b : Nat, a * k < b * k ↔ a < b := fun a b => Nat.mul_lt_mul_right hk
  simp only [roundQuotient, Nat.mul_div_mul_right _ _ hk, Nat.mul_mod_mul_right, htwice, hlt]

theorem roundQuotient_self (n : Nat) {k : Nat} (hk : 0 < k) : roundQuotient (n * k) k = n := by
  rw [roundQuotient, Nat.mul_div_cancel _ hk, Nat.mul_mod_left]
  exact if_pos hk

theorem inUnits_mul (num den k : Nat) (exponent : Int) :
    inUnits (num * k) (den * k) exponent =
      ((inUnits num den exponent).1 * k, (inUnits num den exponent).2 * k) := by
  simp only [inUnits, Nat.mul_right_comm _ k]

theorem unitExponent_mul {num den : Nat} (hnum : 0 < num) (hden : 0 < den) (j : Nat) :
    unitExponent (num * twoTo j) (den * twoTo j) = unitExponent num den := by
  have hguess : (((num * twoTo j).log2 : Nat) : Int) - ((den * twoTo j).log2 : Nat) - 53 =
      (num.log2 : Int) - (den.log2 : Int) - 53 := by
    rw [log2_mul_twoTo hnum, log2_mul_twoTo hden]
    omega
  simp only [unitExponent, hguess, inUnits_mul, Nat.mul_div_mul_right _ _ (twoTo_pos j)]

/-- **Rounding does not see a common power of two** of numerator and denominator. -/
theorem ofQuotient?_mul (negative : Bool) (num : Nat) {den : Nat} (hden : 0 < den) (j : Nat) :
    ofQuotient? negative (num * twoTo j) (den * twoTo j) = ofQuotient? negative num den := by
  rcases Nat.eq_zero_or_pos num with rfl | hnum
  · rw [Nat.zero_mul]
    rfl
  · have hpos : num * twoTo j ≠ 0 := Nat.ne_of_gt (Nat.mul_pos hnum (twoTo_pos j))
    simp only [ofQuotient?, if_neg hpos, if_neg (Nat.ne_of_gt hnum), unitExponent_mul hnum hden,
      inUnits_mul, roundQuotient_mul _ _ (twoTo_pos j)]

theorem ofQuotient?_mul_twoTo (negative : Bool) (num j : Nat) :
    ofQuotient? negative (num * twoTo j) (twoTo j) = ofNat? negative num := by
  have hscale := ofQuotient?_mul negative num Nat.one_pos j
  rw [Nat.one_mul] at hscale
  exact hscale

/-! ### Doubles are rounded to themselves -/

/-- Whether a double has a full mantissa, and an exponent in range. -/
structure IsNormal (x : Double) : Prop where
  le : twoTo 52 ≤ x.mantissa
  lt : x.mantissa < twoTo 53
  least : leastExponent ≤ x.exponent
  greatest : x.exponent ≤ greatestExponent

/-- A double in units of a power of two that is not above its last bit. -/
theorem inUnits_self (x : Double) {exponent : Int} (h : exponent ≤ x.exponent) :
    (inUnits x.numerator x.denominator exponent).1 =
      x.mantissa * twoTo (x.exponent - exponent).toNat *
        (inUnits x.numerator x.denominator exponent).2 := by
  simp only [inUnits, numerator, denominator, Nat.mul_assoc, ← twoTo_add]
  have hsum : x.exponent.toNat + (-exponent).toNat =
      (x.exponent - exponent).toNat + ((-x.exponent).toNat + exponent.toNat) := by omega
  rw [hsum]

theorem inUnits_pos (num : Nat) {den : Nat} (hden : 0 < den) (exponent : Int) :
    0 < (inUnits num den exponent).2 :=
  Nat.mul_pos hden (twoTo_pos _)

theorem denominator_pos (x : Double) : 0 < x.denominator :=
  twoTo_pos _

theorem IsNormal.mantissa_pos {x : Double} (h : x.IsNormal) : 0 < x.mantissa :=
  Nat.lt_of_lt_of_le (twoTo_pos 52) h.le

theorem unitExponent_self {x : Double} (h : x.IsNormal) :
    unitExponent x.numerator x.denominator = x.exponent := by
  have hmantissa : x.mantissa.log2 = 52 :=
    (Nat.log2_eq_iff (Nat.ne_of_gt h.mantissa_pos)).2 ⟨h.le, h.lt⟩
  have hguess : (x.numerator.log2 : Int) - (x.denominator.log2 : Int) - 53 = x.exponent - 1 := by
    rw [numerator, denominator, log2_mul_twoTo h.mantissa_pos, log2_twoTo, hmantissa]
    omega
  -- one unit further down the quotient has one bit too many
  have hpos := inUnits_pos x.numerator x.denominator_pos (x.exponent - 1)
  have htwice := inUnits_self x (Int.sub_le_self x.exponent (by decide : (0 : Int) ≤ 1))
  have hbit : twoTo (x.exponent - (x.exponent - 1)).toNat = 2 := by
    rw [Int.sub_sub_self]
    rfl
  have hquotient : (inUnits x.numerator x.denominator (x.exponent - 1)).1 /
      (inUnits x.numerator x.denominator (x.exponent - 1)).2 = x.mantissa * 2 := by
    rw [htwice, hbit, Nat.mul_div_cancel _ hpos]
  have hlarge : ¬ x.mantissa * 2 < twoTo 53 := by
    have hle : twoTo 52 * 2 ≤ x.mantissa * 2 := Nat.mul_le_mul_right 2 h.le
    exact Nat.not_lt.2 hle
  simp only [unitExponent, hguess, hquotient, if_neg hlarge]
  have hleast := h.least
  omega

/-- **A double is rounded to itself.** -/
theorem ofQuotient?_self {x : Double} (h : x.IsNormal) :
    ofQuotient? x.negative x.numerator x.denominator = some x := by
  have hnum : x.numerator ≠ 0 := Nat.ne_of_gt (Nat.mul_pos h.mantissa_pos (twoTo_pos _))
  have hpos := inUnits_pos x.numerator x.denominator_pos x.exponent
  have hunits := inUnits_self x (Int.le_refl x.exponent)
  rw [Int.sub_self, Int.toNat_zero, twoTo_zero, Nat.mul_one] at hunits
  have hround : roundQuotient (inUnits x.numerator x.denominator x.exponent).1
      (inUnits x.numerator x.denominator x.exponent).2 = x.mantissa := by
    rw [hunits, roundQuotient_self _ hpos]
  have hlt : x.mantissa ≠ twoTo 53 := Nat.ne_of_lt h.lt
  simp only [ofQuotient?, if_neg hnum, unitExponent_self h, hround, if_neg hlt, if_pos h.greatest]

/-! ### Exact doubles -/

/-- Whether a double is exactly a natural number, up to its sign. -/
def IsExactly (x : Double) (n : Nat) : Prop :=
  x.numerator = n * x.denominator

/-- The double `± m · 2 ^ a` with its mantissa shifted to full width. -/
def shifted (negative : Bool) (m a : Nat) : Double :=
  ⟨negative, m * twoTo (52 - m.log2), (a : Int) + m.log2 - 52⟩

section Shifted

variable {m : Nat} (hm : 0 < m) (hlt : m < twoTo 53)

include hm hlt

theorem log2_le : m.log2 ≤ 52 := by
  have h53 : m.log2 < 53 := (Nat.log2_lt (Nat.ne_of_gt hm)).2 hlt
  omega

theorem shifted_isNormal (negative : Bool) {a : Nat} (ha : a ≤ 971) :
    (shifted negative m a).IsNormal := by
  have hlog := log2_le hm hlt
  have hle : twoTo m.log2 ≤ m := Nat.log2_self_le (Nat.ne_of_gt hm)
  have hgt : m < twoTo (m.log2 + 1) := Nat.lt_log2_self
  refine ⟨?_, ?_, ?_, ?_⟩
  · have hsum : 52 = m.log2 + (52 - m.log2) := by omega
    calc twoTo 52 = twoTo m.log2 * twoTo (52 - m.log2) := by rw [← twoTo_add, ← hsum]
      _ ≤ m * twoTo (52 - m.log2) := Nat.mul_le_mul_right _ hle
  · have hsum : m.log2 + 1 + (52 - m.log2) = 53 := by omega
    calc m * twoTo (52 - m.log2) < twoTo (m.log2 + 1) * twoTo (52 - m.log2) :=
          Nat.mul_lt_mul_of_pos_right hgt (twoTo_pos _)
      _ = twoTo 53 := by rw [← twoTo_add, hsum]
  · simp only [shifted, leastExponent]
    omega
  · simp only [shifted, greatestExponent]
    omega

theorem shifted_isExactly (negative : Bool) (a : Nat) :
    (shifted negative m a).IsExactly (m * twoTo a) := by
  have hlog := log2_le hm hlt
  have hsum : 52 - m.log2 + ((a : Int) + m.log2 - 52).toNat =
      a + (-((a : Int) + m.log2 - 52)).toNat := by omega
  simp only [IsExactly, shifted, numerator, denominator, Nat.mul_assoc, ← twoTo_add]
  rw [hsum]

/-- **A number with at most 53 binary digits**, in front of any zeros, **is a double.** -/
theorem ofNat?_exact (negative : Bool) {a : Nat} (ha : a ≤ 971) :
    ∃ x, ofNat? negative (m * twoTo a) = some x ∧ x.negative = negative ∧
      x.IsExactly (m * twoTo a) := by
  have hexact := shifted_isExactly hm hlt negative a
  refine ⟨shifted negative m a, ?_, rfl, hexact⟩
  have hself := ofQuotient?_self (shifted_isNormal hm hlt negative ha)
  rw [hexact] at hself
  exact (ofQuotient?_mul_twoTo negative _ _).symm.trans hself

end Shifted

/-- A number of at most 53 binary digits, or the least one of 54, is a double. -/
theorem ofNat?_small (negative : Bool) {n : Nat} (h : n ≤ twoTo 53) :
    ∃ x, ofNat? negative n = some x ∧ x.negative = negative ∧ x.IsExactly n := by
  rcases Nat.eq_zero_or_pos n with rfl | hpos
  · exact ⟨zero negative, rfl, rfl, by simp [IsExactly, numerator, zero]⟩
  · rcases Nat.lt_or_eq_of_le h with hlt | rfl
    · have hexact := ofNat?_exact hpos hlt negative (Nat.zero_le 971)
      rwa [twoTo_zero, Nat.mul_one] at hexact
    · have hone : 1 < twoTo 53 := by decide
      have hexact := ofNat?_exact Nat.one_pos hone negative (by decide : 53 ≤ 971)
      rwa [Nat.one_mul] at hexact

/-! ### Large numbers -/

/-- A quotient is rounded down or up. -/
theorem roundQuotient_bounds (num den : Nat) :
    num / den ≤ roundQuotient num den ∧ roundQuotient num den ≤ num / den + 1 := by
  simp only [roundQuotient]
  split
  · omega
  · split <;> omega

/-- The leading binary digits of a number. -/
theorem leading_bits {n bits : Nat} (hn : n ≠ 0) (hbits : bits ≤ n.log2) :
    twoTo bits ≤ n / twoTo (n.log2 - bits) ∧ n / twoTo (n.log2 - bits) < twoTo (bits + 1) := by
  have hfloor : twoTo n.log2 ≤ n := Nat.log2_self_le hn
  have hceil : n < twoTo (n.log2 + 1) := Nat.lt_log2_self
  have hsplit : n.log2 = bits + (n.log2 - bits) := by omega
  constructor
  · rw [Nat.le_div_iff_mul_le (twoTo_pos _), ← twoTo_add, ← hsplit]
    exact hfloor
  · rw [Nat.div_lt_iff_lt_mul (twoTo_pos _), ← twoTo_add, Nat.add_right_comm, ← hsplit]
    exact hceil

/-- A number of more than 53 binary digits is rounded to a double with a full
mantissa. -/
theorem ofNat?_large (negative : Bool) {n : Nat} (hle : twoTo 53 ≤ n) (hlt : n < twoTo 64) :
    ∃ x, ofNat? negative n = some x ∧ x.negative = negative ∧ x.IsNormal := by
  have hne : n ≠ 0 := Nat.ne_of_gt (Nat.lt_of_lt_of_le (twoTo_pos 53) hle)
  have hlow : 53 ≤ n.log2 := (Nat.le_log2 hne).2 hle
  have hhigh : n.log2 < 64 := (Nat.log2_lt hne).2 hlt
  -- all the exponents are those of whole numbers, so only the denominator is scaled
  have hunits : ∀ k : Nat, inUnits n 1 (k : Int) = (n, twoTo k) := by
    intro k
    have hneg : (-(k : Int)).toNat = 0 := by omega
    rw [inUnits, hneg, Int.toNat_natCast, twoTo_zero, Nat.mul_one, Nat.one_mul]
  have hguess : (n.log2 : Int) - (Nat.log2 1 : Nat) - 53 = ((n.log2 - 53 : Nat) : Int) := by
    have hone : Nat.log2 1 = 0 := by decide
    omega
  have hfirst := (leading_bits hne hlow).1
  obtain ⟨hdown, hup⟩ := roundQuotient_bounds n (twoTo (n.log2 - 52))
  obtain ⟨hfull, hfits⟩ := leading_bits hne (Nat.le_of_succ_le hlow)
  have hexponent : unitExponent n 1 = ((n.log2 - 52 : Nat) : Int) := by
    simp only [unitExponent, hguess, hunits, if_neg (Nat.not_lt.2 hfirst), leastExponent]
    omega
  simp only [ofNat?, ofQuotient?, if_neg hne, hexponent, hunits]
  by_cases hcarry : roundQuotient n (twoTo (n.log2 - 52)) = twoTo 53
  · have hrange : ((n.log2 - 52 : Nat) : Int) + 1 ≤ greatestExponent := by
      simp only [greatestExponent]
      omega
    simp only [hcarry, if_true, if_pos hrange]
    refine ⟨_, rfl, rfl, Nat.le_refl _, (by decide : twoTo 52 < twoTo 53), ?_, hrange⟩
    simp only [leastExponent]
    omega
  · have hrange : ((n.log2 - 52 : Nat) : Int) ≤ greatestExponent := by
      simp only [greatestExponent]
      omega
    simp only [if_neg hcarry, if_pos hrange]
    refine ⟨_, rfl, rfl, Nat.le_trans hfull hdown, ?_, ?_, hrange⟩
    · exact Nat.lt_of_le_of_ne (Nat.le_trans hup hfits) hcarry
    · simp only [leastExponent]
      omega

/-! ### Products and quotients of exact doubles -/

section Exact

variable {x y : Double} {m n : Nat}

theorem denominator_mul (x y : Double) :
    x.denominator * y.denominator = twoTo ((-x.exponent).toNat + (-y.exponent).toNat) :=
  (twoTo_add _ _).symm

/-- A product of exact doubles is rounded once. -/
theorem mul?_exact (hx : x.IsExactly m) (hy : y.IsExactly n) :
    x.mul? y = ofNat? (x.negative != y.negative) (m * n) := by
  have hnum : x.numerator * y.numerator = m * n * (x.denominator * y.denominator) := by
    rw [hx, hy, Nat.mul_mul_mul_comm]
  rw [mul?, hnum, denominator_mul]
  exact ofQuotient?_mul_twoTo _ _ _

/-- A quotient of exact doubles is rounded once. -/
theorem div?_exact (hx : x.IsExactly m) (hy : y.IsExactly n) (hn : 0 < n) :
    x.div? y = ofQuotient? (x.negative != y.negative) m n := by
  have hnum : x.numerator * y.denominator = m * (x.denominator * y.denominator) := by
    rw [hx, Nat.mul_assoc]
  have hden : x.denominator * y.numerator = n * (x.denominator * y.denominator) := by
    rw [hy, Nat.mul_left_comm]
  rw [div?, hnum, hden, denominator_mul]
  exact ofQuotient?_mul _ _ hn _

/-- A double times one is the double. -/
theorem mul?_one (x : Double) (hy : y.IsExactly 1) :
    x.mul? y = ofQuotient? (x.negative != y.negative) x.numerator x.denominator := by
  rw [mul?, hy, Nat.one_mul]
  exact ofQuotient?_mul _ _ x.denominator_pos _

end Exact

/-! ### Signs and decimals -/

/-- Rounding keeps the sign. -/
theorem negative_ofQuotient? {negative : Bool} {num den : Nat} {x : Double}
    (h : ofQuotient? negative num den = some x) : x.negative = negative := by
  have hsome : ∀ carried : Nat × Int, (if carried.2 ≤ greatestExponent then
      some (⟨negative, carried.1, carried.2⟩ : Double) else none) = some x →
      x.negative = negative := by
    intro carried hcarried
    split at hcarried
    · rw [← Option.some.inj hcarried]
    · simp at hcarried
  rw [ofQuotient?] at h
  split at h
  · rw [← Option.some.inj h]
    rfl
  · exact hsome _ h

theorem ofQuotient?_zero (negative : Bool) (den : Nat) :
    ofQuotient? negative 0 den = some (zero negative) := rfl

/-- A quotient of a number of at most 200 binary digits is in range. -/
theorem isSome_ofQuotient? (negative : Bool) {num : Nat} (den : Nat) (h : num < twoTo 200) :
    (ofQuotient? negative num den).isSome = true := by
  rw [ofQuotient?]
  split
  · rfl
  · next hne =>
    have hlog : num.log2 < 200 := (Nat.log2_lt hne).2 h
    have hexponent : unitExponent num den ≤ 200 := by
      simp only [unitExponent, leastExponent]
      split <;> omega
    have hrange : ∀ carried : Nat × Int, carried.2 ≤ 201 →
        (if carried.2 ≤ greatestExponent then
          some (⟨negative, carried.1, carried.2⟩ : Double) else none).isSome = true := by
      intro carried hcarried
      rw [if_pos (Int.le_trans hcarried (by decide))]
      rfl
    refine hrange _ ?_
    split <;> omega

/-- Between the bounds a decimal is the quotient it looks like. -/
theorem ofDecimal?_eq (negative : Bool) (digits : Nat) {exponent : Int} (hlow : -400 ≤ exponent)
    (hhigh : exponent ≤ 310) :
    ofDecimal? negative digits exponent =
      ofQuotient? negative (digits * tenTo exponent.toNat) (tenTo (-exponent).toNat) := by
  rw [ofDecimal?]
  split
  · next hzero => rw [hzero, Nat.zero_mul, ofQuotient?_zero]
  · rw [if_neg (Int.not_lt.2 hhigh), if_neg (by omega)]

end Double

namespace Numeral

open Double (ofNat? ofQuotient?)

/-! ### Powers of ten -/

theorem tenTo_eq (k : Nat) : tenTo k = Nat.pow 5 k * twoTo k :=
  Nat.mul_pow 5 2 k

theorem ofDecimal?_one (k : Nat) (hk : k ≤ 310) :
    Double.ofDecimal? false 1 (k : Int) = ofNat? false (tenTo k) := by
  have hneg : (-(k : Int)).toNat = 0 := by omega
  rw [Double.ofDecimal?_eq false 1 (by omega) (by omega), hneg, Int.toNat_natCast, Nat.one_mul]
  rfl

theorem negative_power (k : Nat) : (power k).negative = false := by
  rw [power]
  rcases h : Double.ofDecimal? false 1 (k : Int) with _ | x
  · rfl
  · simp only [Double.ofDecimal?, Nat.one_ne_zero, if_false] at h
    split at h
    · simp at h
    · split at h
      · rw [← Option.some.inj h]
        rfl
      · exact Double.negative_ofQuotient? h

/-- The powers of ten that are doubles. -/
theorem power_exact {k : Nat} (hk : k ≤ 22) : (power k).IsExactly (tenTo k) := by
  have hpos : 0 < Nat.pow 5 k := Nat.pow_pos (by decide)
  have hlt : Nat.pow 5 k < twoTo 53 := calc
    Nat.pow 5 k ≤ Nat.pow 5 22 := Nat.pow_le_pow_right (by decide) hk
    _ < twoTo 53 := by decide
  obtain ⟨x, hx, -, hexact⟩ := Double.ofNat?_exact hpos hlt false (Nat.le_trans hk (by decide))
  rw [← tenTo_eq] at hx hexact
  rw [power, ofDecimal?_one k (Nat.le_trans hk (by decide)), hx]
  exact hexact

/-! ### The digits of a numeral -/

/-- The number that all digits of a numeral spell. -/
def significand (n : Numeral) : Nat :=
  spell 0 10 (n.whole ++ n.fraction)

/-- The power of ten that scales the digits. -/
def scalePower (n : Numeral) : Int :=
  n.exponent - n.fraction.length

theorem le_spell (start : Nat) (digits : List Nat) : start ≤ spell start 10 digits := by
  induction digits generalizing start with
  | nil => exact Nat.le_refl start
  | cons digit digits ih =>
    have hstart : start ≤ start * 10 + digit := by omega
    exact Nat.le_trans hstart (ih _)

/-- Digits that a word holds are all packed into it. -/
theorem packWord_eq {start : Nat} {digits : List Nat} (h : spell start 10 digits < wordLimit) :
    packWord start digits = (spell start 10 digits, 0) := by
  induction digits generalizing start with
  | nil => rfl
  | cons digit digits ih =>
    have hfits : start * 10 + digit < wordLimit := Nat.lt_of_le_of_lt (le_spell _ digits) h
    rw [packWord, if_pos hfits]
    exact ih h

theorem word_eq {n : Numeral} (h : n.significand < wordLimit) :
    n.word = (n.significand, n.scalePower) := by
  have hspell : n.significand = spell (spell 0 10 n.whole) 10 n.fraction :=
    List.foldl_append
  rw [hspell] at h ⊢
  have hwhole := packWord_eq (Nat.lt_of_le_of_lt (le_spell _ n.fraction) h)
  simp only [word, hwhole, packWord_eq h, scalePower]
  refine congrArg (_, ·) ?_
  omega

/-! ### Where the rules agree -/

/-- A small power of ten is a single divisor. -/
theorem divideByPower_small {k : Nat} (hk : k ≤ 22) (x : Double) :
    divideByPower k x = x.div? (power k) := by
  have hlt : k - 1 < greatestPower := by
    rw [greatestPower]
    omega
  have hsteps : (k - 1) / greatestPower = 0 := Nat.div_eq_of_lt hlt
  have hzero :
      divideByPower k x = divideSteps (power greatestPower) 0 (k - 0 * greatestPower) x := by
    rw [divideByPower, hsteps]
  rw [hzero, Nat.zero_mul]
  rfl

/-- Scaling by a power of ten that is a double rounds once. -/
theorem scale_exact {x : Double} {s : Nat} (hx : x.IsExactly s) {exponent : Int}
    (hlow : -22 ≤ exponent) (hhigh : exponent ≤ 22) :
    scale x exponent = Double.ofDecimal? x.negative s exponent := by
  rw [Double.ofDecimal?_eq _ _ (by omega) (by omega), scale]
  by_cases hsign : 0 ≤ exponent
  · have hneg : (-exponent).toNat = 0 := by omega
    have hrange : exponent.toNat ≤ greatestPower := by
      rw [greatestPower]
      omega
    rw [if_pos hsign, if_pos hrange, Double.mul?_exact hx (power_exact (by omega)),
      negative_power, Bool.bne_false, hneg]
    rfl
  · have hpos : exponent.toNat = 0 := by omega
    rw [if_neg hsign, divideByPower_small (by omega), Double.div?_exact hx
      (power_exact (by omega)) (tenTo_pos _), negative_power, Bool.bne_false, hpos, tenTo_zero,
      Nat.mul_one]

/-- Scaling leaves zero as it is. -/
theorem scale_zero (negative : Bool) (exponent : Int) :
    scale (Double.zero negative) exponent = some (Double.zero negative) := by
  have hnum : (Double.zero negative).numerator = 0 := Nat.zero_mul _
  have hsign : ((Double.zero negative).negative != false) = negative := Bool.bne_false _
  have hdivide : ∀ large steps last,
      divideSteps large steps last (Double.zero negative) = some (Double.zero negative) := by
    intro large steps last
    cases steps with
    | zero =>
      rw [divideSteps, Double.div?, hnum, Nat.zero_mul, Double.ofQuotient?_zero, negative_power,
        hsign]
    | succ steps => rfl
  rw [scale]
  split
  · split
    · rw [Double.mul?, hnum, Nat.zero_mul, Double.ofQuotient?_zero, negative_power, hsign]
    · rfl
  · exact hdivide _ _ _

/-- Whether a numeral needs one rounding: its digits spell zero, or a number that is a
double and has to be scaled by a power of ten that is a double as well. -/
def RoundsOnce (n : Numeral) : Prop :=
  n.significand = 0 ∨ n.significand ≤ twoTo 53 ∧ -22 ≤ n.scalePower ∧ n.scalePower ≤ 22

/-- **The two rules agree** on a numeral that needs one rounding. -/
theorem byWord?_eq_nearest? {n : Numeral} (h : n.RoundsOnce) : n.byWord? = n.nearest? := by
  have hnearest : n.nearest? = Double.ofDecimal? n.negative n.significand n.scalePower := rfl
  rcases h with hzero | ⟨hsmall, hlow, hhigh⟩
  · have hword : n.significand < wordLimit := by
      rw [hzero]
      exact twoTo_pos 64
    rw [byWord?, word_eq hword, hnearest, hzero]
    exact scale_zero n.negative n.scalePower
  · have hword : n.significand < wordLimit := Nat.lt_of_le_of_lt hsmall (by decide)
    obtain ⟨x, hx, hnegative, hexact⟩ := Double.ofNat?_small n.negative hsmall
    rw [byWord?, word_eq hword, hnearest]
    simp only [hx, scale_exact hexact hlow hhigh, hnegative]

/-- Such a numeral is in range. -/
theorem isSome_nearest? {n : Numeral} (h : n.RoundsOnce) : n.nearest?.isSome = true := by
  have hnearest : n.nearest? = Double.ofDecimal? n.negative n.significand n.scalePower := rfl
  rcases h with hzero | ⟨hsmall, hlow, hhigh⟩
  · rw [hnearest, hzero]
    rfl
  · have hpower : tenTo n.scalePower.toNat ≤ tenTo 22 :=
      Nat.pow_le_pow_right (by decide) (by omega)
    rw [hnearest, Double.ofDecimal?_eq _ _ (by omega) (by omega)]
    refine Double.isSome_ofQuotient? _ _ ?_
    calc n.significand * tenTo n.scalePower.toNat ≤ twoTo 53 * tenTo 22 :=
          Nat.mul_le_mul hsmall hpower
      _ < twoTo 200 := by decide

/-- A whole number that a word holds is rounded once. -/
theorem byWord?_of_word {n : Numeral} (hscale : n.scalePower = 0)
    (hlow : twoTo 53 ≤ n.significand) (hhigh : n.significand < wordLimit) :
    n.byWord? = ofNat? n.negative n.significand := by
  obtain ⟨x, hx, hnegative, hnormal⟩ := Double.ofNat?_large n.negative hlow hhigh
  have hone : (power 0).IsExactly 1 := power_exact (Nat.zero_le 22)
  have hscaled : scale x 0 = some x := by
    rw [scale, if_pos (Int.le_refl 0), Int.toNat_zero, if_pos (Nat.zero_le _),
      Double.mul?_one x hone, negative_power, Bool.bne_false]
    exact Double.ofQuotient?_self hnormal
  rw [byWord?, word_eq hhigh, hscale]
  simp only [hx, hscaled]

end Numeral

end RecordQuery.Decimal
