import Mathlib.Tactic.Positivity
import RecordQuery.Proofs.Nearest

/-!
# Decimals of doubles read back

A double is written as a decimal that is searched for: on one grid of decimals after the other,
each ten times finer, until one of the two neighbors of the double lies in its rounding interval.
Which neighbors do is decided by comparing products of natural numbers, and this is the
comparison of the numbers themselves (`RecordQuery.Decimal.Double.readsBack_iff`).

The search ends, because a grid of seventeen digits is always fine enough
(`RecordQuery.Decimal.Double.isSome_onGrid?`): the nearer neighbor is at most half a step away,
and a step is at most the double over `10 ^ 16`, which is less than its last bit, and less than
half of it where the spacing of doubles changes. The one thing that this needs of the first grid
is that it does not start above the double. Its guess comes from the binary logarithm and a
fraction close to that of two, and for all exponents of doubles it is small enough
(`RecordQuery.Decimal.pow_guess_le`).

So whatever decimal has the value of the one that is found reads back as the double
(`RecordQuery.Decimal.Double.ofDecimal?_shortest`).
-/

namespace RecordQuery.Decimal

/-! ### Decimals as numbers -/

namespace Scaled

/-- **The number that a decimal is.** -/
def value (d : Scaled) : ℚ :=
  d.digits * 10 ^ d.exponent

section Compare

variable (d : Scaled) (num : Nat) {den : Nat} (hden : 0 < den)
include hden

theorem compareQuotient_eq_lt_iff : d.compareQuotient num den = .lt ↔ d.value < num / den := by
  rw [compareQuotient, Nat.compare_eq_lt, value, Double.decimal_eq_div,
    div_lt_div_iff₀ (Nat.cast_pos.2 (tenTo_pos _)) (Nat.cast_pos.2 hden)]
  exact_mod_cast Iff.rfl

theorem compareQuotient_eq_gt_iff : d.compareQuotient num den = .gt ↔ num / den < d.value := by
  rw [compareQuotient, Nat.compare_eq_gt, value, Double.decimal_eq_div,
    div_lt_div_iff₀ (Nat.cast_pos.2 hden) (Nat.cast_pos.2 (tenTo_pos _))]
  exact_mod_cast Iff.rfl

theorem compareQuotient_eq_eq_iff : d.compareQuotient num den = .eq ↔ d.value = num / den := by
  rw [compareQuotient, Nat.compare_eq_eq, value, Double.decimal_eq_div,
    div_eq_div_iff (Nat.cast_ne_zero.2 (Nat.ne_of_gt (tenTo_pos _)))
      (Nat.cast_ne_zero.2 (Nat.ne_of_gt hden))]
  exact_mod_cast Iff.rfl

end Compare

/-- Zeros at the end of the digits do not count. -/
theorem value_trimmed (fuel : Nat) (d : Scaled) : (trimmed fuel d).value = d.value := by
  induction fuel generalizing d with
  | zero => rfl
  | succ fuel ih =>
    rw [trimmed]
    split
    · next h =>
      rw [Bool.and_eq_true, decide_eq_true_eq] at h
      have hdigits : (d.digits : ℚ) = (d.digits / 10 : Nat) * 10 := by
        exact_mod_cast (Nat.div_mul_cancel (Nat.dvd_of_mod_eq_zero h.1)).symm
      rw [ih, value, value, zpow_add_one₀ (by norm_num), hdigits]
      ring
    · rfl

end Scaled

/-! ### The guess of the first digit -/

/-- **The guess is small enough** for every exponent of a double: `30103 / 100000` is a little
more than the decimal logarithm of two, and less than one too much over all of them. -/
theorem pow_guess_le {power : Int} (hlow : -1100 ≤ power) (hhigh : power ≤ 1100) :
    (10 : ℚ) ^ (power * 30103 / 100000 - 1) ≤ 2 ^ power := by
  have hall : ∀ n < 1101, tenTo (n * 30103 / 100000) ≤ 10 * twoTo n ∧
      twoTo n ≤ tenTo (n * 30103 / 100000 + 1) := by decide +kernel
  rcases Int.le_total 0 power with hsign | hsign
  · obtain ⟨n, rfl⟩ := Int.eq_ofNat_of_zero_le hsign
    have hn : (tenTo (n * 30103 / 100000) : ℚ) ≤ 10 * twoTo n := by
      exact_mod_cast (hall n (by omega)).1
    have hpower : ((n : Int) * 30103 / 100000) = (n * 30103 / 100000 : Nat) := by omega
    rw [cast_tenTo, cast_twoTo] at hn
    rw [hpower, zpow_sub_one₀ (by norm_num), zpow_natCast, zpow_natCast,
      mul_inv_le_iff₀ (by norm_num)]
    linarith
  · obtain ⟨n, hn⟩ := Int.eq_ofNat_of_zero_le (Int.neg_nonneg_of_nonpos hsign)
    obtain rfl : power = -(n : Int) := by omega
    have hn : (twoTo n : ℚ) ≤ tenTo (n * 30103 / 100000 + 1) := by
      exact_mod_cast (hall n (by omega)).2
    rw [cast_tenTo, cast_twoTo] at hn
    calc (10 : ℚ) ^ (-(n : Int) * 30103 / 100000 - 1)
        ≤ 10 ^ (-((n * 30103 / 100000 + 1 : Nat) : Int)) :=
          zpow_le_zpow_right₀ (by norm_num) (by omega)
      _ ≤ 2 ^ (-(n : Int)) := by
          rw [zpow_neg, zpow_neg, zpow_natCast, zpow_natCast]
          exact inv_anti₀ (by positivity) hn

namespace Double

/-! ### The rounding interval, compared -/

theorem quarters_div (x : Double) (count : Nat) :
    (x.quarters count / x.quarterDenominator : ℚ) = count * 2 ^ (x.exponent - 2) := by
  rw [quarters, quarterDenominator, Nat.cast_mul, cast_twoTo, cast_twoTo, mul_div_assoc,
    pow_div_pow]

/-- **The comparisons decide the rounding interval.** -/
theorem readsBack_iff (x : Double) (d : Scaled) : x.readsBack d = true ↔ x.Rounds d.value := by
  have hpos : 0 < x.quarterDenominator := twoTo_pos _
  simp only [readsBack, Rounds, Within, Bool.and_eq_true, Bool.or_eq_true, beq_iff_eq,
    d.compareQuotient_eq_lt_iff _ hpos, d.compareQuotient_eq_gt_iff _ hpos,
    d.compareQuotient_eq_eq_iff _ hpos, quarters_div, eq_comm (a := d.value)]

/-! ### The search on grids -/

/-- The lower neighbor on a grid is not above the double, and the upper one is. -/
theorem floorOnGrid_bounds (x : Double) (exponent : Int) :
    ((x.floorOnGrid exponent).digits : ℚ) * 10 ^ exponent ≤ x.mantissa * 2 ^ x.exponent ∧
      (x.mantissa * 2 ^ x.exponent : ℚ) <
        ((x.floorOnGrid exponent).digits + 1) * 10 ^ exponent := by
  have hunit : (0 : ℚ) < 10 ^ exponent := zpow_pos (by norm_num) exponent
  have hden : 0 < x.denominator * tenTo exponent.toNat :=
    Nat.mul_pos x.denominator_pos (tenTo_pos _)
  have hquotient : ((x.numerator * tenTo (-exponent).toNat : Nat) : ℚ) /
      (x.denominator * tenTo exponent.toNat : Nat) =
        x.mantissa * 2 ^ x.exponent / 10 ^ exponent := by
    have hne : (x.denominator : ℚ) ≠ 0 := Nat.cast_ne_zero.2 (Nat.ne_of_gt x.denominator_pos)
    rw [magnitude_eq_div, Nat.cast_mul, Nat.cast_mul, cast_tenTo, cast_tenTo,
      ← pow_div_pow 10 exponent]
    field_simp
  obtain ⟨hparts, hnonneg, hless⟩ :=
    whole_add_fraction (x.numerator * tenTo (-exponent).toNat) hden
  rw [hquotient] at hparts
  have hdigits : (x.floorOnGrid exponent).digits = x.numerator * tenTo (-exponent).toNat /
      (x.denominator * tenTo exponent.toNat) := rfl
  rw [← le_div_iff₀ hunit, ← div_lt_iff₀ hunit, hparts, hdigits]
  constructor <;> linarith

section Positive

variable {x : Double} (hx : x.IsFinite) (hne : x.mantissa ≠ 0)
include hx hne

/-- **A fine grid**: what is at most half a step away from the double rounds to it, if a step is
at most the double over `10 ^ 16`. -/
theorem rounds_of_near {step magnitude : ℚ} (hstep : 0 < step)
    (hgrid : step * 10 ^ 16 ≤ x.mantissa * 2 ^ x.exponent)
    (hlow : x.mantissa * 2 ^ x.exponent - step / 2 ≤ magnitude)
    (hhigh : magnitude ≤ x.mantissa * 2 ^ x.exponent + step / 2) : x.Rounds magnitude := by
  have hunit : (0 : ℚ) < 2 ^ x.exponent := zpow_pos (by norm_num) _
  have hmantissa : (x.mantissa : ℚ) ≤ 2 ^ 53 := by
    rw [← cast_twoTo]
    exact_mod_cast hx.lt.le
  have hsize : (x.mantissa : ℚ) * 2 ^ x.exponent ≤ 2 ^ 53 * 2 ^ x.exponent :=
    mul_le_mul_of_nonneg_right hmantissa hunit.le
  refine ⟨.inl ?_, .inl ?_⟩
  · rw [lowerQuarters_mul hne]
    split
    · next hpower =>
      rw [hpower.1, cast_twoTo] at hgrid hlow ⊢
      linarith
    · linarith
  · rw [upperQuarters_mul]
    linarith

/-- **A fine grid has a neighbor that reads back.** -/
theorem isSome_onGrid? {exponent : Int}
    (hgrid : (10 : ℚ) ^ exponent * 10 ^ 16 ≤ x.mantissa * 2 ^ x.exponent) :
    (x.onGrid? exponent).isSome = true := by
  have hstep : (0 : ℚ) < 10 ^ exponent := zpow_pos (by norm_num) exponent
  obtain ⟨hfloor, hceil⟩ := floorOnGrid_bounds x exponent
  -- the double lies between two neighbors, within half a step of one of them
  have hneighbor : x.readsBack (x.floorOnGrid exponent) = true ∨
      x.readsBack ⟨(x.floorOnGrid exponent).digits + 1, exponent⟩ = true := by
    rw [readsBack_iff, readsBack_iff, Scaled.value, Scaled.value, Nat.cast_succ]
    have hexponent : (x.floorOnGrid exponent).exponent = exponent := rfl
    rw [hexponent]
    rcases le_total (x.mantissa * 2 ^ x.exponent - 10 ^ exponent / 2 : ℚ)
      ((x.floorOnGrid exponent).digits * 10 ^ exponent) with hnear | hfar
    · exact .inl (rounds_of_near hx hne hstep hgrid hnear (by linarith))
    · exact .inr (rounds_of_near hx hne hstep hgrid (by linarith) (by linarith))
  rw [onGrid?]
  rcases hneighbor with h | h
  · rw [h]
    cases x.readsBack ⟨(x.floorOnGrid exponent).digits + 1, exponent⟩ <;> rfl
  · rw [h]
    cases x.readsBack (x.floorOnGrid exponent) <;> rfl

omit hx hne in
/-- What is found on a grid rounds to the double. -/
theorem rounds_of_onGrid? {x : Double} {exponent : Int} {d : Scaled}
    (h : x.onGrid? exponent = some d) : x.Rounds d.value := by
  rw [← readsBack_iff]
  rw [onGrid?] at h
  split at h
  · next hlower hupper =>
    obtain rfl := Option.some.inj h
    split
    · exact hlower
    · exact hupper
  · next hlower _ =>
    obtain rfl := Option.some.inj h
    exact hlower
  · next hupper =>
    obtain rfl := Option.some.inj h
    exact hupper
  · exact absurd h (by simp)

/-- **The first grid** does not start above the double. -/
theorem tenTo_leadingPower_le :
    (10 : ℚ) ^ leadingPower x.numerator x.denominator ≤ x.mantissa * 2 ^ x.exponent := by
  have hden := x.denominator_pos
  have hreaches : ∀ power : Int,
      x.denominator * tenTo power.toNat ≤ x.numerator * tenTo (-power).toNat →
        (10 : ℚ) ^ power ≤ x.numerator / x.denominator := by
    intro power h
    rw [← pow_div_pow 10 power, ← cast_tenTo, ← cast_tenTo,
      div_le_div_iff₀ (Nat.cast_pos.2 (tenTo_pos _)) (Nat.cast_pos.2 hden), mul_comm]
    exact_mod_cast h
  have hpos : 0 < x.mantissa := Nat.pos_of_ne_zero hne
  have hnumerator : x.numerator.log2 = x.mantissa.log2 + x.exponent.toNat := log2_mul_twoTo hpos _
  have hdenominator : x.denominator.log2 = (-x.exponent).toNat := log2_twoTo _
  have hlog : x.mantissa.log2 < 53 := (Nat.log2_lt hne).2 hx.lt
  have hleast : -1074 ≤ x.exponent := hx.least
  have hgreatest : x.exponent ≤ 971 := hx.greatest
  -- the powers that are tried are compared with the number; the guess itself is below it
  have hguess : (10 : ℚ) ^
      (((x.numerator.log2 : Int) - (x.denominator.log2 : Int) - 1) * 30103 / 100000 - 1) ≤
        x.numerator / x.denominator :=
    (pow_guess_le (by omega) (by omega)).trans
      (quotient_bounds hden (Nat.mul_pos hpos (twoTo_pos _))).1.le
  rw [magnitude_eq_div, leadingPower]
  dsimp only
  split
  · next h => exact hreaches _ (of_decide_eq_true h)
  · split
    · next h => exact hreaches _ (of_decide_eq_true h)
    · split
      · next h => exact hreaches _ (of_decide_eq_true h)
      · exact hguess

/-! ### The shortest decimal -/

/-- **The shortest decimal rounds to the double.** -/
theorem rounds_shortest : x.Rounds x.shortest.value := by
  have hfine : (10 : ℚ) ^ (leadingPower x.numerator x.denominator - (16 : Nat)) * 10 ^ 16 ≤
      x.mantissa * 2 ^ x.exponent := by
    have hpower : (10 : ℚ) ^ (leadingPower x.numerator x.denominator - (16 : Nat)) * 10 ^ 16 =
        10 ^ leadingPower x.numerator x.denominator := by
      rw [← zpow_natCast, ← zpow_add₀ (by norm_num), Int.sub_add_cancel]
    rw [hpower]
    exact tenTo_leadingPower_le hx hne
  -- the last of the grids that are tried is fine enough, if no other is
  have hfound : ((List.range 17).findSome? fun (n : Nat) =>
      x.onGrid? (leadingPower x.numerator x.denominator - (n : Int))).isSome = true := by
    rw [List.isSome_findSome?, List.any_eq_true]
    exact ⟨16, by decide, isSome_onGrid? hx hne hfine⟩
  obtain ⟨d, hd⟩ := Option.isSome_iff_exists.1 hfound
  obtain ⟨n, -, hn⟩ := List.exists_of_findSome?_eq_some hd
  rw [shortest, if_neg hne]
  simp only [hd, Option.getD_some, Scaled.value_trimmed]
  exact rounds_of_onGrid? hn

/-- **The shortest decimal reads back**, however it is written. -/
theorem ofDecimal?_shortest {digits : Nat} {exponent : Int}
    (h : (digits * 10 ^ exponent : ℚ) = x.shortest.value) :
    ofDecimal? x.negative digits exponent = some x :=
  ofDecimal?_of_rounds hx hne (h ▸ rounds_shortest hx hne)

end Positive

end Double

end RecordQuery.Decimal
