import RecordQuery.Proofs.Readers
import RecordQuery.Proofs.Rounding

/-!
# Two rules for numbers

The strict reader and the relaxed one have a rule each for the value of a number. They
differ in more than one way: minus zero is a double for the one and an integer for the
other; a number too large for a double has no value for the one and is null for the other;
and the strict rule may round more than once, so that it misses the nearest double that
the relaxed rule has.

For the numbers that texts have mostly none of this matters
(`RecordQuery.Json.NumberText.IsPlain`), and both rules have the same value for them
(`RecordQuery.Json.NumberText.readAlike_of_isPlain`). For integers this is a matter of the
bounds of 64 bits, except that a negative integer below these bounds is a double under both
rules, which the strict one multiplies by one.
-/

namespace RecordQuery.Json

open Decimal (Double Numeral twoTo wordLimit signedLimit)

namespace NumberText

/-! ### Values of numbers -/

/-- Whether both rules have the same value for a number. -/
def ReadAlike (n : NumberText) : Prop :=
  n.strictValue? = some n.relaxedValue

/-- The integers with a magnitude of 64 bits, minus zero excepted, and the numbers with a
point or an exponent that need one rounding. -/
def IsPlain (n : NumberText) : Prop :=
  if n.isInteger then n.magnitude < wordLimit ∧ (n.negative = true → 0 < n.magnitude)
  else n.numeral.RoundsOnce

instance (n : NumberText) : Decidable n.IsPlain :=
  inferInstanceAs (Decidable (if n.isInteger then _ else _ ∨ _))

/-- The digits of an integer are those before its point. -/
theorem numeral_of_isInteger {n : NumberText} (h : n.isInteger = true) :
    n.numeral.significand = n.magnitude ∧ n.numeral.scalePower = 0 := by
  obtain ⟨hfraction, hpower⟩ := Bool.and_eq_true_iff.1 h
  have hfraction : n.fraction = none := Option.isNone_iff_eq_none.1 hfraction
  have hpower : n.power = none := Option.isNone_iff_eq_none.1 hpower
  simp [Numeral.significand, Numeral.scalePower, magnitude, Numeral.wholeValue, numeral, hfraction,
    hpower]

/-- An integer that 64 bits hold, with or without a sign, is an integer in an array. -/
theorem wholeNumber_integer {negative : Bool} {magnitude : Nat} {value : Int}
    (hvalue : (if negative then -(magnitude : Int) else magnitude) = value)
    (hlow : -(signedLimit : Int) ≤ value) (hhigh : value < (wordLimit : Int)) :
    Relaxed.wholeNumber negative magnitude = .number (.integer value) := by
  rw [Relaxed.wholeNumber, hvalue,
    if_pos (Bool.and_eq_true_iff.2 ⟨decide_eq_true hlow, decide_eq_true hhigh⟩)]

/-- A number below these integers is a double in an array. -/
theorem wholeNumber_double {magnitude : Nat} {x : Double}
    (hlow : -(magnitude : Int) < -(signedLimit : Int))
    (hx : Double.ofNat? true magnitude = some x) :
    Relaxed.wholeNumber true magnitude = .number (.float x) := by
  have hrange : ¬ (decide (-(signedLimit : Int) ≤ -(magnitude : Int)) &&
      decide (-(magnitude : Int) < (wordLimit : Int))) = true := by
    intro h
    exact Int.not_le.2 hlow (of_decide_eq_true (Bool.and_eq_true_iff.1 h).1)
  rw [Relaxed.wholeNumber, if_pos rfl, if_neg hrange, hx]

/-- An integer is read alike unless it is minus zero, or too long for a word. -/
theorem readAlike_of_isInteger {n : NumberText} (hinteger : n.isInteger = true)
    (hword : n.magnitude < wordLimit) (hzero : n.negative = true → 0 < n.magnitude) :
    n.ReadAlike := by
  have hlimits : signedLimit < wordLimit := by decide
  obtain ⟨hdigits, hscale⟩ := numeral_of_isInteger hinteger
  rw [ReadAlike, strictValue?, relaxedValue, if_pos hinteger, if_pos hinteger]
  rcases hsign : n.negative with _ | _
  · have hwhole : Relaxed.wholeNumber false n.magnitude = .number (.integer n.magnitude) :=
      wholeNumber_integer rfl (by omega) (by omega)
    simp [Strict.integer?, hword, hwhole]
  · by_cases hsmall : n.magnitude ≤ signedLimit
    · have hwhole : Relaxed.wholeNumber true n.magnitude = .number (.integer (-n.magnitude)) :=
        wholeNumber_integer rfl (by omega) (by omega)
      simp [Strict.integer?, hzero hsign, hsmall, hwhole]
    · -- a negative number below the integers is a double under both rules
      have hlarge : twoTo 53 ≤ n.numeral.significand := by
        rw [hdigits]
        exact Nat.le_trans (by decide : twoTo 53 ≤ signedLimit) (Nat.le_of_not_le hsmall)
      have hfits : n.numeral.significand < wordLimit := by
        rw [hdigits]
        exact hword
      obtain ⟨x, hx, -⟩ := Double.ofNat?_large true hlarge hfits
      have hdouble : n.numeral.byWord? = some x := by
        rw [Numeral.byWord?_of_word hscale hlarge hfits, ← hx]
        exact congrArg (Double.ofNat? · n.numeral.significand) hsign
      rw [hdigits] at hx
      rw [wholeNumber_double (by omega) hx, hdouble]
      simp [Strict.integer?, hsmall]

/-- A number with a point or an exponent is read alike if it needs one rounding. -/
theorem readAlike_of_exact {n : NumberText} (hinteger : n.isInteger = false)
    (h : n.numeral.RoundsOnce) : n.ReadAlike := by
  obtain ⟨x, hx⟩ := Option.isSome_iff_exists.1 (Numeral.isSome_nearest? h)
  have hword : n.numeral.byWord? = some x := (Numeral.byWord?_eq_nearest? h).trans hx
  simp [ReadAlike, strictValue?, relaxedValue, hinteger, hword, hx, Relaxed.doubleNumber]

/-- **Plain numbers are read alike.** -/
theorem readAlike_of_isPlain {n : NumberText} (h : n.IsPlain) : n.ReadAlike := by
  rw [IsPlain] at h
  split at h
  · next hinteger => exact readAlike_of_isInteger hinteger h.1 h.2
  · next hinteger => exact readAlike_of_exact (eq_false_of_ne_true hinteger) h

end NumberText

end RecordQuery.Json
