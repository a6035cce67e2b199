import RecordQuery.Json.Printer
import RecordQuery.Proofs.Numbers
import RecordQuery.Proofs.Shortest

/-!
# Printed numbers read back

What the printer writes for a number is a number in the syntax of JSON, and its value is the
number that was written (`RecordQuery.Json.Number.exists_numberText`). For an integer of 64 bits
both readers agree on this, since its text has neither a point nor an exponent. A finite double is
written with one of them, whatever its layout (`RecordQuery.Json.isDecimal_magnitude`), and what
is read is the double nearest to its shortest decimal, which is the double itself.

The layouts place the point differently and fill up with zeros, but the number that the text
spells is that of the decimal each time. So this is all that is said of them here.
-/

namespace RecordQuery.Json

open Decimal (Double Layout Numeral Scaled intText signedLimit spell tenTo wordLimit)

/-! ### Digits -/

/-- Digits as they are written. -/
def digitsText (ds : List (Fin 10)) : List Char :=
  ds.map fun d => Nat.digitChar d.val

/-- The number that digits spell. -/
def digitsValue (ds : List (Fin 10)) : Nat :=
  spell 0 10 (ds.map Fin.val)

theorem digitsText_append (ds ds' : List (Fin 10)) :
    digitsText (ds ++ ds') = digitsText ds ++ digitsText ds' :=
  List.map_append

theorem spell_zeros (start count : Nat) :
    spell start 10 (List.replicate count 0) = start * tenTo count := by
  induction count generalizing start with
  | zero => exact (Nat.mul_one start).symm
  | succ count ih =>
    rw [List.replicate_succ, Decimal.spell_cons, ih, Nat.add_zero, Decimal.tenTo_succ,
      Nat.mul_assoc, Nat.mul_comm 10]

/-- Zeros behind digits. -/
theorem digitsValue_zeros (ds : List (Fin 10)) (count : Nat) :
    digitsValue (ds ++ List.replicate count 0) = digitsValue ds * tenTo count := by
  rw [digitsValue, List.map_append, List.map_replicate, spell, List.foldl_append]
  exact spell_zeros _ count

/-- Zeros in front of digits. -/
theorem zeros_digitsValue (ds : List (Fin 10)) (count : Nat) :
    digitsValue (List.replicate count 0 ++ ds) = digitsValue ds := by
  have hzeros := spell_zeros 0 count
  rw [Nat.zero_mul, spell] at hzeros
  rw [digitsValue, List.map_append, List.map_replicate, spell, List.foldl_append]
  exact congrArg (List.foldl _ · _) hzeros

/-- **The digits of a natural number**, which start with a zero for zero only. -/
theorem exists_digits (n : Nat) : ∃ d ds, digitsText (d :: ds) = Nat.toDigits 10 n ∧
    digitsValue (d :: ds) = n ∧ (d = 0 → n = 0 ∧ ds = []) := by
  induction n using Nat.strongRecOn with
  | ind n ih =>
    rw [Nat.toDigits_eq_if (by decide)]
    split
    · next hsmall =>
      refine ⟨⟨n, hsmall⟩, [], rfl, ?_, fun hzero => ⟨congrArg Fin.val hzero, rfl⟩⟩
      simp [digitsValue]
    · next hlarge =>
      -- the last digit stands behind those of a tenth of the number
      obtain ⟨d, ds, htext, hvalue, hzero⟩ := ih (n / 10) (by omega)
      refine ⟨d, ds ++ [⟨n % 10, Nat.mod_lt _ (by decide)⟩], ?_, ?_, fun h => ?_⟩
      · rw [← List.cons_append, digitsText_append, htext]
        rfl
      · rw [← List.cons_append, digitsValue, List.map_append, spell, List.foldl_append]
        rw [digitsValue, spell] at hvalue
        rw [hvalue]
        exact Nat.div_add_mod' n 10
      · exact absurd (hzero h).1 (by omega)

/-! ### Integers -/

/-- **An integer of 64 bits is read as itself**, by either rule. -/
theorem exists_integerText {z : Int} (hlow : -(signedLimit : Int) ≤ z)
    (hhigh : z < (wordLimit : Int)) : ∃ n : NumberText, n.text = (intText z).toList ∧
      n.strictValue? = some (.number (.integer z)) ∧ n.relaxedValue = .number (.integer z) := by
  obtain ⟨d, ds, htext, hvalue, hzero⟩ := exists_digits z.natAbs
  let n : NumberText := ⟨decide (z < 0), ⟨d, ds⟩, none, none, fun h => (hzero h).2⟩
  have hinteger : n.isInteger = true := rfl
  have hmagnitude : n.magnitude = z.natAbs := hvalue
  have hsigned : (if n.negative then -(n.magnitude : Int) else n.magnitude) = z := by
    rw [hmagnitude]
    by_cases hneg : z < 0
    · rw [if_pos (decide_eq_true hneg)]
      omega
    · rw [if_neg (by simpa [n] using hneg)]
      omega
  refine ⟨n, ?_, ?_, ?_⟩
  · have hunsigned : n.unsignedText = Nat.toDigits 10 z.natAbs := by
      rw [← htext]
      exact List.append_nil _
    rw [NumberText.text, hunsigned, intText, String.toList_ofList, Layout.digitsOf]
    by_cases hneg : z < 0 <;> simp [n, hneg]
  · have hvalue : Strict.integer? n.negative n.magnitude = some z := by
      rw [Strict.integer?, hmagnitude]
      by_cases hneg : z < 0
      · rw [if_pos (decide_eq_true hneg), if_pos (by simp; omega)]
        exact congrArg some (by omega)
      · rw [if_neg (by simpa [n] using hneg), if_pos (by omega)]
        exact congrArg some (by omega)
    rw [NumberText.strictValue?, if_pos hinteger, hvalue]
  · rw [NumberText.relaxedValue, if_pos hinteger]
    exact NumberText.wholeNumber_integer hsigned hlow hhigh

/-! ### Decimals -/

/-- The number that a text spells, without its sign. -/
def NumberText.size (n : NumberText) : ℚ :=
  n.numeral.significand * 10 ^ n.numeral.scalePower

/-- Whether a text is that of a number with a point or an exponent, without a sign, and spells
the given number. -/
def IsDecimal (negative : Bool) (cs : List Char) (size : ℚ) : Prop :=
  ∃ n : NumberText, n.negative = negative ∧ n.isInteger = false ∧ n.unsignedText = cs ∧
    n.size = size

/-- Digits on both sides of a point. -/
theorem isDecimal_point (negative : Bool) (d : Fin 10) (ds : List (Fin 10)) (f : Fin 10)
    (fs : List (Fin 10)) (hzero : d = 0 → ds = []) :
    IsDecimal negative (digitsText (d :: ds) ++ '.' :: digitsText (f :: fs))
      (digitsValue (d :: ds ++ f :: fs) * 10 ^ (-((f :: fs).length : Int))) := by
  refine ⟨⟨negative, ⟨d, ds⟩, some ⟨f, fs⟩, none, hzero⟩, rfl, rfl, ?_, ?_⟩
  · exact congrArg (_ ++ ·) (List.append_nil _)
  · rw [NumberText.size, Numeral.significand, Numeral.scalePower, digitsValue, List.map_append]
    simp [NumberText.numeral, Digits.values]

theorem zeros_eq_digitsText (count : Nat) :
    Layout.zeros count = digitsText (List.replicate count 0) := by
  rw [digitsText, List.map_replicate]
  rfl

section Positional

variable (negative : Bool) {d : Fin 10} (hd : d ≠ 0) (ds : List (Fin 10))

include hd in
/-- The last digit is in front of the point, with zeros between them. -/
theorem isDecimal_above (k : Nat) :
    IsDecimal negative (digitsText (d :: ds) ++ Layout.zeros k ++ ['.', '0'])
      (digitsValue (d :: ds) * 10 ^ (k : Int)) := by
  have hpoint := isDecimal_point negative d (ds ++ List.replicate k 0) 0 [] (absurd · hd)
  have hvalue : digitsValue (d :: (ds ++ List.replicate k 0) ++ [0]) =
      digitsValue (d :: ds) * tenTo (k + 1) := by
    rw [← digitsValue_zeros, List.replicate_succ']
    simp
  have hsize : ((digitsValue (d :: ds) * (tenTo k * 10) : Nat) : ℚ) *
      10 ^ (-(([0] : List (Fin 10)).length : Int)) = digitsValue (d :: ds) * 10 ^ (k : Int) := by
    rw [Nat.cast_mul, Nat.cast_mul, Decimal.cast_tenTo, zpow_natCast]
    simp [mul_assoc]
  rw [hvalue, Decimal.tenTo_succ, hsize, ← List.cons_append, digitsText_append,
    ← zeros_eq_digitsText] at hpoint
  exact hpoint

include hd in
/-- The point is between two digits. -/
theorem isDecimal_inside {k : Nat} (hpos : 0 < k) (hk : k < ds.length + 1) :
    IsDecimal negative ((digitsText (d :: ds)).take (ds.length + 1 - k) ++
      '.' :: (digitsText (d :: ds)).drop (ds.length + 1 - k))
      (digitsValue (d :: ds) * 10 ^ (-(k : Int))) := by
  -- at least one digit is in front of the point, and one behind it
  obtain ⟨m, hm⟩ : ∃ m, ds.length + 1 - k = m + 1 := ⟨ds.length - k, by omega⟩
  have hrest : (ds.drop m).length = k := by
    rw [List.length_drop]
    omega
  obtain ⟨f, fs, hfs⟩ : ∃ f fs, ds.drop m = f :: fs := List.exists_cons_of_length_pos (by omega)
  have htext : digitsText (d :: ds) = digitsText (d :: ds.take m) ++ digitsText (ds.drop m) := by
    rw [← digitsText_append, List.cons_append, List.take_append_drop]
  have htake : (digitsText (d :: ds.take m)).length = m + 1 := by
    simp only [digitsText, List.length_map, List.length_cons, List.length_take]
    omega
  have hpoint := isDecimal_point negative d (ds.take m) f fs (absurd · hd)
  rw [List.cons_append, ← hfs, List.take_append_drop, hrest] at hpoint
  rw [hm, htext, List.take_left' htake, List.drop_left' htake]
  exact hpoint

/-- The point is in front of the first digit, with zeros between them. -/
theorem isDecimal_below {k : Nat} (hk : ds.length + 1 ≤ k) :
    IsDecimal negative (['0', '.'] ++ Layout.zeros (k - (ds.length + 1)) ++ digitsText (d :: ds))
      (digitsValue (d :: ds) * 10 ^ (-(k : Int))) := by
  obtain ⟨f, fs, hfs⟩ : ∃ f fs, List.replicate (k - (ds.length + 1)) 0 ++ d :: ds = f :: fs :=
    List.exists_cons_of_length_pos (by simp)
  have hrest : (f :: fs).length = k := by
    rw [← hfs, List.length_append, List.length_replicate, List.length_cons]
    omega
  have hvalue : digitsValue ([0] ++ f :: fs) = digitsValue (d :: ds) := by
    rw [← hfs, ← zeros_digitsValue (d :: ds) (k - (ds.length + 1)),
      ← zeros_digitsValue (List.replicate _ 0 ++ d :: ds) 1]
    rfl
  have hpoint := isDecimal_point negative 0 [] f fs fun _ => rfl
  rw [hvalue, hrest, ← hfs, digitsText_append, ← zeros_eq_digitsText] at hpoint
  exact hpoint

include hd in
/-- **Positional text spells its decimal.** -/
theorem isDecimal_positional (exponent : Int) :
    IsDecimal negative (Layout.positional (digitsText (d :: ds)) exponent)
      (digitsValue (d :: ds) * 10 ^ exponent) := by
  have hlength : (digitsText (d :: ds)).length = ds.length + 1 := by simp [digitsText]
  rw [Layout.positional, hlength]
  split
  · next hsign =>
    obtain ⟨k, rfl⟩ := Int.eq_ofNat_of_zero_le hsign
    exact isDecimal_above negative hd ds k
  · next hsign =>
    obtain ⟨k, hk⟩ := Int.eq_ofNat_of_zero_le (Int.neg_nonneg_of_nonpos (Int.not_le.1 hsign).le)
    obtain rfl : exponent = -(k : Int) := by omega
    rw [Int.neg_neg, Int.toNat_natCast]
    dsimp only
    split
    · next hinside => exact isDecimal_inside negative hd ds (by omega) hinside
    · next hbelow => exact isDecimal_below negative ds (Nat.not_lt.1 hbelow)

end Positional

/-- A power is written with its sign. -/
theorem exists_powerText (power : Int) : ∃ p : PowerText, p.value = power ∧
    p.text = ['e', if power < 0 then '-' else '+'] ++ Layout.digitsOf power.natAbs := by
  obtain ⟨e, es, htext, hvalue, -⟩ := exists_digits power.natAbs
  let p : PowerText := ⟨false, some (decide (power < 0)), ⟨e, es⟩⟩
  refine ⟨p, ?_, ?_⟩
  · have hspell : spell 0 10 p.digits.values = power.natAbs := hvalue
    have hsign : p.sign.getD false = decide (power < 0) := rfl
    rw [PowerText.value, powerOf, hspell, hsign]
    by_cases hneg : power < 0
    · rw [if_pos (decide_eq_true hneg)]
      omega
    · rw [if_neg (by simpa using hneg)]
      omega
  · rw [Layout.digitsOf, ← htext]
    by_cases hneg : power < 0 <;>
      simp [PowerText.text, PowerText.signText, p, hneg, Digits.text, digitsText]

/-- **Text with an exponent spells its decimal.** -/
theorem isDecimal_scientific (negative : Bool) (d : Fin 10) (ds : List (Fin 10)) (power : Int) :
    IsDecimal negative (Layout.scientific (digitsText (d :: ds)) power)
      (digitsValue (d :: ds) * 10 ^ (power - ds.length)) := by
  obtain ⟨p, hpower, hptext⟩ := exists_powerText power
  cases ds with
  | nil =>
    refine ⟨⟨negative, ⟨d, []⟩, none, some p, fun _ => rfl⟩, rfl, rfl, ?_, ?_⟩
    · have hlayout : Layout.scientific (digitsText [d]) power = digitsText [d] ++
        (['e', if power < 0 then '-' else '+'] ++ Layout.digitsOf power.natAbs) := rfl
      rw [hlayout, ← hptext]
      rfl
    · simp [NumberText.size, Numeral.significand, Numeral.scalePower, NumberText.numeral,
        Digits.values, digitsValue, hpower]
  | cons f fs =>
    refine ⟨⟨negative, ⟨d, []⟩, some ⟨f, fs⟩, some p, fun _ => rfl⟩, rfl, rfl, ?_, ?_⟩
    · have hlayout : Layout.scientific (digitsText (d :: f :: fs)) power =
        digitsText [d] ++ '.' :: digitsText (f :: fs) ++
          ['e', if power < 0 then '-' else '+'] ++ Layout.digitsOf power.natAbs := rfl
      rw [hlayout, List.append_assoc, ← hptext]
      rfl
    · simp [NumberText.size, Numeral.significand, Numeral.scalePower, NumberText.numeral,
        Digits.values, digitsValue, hpower]

/-- **A decimal is written as a number that it is**, in any layout. -/
theorem isDecimal_magnitude (layout : Layout) (negative : Bool) (d : Scaled) :
    IsDecimal negative (layout.magnitude d) d.value := by
  rw [Layout.magnitude]
  split
  · next hzero =>
    have hpoint := isDecimal_point negative 0 [] 0 [] fun _ => rfl
    have hvalue : digitsValue ([0] ++ [0]) = 0 := rfl
    rw [hvalue, Nat.cast_zero, zero_mul] at hpoint
    rw [Scaled.value, hzero, Nat.cast_zero, zero_mul]
    exact hpoint
  · next hne =>
    obtain ⟨first, others, htext, hvalue, hzero⟩ := exists_digits d.digits
    have hfirst : first ≠ 0 := fun h => hne (hzero h).1
    have hdigits : Layout.digitsOf d.digits = digitsText (first :: others) := htext.symm
    rw [hdigits, Scaled.value, ← hvalue]
    dsimp only
    split
    · exact isDecimal_positional negative hfirst others d.exponent
    · have hscientific := isDecimal_scientific negative first others
        (d.exponent + ((digitsText (first :: others)).length : Int) - 1)
      have hpower : d.exponent + ((digitsText (first :: others)).length : Int) - 1 -
          others.length = d.exponent := by
        simp only [digitsText, List.length_map, List.length_cons]
        omega
      rw [hpower] at hscientific
      exact hscientific

/-- **A finite double is read as itself** by the rule of the relaxed reader. -/
theorem exists_doubleText {x : Double} (hx : x.IsFinite) :
    ∃ n : NumberText, n.text = (doubleLayout.text x).toList ∧
      n.relaxedValue = .number (.float x) := by
  obtain ⟨n, hsign, hinteger, htext, hsize⟩ :=
    isDecimal_magnitude doubleLayout x.negative x.shortest
  refine ⟨n, ?_, ?_⟩
  · rw [NumberText.text, hsign, htext, Layout.text, String.toList_ofList]
    cases x.negative <;> rfl
  · have hnearest : n.numeral.nearest? = some x := by
      have hdecimal : n.numeral.nearest? =
          Double.ofDecimal? x.negative n.numeral.significand n.numeral.scalePower := by
        rw [← hsign]
        rfl
      rw [hdecimal]
      -- zero has no rounding interval, so that its digits have to be looked at
      by_cases hzero : x.mantissa = 0
      · have hsignificand : n.numeral.significand = 0 := by
          rw [Double.shortest, if_pos hzero, Scaled.value, Nat.cast_zero, zero_mul,
            NumberText.size] at hsize
          have hpower : (10 : ℚ) ^ n.numeral.scalePower ≠ 0 := zpow_ne_zero _ (by norm_num)
          exact_mod_cast (mul_eq_zero.1 hsize).resolve_right hpower
        rw [hsignificand, Double.ofDecimal?, if_pos rfl, ← hx.eq_zero hzero]
      · exact Double.ofDecimal?_shortest hx hzero hsize
    rw [NumberText.relaxedValue, hinteger, Relaxed.doubleNumber, hnearest]
    rfl

/-! ### Numbers -/

/-- Whether a number is one of those that 64 bits hold: an integer in range, or a finite
double. -/
def Number.Fits : Number → Prop
  | .integer value => -(signedLimit : Int) ≤ value ∧ value < (wordLimit : Int)
  | .float value => value.IsFinite

/-- **A printed number is read as itself**, an integer by either rule. -/
theorem Number.exists_numberText {number : Number} (h : number.Fits) :
    ∃ n : NumberText, n.text = number.text.toList ∧ n.relaxedValue = .number number ∧
      ∀ z, number = .integer z → n.strictValue? = some (.number number) := by
  cases number with
  | integer z =>
    obtain ⟨n, htext, hstrict, hrelaxed⟩ := exists_integerText h.1 h.2
    exact ⟨n, htext, hrelaxed, fun _ _ => hstrict⟩
  | float x =>
    obtain ⟨n, htext, hrelaxed⟩ := exists_doubleText h
    exact ⟨n, htext, hrelaxed, fun _ => by simp⟩

end RecordQuery.Json
