import RecordQuery.Proofs.Nearest
import RecordQuery.Proofs.Views

/-!
# Whole numbers read alike

One whole number can be stored in two ways: as an integer, and as a double that happens to have
no fraction. The two print by rules of their own, the one by its digits and the other by a
layout of its shortest decimal, but what a query sees of them is the same text.

The number that is stored is a rational (`RecordQuery.Json.Number.value`), for a double its
mantissa scaled by a power of two. If this is an integer, the numerator and the denominator that
the printer works with divide without a remainder (`RecordQuery.Decimal.Double.isExactly_of_value`),
so that below `10 ^ 21` the digits are those of the integer itself, also where doubles are more
than one apart (`RecordQuery.Json.Number.plainText_of_value`). Zero is zero with either sign.

A value may then have any of its whole numbers stored otherwise, in arrays to any depth
(`RecordQuery.Json.Renumbered`): its text stays, and with it every verdict
(`RecordQuery.Json.text?_renumbered`). Numbers inside an object are not among them, since an
object is seen as JSON, where a double keeps its point.
-/

namespace RecordQuery

open RecordQuery.Decimal (Double Layout intText tenTo)

/-! ### The number that is stored -/

namespace Decimal

theorem intText_eq_append (n : Int) :
    intText n = (if n < 0 then "-" else "") ++ toString n.natAbs := by
  rw [intText, String.ofList_append, Nat.toString_eq_ofList_toDigits]
  split <;> rfl

namespace Double

/-- **The number that a double is.** -/
def value (x : Double) : ℚ :=
  (if x.negative then -1 else 1) * (x.mantissa * 2 ^ x.exponent)

variable {x : Double} {n : Int}

/-- A double that is an integer has a numerator that its denominator divides. -/
theorem isExactly_of_value (h : x.value = n) : x.IsExactly n.natAbs := by
  have hden : (x.denominator : ℚ) ≠ 0 := Nat.cast_ne_zero.2 (Nat.ne_of_gt x.denominator_pos)
  have hsign : |(if x.negative then -1 else 1 : ℚ)| = 1 := by split <;> simp
  have hquotient : (x.numerator / x.denominator : ℚ) = (n.natAbs : ℚ) := by
    rw [Nat.cast_natAbs, Int.cast_abs, ← h, value, abs_mul, hsign, one_mul, magnitude_eq_div,
      abs_of_nonneg (div_nonneg (Nat.cast_nonneg _) (Nat.cast_nonneg _))]
  rw [IsExactly]
  exact_mod_cast (div_eq_iff hden).1 hquotient

theorem isWhole_of_value (h : x.value = n) : x.isWhole = true := by
  rw [isWhole, isExactly_of_value h, Nat.mul_mod_left]
  rfl

theorem wholeMagnitude_of_value (h : x.value = n) : x.wholeMagnitude = n.natAbs := by
  rw [wholeMagnitude, isExactly_of_value h, Nat.mul_div_cancel _ x.denominator_pos]

/-- A double that is an integer is read as that integer. Of zero the sign is lost. -/
theorem toInt_of_value (h : x.value = n) : x.toInt = n := by
  have hmagnitude : (x.mantissa * 2 ^ x.exponent : ℚ) = n.natAbs := by
    rw [magnitude_eq_div, isExactly_of_value h, Nat.cast_mul]
    exact mul_div_cancel_right₀ _ (Nat.cast_ne_zero.2 (Nat.ne_of_gt x.denominator_pos))
  have hsigned : ((if x.negative then -(n.natAbs : Int) else n.natAbs : Int) : ℚ) = n := by
    rw [← h, value, hmagnitude]
    split <;> simp
  rw [toInt, wholeMagnitude_of_value h]
  exact Int.cast_injective hsigned

end Double

end Decimal

namespace Json

/-! ### The text of a number -/

/-- **The number that is stored.** -/
def Number.value : Number → ℚ
  | .integer value => value
  | .float value => value.value

/-- **A whole number below `10 ^ 21` is seen by its decimal digits**, behind a minus sign if it
is negative, however it is stored. -/
theorem Number.plainText_of_value {number : Number} {n : Int} (h : number.value = n)
    (hn : n.natAbs < 10 ^ 21) :
    number.plainText = (if n < 0 then "-" else "") ++ toString n.natAbs := by
  rw [← Decimal.intText_eq_append]
  cases number with
  | integer value =>
    obtain rfl : value = n := Int.cast_injective h
    rfl
  | float value =>
    have hlimit : value.wholeMagnitude < tenTo 21 := by
      rw [Double.wholeMagnitude_of_value h]
      exact hn
    rw [plainText, Double.isWhole_of_value h, decide_eq_true hlimit, Double.toInt_of_value h]
    rfl

/-! ### Values that differ in how whole numbers are stored -/

mutual

/-- **A value with whole numbers stored otherwise**, except inside objects. -/
inductive Renumbered : Value → Value → Prop
  /-- Nothing need be stored otherwise. -/
  | same (value : Value) : Renumbered value value
  /-- Two numbers that are one integer. -/
  | number {number other : Number} {n : Int} (hn : n.natAbs < 10 ^ 21) (h : number.value = n)
      (hother : other.value = n) : Renumbered (.number number) (.number other)
  /-- An array, item by item. -/
  | array {items others : List Value} (h : RenumberedEach items others) :
      Renumbered (.array items) (.array others)

/-- Values one by one. -/
inductive RenumberedEach : List Value → List Value → Prop
  /-- There is nothing left. -/
  | nil : RenumberedEach [] []
  /-- A value, and those behind it. -/
  | cons {item other : Value} {items others : List Value} (hitem : Renumbered item other)
      (h : RenumberedEach items others) : RenumberedEach (item :: items) (other :: others)

end

mutual

/-- A value reads as before: by recursion on how its numbers are stored otherwise, through the
items of arrays. -/
theorem Renumbered.text?_eq {value other : Value} (h : Renumbered value other) :
    other.text? = value.text? := by
  cases h with
  | same => rfl
  | number hn hnumber hother =>
    rw [Value.text?, Value.text?, Number.plainText_of_value hnumber hn,
      Number.plainText_of_value hother hn]
  | array hitems => rw [Value.text?, Value.text?, hitems.itemTexts_eq]

theorem RenumberedEach.itemTexts_eq {items others : List Value}
    (h : RenumberedEach items others) : itemTexts others = itemTexts items := by
  cases h with
  | nil => rfl
  | cons hitem hitems => rw [itemTexts, itemTexts, hitem.text?_eq, hitems.itemTexts_eq]

end

/-- **Fields with whole numbers stored otherwise**, under the same names. -/
def RenumberedFields (entries others : Entries) : Prop :=
  List.Forall₂ (fun field other => field.1 = other.1 ∧ Renumbered field.2 other.2) entries others

theorem RenumberedFields.fieldText_eq {entries others : Entries}
    (h : RenumberedFields entries others) (name : String) :
    Record.fieldText others name = Record.fieldText entries name := by
  rw [Record.fieldText_entries, Record.fieldText_entries]
  induction h with
  | nil => rfl
  | @cons field other entries others hfield _ ih =>
    obtain ⟨key, value⟩ := field
    obtain ⟨otherKey, otherValue⟩ := other
    obtain ⟨rfl, hvalue⟩ := hfield
    simp only [field?, List.lookup_cons] at ih ⊢
    split
    · exact hvalue.text?_eq
    · exact ih

/-! ### Reading and verdicts -/

/-- The number that a value is. -/
def Value.number? : Value → Option Number
  | .number stored => some stored
  | _ => none

/-- A text of a number that is an integer is read as that integer, stored in some way. -/
theorem exists_renumbered (text : String) {number : Number} {n : Int} (hvalue : number.value = n)
    (hn : n.natAbs < 10 ^ 21) (h : (read text).toOption.bind Value.number? = some number) :
    ∃ value, read text = .ok value ∧ Renumbered (.number (.integer n)) value := by
  rcases hread : read text with fault | value
  · rw [hread] at h
    cases h
  · rw [hread] at h
    cases value with
    | number stored =>
      obtain rfl : stored = number := Option.some.inj h
      exact ⟨_, rfl, .number hn rfl hvalue⟩
    | _ => cases h

theorem exists_renumbered_one : ∀ text ∈ ["1", "1.0", "1e0"],
    ∃ value, read text = .ok value ∧ Renumbered (.number (.integer 1)) value := by
  have hinteger : (Number.integer 1).value = (1 : Int) := rfl
  have hdouble : (Number.float ⟨false, 4503599627370496, -52⟩).value = (1 : Int) := by
    norm_num [Number.value, Double.value]
  have hone := exists_renumbered "1" hinteger (by decide) (by decide +kernel)
  have hpoint := exists_renumbered "1.0" hdouble (by decide) (by decide +kernel)
  have hpower := exists_renumbered "1e0" hdouble (by decide) (by decide +kernel)
  exact List.forall_mem_cons.2 ⟨hone, List.forall_mem_cons.2 ⟨hpoint, by simpa using hpower⟩⟩

theorem exists_renumbered_zero : ∀ text ∈ ["0", "-0.0"],
    ∃ value, read text = .ok value ∧ Renumbered (.number (.integer 0)) value := by
  have hinteger : (Number.integer 0).value = (0 : Int) := rfl
  have hdouble : (Number.float (.zero true)).value = (0 : Int) := by
    simp [Number.value, Double.value, Double.zero]
  have hzero := exists_renumbered "0" hinteger (by decide) (by decide +kernel)
  have hpoint := exists_renumbered "-0.0" hdouble (by decide) (by decide +kernel)
  exact List.forall_mem_cons.2 ⟨hzero, by simpa using hpoint⟩

/-- **Equal whole numbers read alike.** A value keeps its text if any of its numbers outside
objects is replaced by another number that is the same integer below `10 ^ 21`, and the text of
such a number is that integer in decimal digits, with a minus sign only if it is negative. So
fields of which the numbers are stored otherwise get the same verdict from every condition. One
written with a point or with an exponent is read as one stored otherwise, and so is minus zero. -/
theorem text?_renumbered :
    (∀ {value other : Value}, Renumbered value other → other.text? = value.text?) ∧
      (∀ {number : Number} {n : Int}, number.value = n → n.natAbs < 10 ^ 21 →
        (Value.number number).text? =
          some ((if n < 0 then "-" else "") ++ toString n.natAbs)) ∧
      (∀ {entries others : Entries}, RenumberedFields entries others →
        ∀ tree : Query.Tree, tree.holds others = tree.holds entries) ∧
      (∀ text ∈ ["1", "1.0", "1e0"],
        ∃ value, read text = .ok value ∧ Renumbered (.number (.integer 1)) value) ∧
      ∀ text ∈ ["0", "-0.0"],
        ∃ value, read text = .ok value ∧ Renumbered (.number (.integer 0)) value := by
  refine ⟨Renumbered.text?_eq, fun h hn => ?_, fun h tree => ?_, exists_renumbered_one,
    exists_renumbered_zero⟩
  · rw [Value.text?, Number.plainText_of_value h hn]
  · exact Query.Tree.holds_congr fun name _ => h.fieldText_eq name

/-- An array with an integer beyond `2 ^ 53`, a null and, in an array of its own, zero. -/
def integerItems : Value :=
  .array [.number (.integer (-9007199254740994)), .null, .array [.number (.integer 0)]]

/-- The same numbers as doubles, zero with a minus sign. -/
def doubleItems : Value :=
  .array [.number (.float ⟨true, 4503599627370497, 1⟩), .null,
    .array [.number (.float (.zero true))]]

theorem text?_doubleItems :
    (Renumbered integerItems doubleItems ∧ doubleItems.text? = some "-9007199254740994,,0") ∧
      ((Number.float ⟨true, 4503599627370497, 1⟩).value = (-9007199254740994 : Int) ∧
        (-9007199254740994 : Int).natAbs < 10 ^ 21 ∧
        (Value.number (.float ⟨true, 4503599627370497, 1⟩)).text? = some "-9007199254740994") ∧
      RenumberedFields [("n", integerItems)] [("n", doubleItems)] ∧
      (Query.Filter.new "n:*994,,0" ⟨[]⟩ ⟨false⟩).tree.holds
        ([("n", doubleItems)] : Entries) = true ∧
      (∃ value, read "1e0" = .ok value ∧ value.text? = some "1") ∧
      ∃ value, read "-0.0" = .ok value ∧ value.text? = some "0" := by
  obtain ⟨htext, hnumber, hfields, hone, hnone⟩ := text?_renumbered
  have hlimit : (-9007199254740994 : Int).natAbs < 10 ^ 21 := by decide
  have hlarge : (Number.float ⟨true, 4503599627370497, 1⟩).value = (-9007199254740994 : Int) := by
    norm_num [Number.value, Double.value]
  have hzero : (Number.float (.zero true)).value = (0 : Int) := by
    simp [Number.value, Double.value, Double.zero]
  have hitems : Renumbered integerItems doubleItems :=
    .array (.cons (.number hlimit rfl hlarge) (.cons (.same .null)
      (.cons (.array (.cons (.number (by decide) rfl hzero) .nil)) .nil)))
  have hentries : RenumberedFields [("n", integerItems)] [("n", doubleItems)] :=
    .cons ⟨rfl, hitems⟩ .nil
  obtain ⟨power, hpower, hpowerNumber⟩ := hone "1e0" (by decide)
  obtain ⟨minus, hminus, hminusNumber⟩ := hnone "-0.0" (by decide)
  refine ⟨⟨hitems, ?_⟩, ⟨hlarge, hlimit, ?_⟩, hentries, ?_, ⟨power, hpower, ?_⟩, minus, hminus, ?_⟩
  · rw [htext hitems]
    decide +kernel
  · rw [hnumber hlarge hlimit]
    decide +kernel
  · rw [hfields hentries]
    decide +kernel
  · rw [htext hpowerNumber]
    decide +kernel
  · rw [htext hminusNumber]
    decide +kernel

end Json

end RecordQuery
