import RecordQuery.Proofs.Inputs
import RecordQuery.Proofs.Printing

/-!
# What the readers give is proper

A value that comes from a text has its objects in order, because the automaton puts their
entries one by one, and has only numbers that 64 bits hold, because either rule for numbers ends
in a rounding (`RecordQuery.Json.proper_of_read`, `RecordQuery.Json.proper_of_readRelaxed`). So
what was read can be printed and read back, and this holds of the records of all files
(`RecordQuery.Command.proper_of_mem_loadedRecords`).

The automaton is followed step by step: what is proper so far stays so with a proper token
(`RecordQuery.Json.Build.Proper.step`). Of the readers it is then enough to look at the tokens
that carry a value.
-/

namespace RecordQuery

namespace Decimal

open Double (IsFinite)

/-! ### Arithmetic of finite doubles -/

theorem Double.isFinite_of_ofNat? {negative : Bool} {value : Nat} {x : Double}
    (h : Double.ofNat? negative value = some x) : x.IsFinite :=
  Double.isFinite_of_ofQuotient? Nat.one_pos h

theorem Double.isFinite_of_mul? {x y z : Double} (h : x.mul? y = some z) : z.IsFinite :=
  Double.isFinite_of_ofQuotient? (Nat.mul_pos x.denominator_pos y.denominator_pos) h

theorem Double.isFinite_of_div? {x y z : Double} (hy : y.mantissa ≠ 0) (h : x.div? y = some z) :
    z.IsFinite :=
  Double.isFinite_of_ofQuotient? (Nat.mul_pos x.denominator_pos
    (Nat.mul_pos (Nat.pos_of_ne_zero hy) (twoTo_pos _))) h

namespace Numeral

/-- No power of ten that is a finite double is rounded to zero. -/
theorem mantissa_power_ne_zero {k : Nat} (hk : k ≤ greatestPower) : (power k).mantissa ≠ 0 := by
  have hall : ∀ k < 309, (power k).mantissa ≠ 0 := by decide +kernel
  have hlt : k < 309 := Nat.lt_succ_of_le hk
  exact hall k hlt

theorem isFinite_of_divideSteps {large : Double} (hlarge : large.mantissa ≠ 0) {steps last : Nat}
    (hlast : last ≤ greatestPower) {x y : Double} (hx : x.IsFinite)
    (h : divideSteps large steps last x = some y) : y.IsFinite := by
  induction steps generalizing x with
  | zero =>
    rw [divideSteps] at h
    exact Double.isFinite_of_div? (mantissa_power_ne_zero hlast) h
  | succ steps ih =>
    rw [divideSteps] at h
    split at h
    · rwa [← Option.some.inj h]
    · split at h
      · next z hz => exact ih (Double.isFinite_of_div? hlarge hz) h
      · exact absurd h (by simp)

theorem isFinite_of_scale {x y : Double} (hx : x.IsFinite) {exponent : Int}
    (h : scale x exponent = some y) : y.IsFinite := by
  rw [scale] at h
  split at h
  · split at h
    · exact Double.isFinite_of_mul? h
    · split at h
      · rwa [← Option.some.inj h]
      · exact absurd h (by simp)
  · have hlast : (-exponent).toNat -
        ((-exponent).toNat - 1) / greatestPower * greatestPower ≤ greatestPower := by
      rw [greatestPower]
      omega
    exact isFinite_of_divideSteps (mantissa_power_ne_zero (Nat.le_refl _)) hlast hx h

/-- **The word rule gives finite doubles.** -/
theorem isFinite_of_byWord? {n : Numeral} {x : Double} (h : n.byWord? = some x) :
    x.IsFinite := by
  rw [byWord?] at h
  split at h
  · next y hy => exact isFinite_of_scale (Double.isFinite_of_ofNat? hy) h
  · exact absurd h (by simp)

end Numeral

end Decimal

namespace Json

open Decimal (Double Numeral signedLimit wordLimit)

/-! ### Proper builds -/

section Build

variable (valid : Number → Prop)

/-- Whether what a container has so far is proper. -/
def Frame.Proper : Frame → Prop
  | .array items => ∀ item ∈ items, item.Proper valid
  | .object entries _ => Sorted entries ∧ ∀ e ∈ entries, e.2.Proper valid

/-- Whether everything that is built so far is proper. -/
def Build.Proper : Build → Prop
  | .inside frames _ => ∀ frame ∈ frames, frame.Proper valid
  | .done value => value.Proper valid

/-- Whether the value of a token is proper, if it has one. -/
def Token.Proper : Token → Prop
  | .scalar value => value.Proper valid
  | .word _ value => value.Proper valid
  | _ => True

end Build

section Steps

variable {valid : Number → Prop} {grammar : Grammar} {frames : List Frame}

/-- An entry put in a proper object leaves it proper. -/
theorem Frame.Proper.insert {entries : Entries} {last : String}
    (h : (Frame.object entries last).Proper valid) (key : String) {value : Value}
    (hvalue : value.Proper valid) (next : String) :
    (Frame.object (insertEntry key value entries) next).Proper valid := by
  refine ⟨h.1.insertEntry key value, fun e he => ?_⟩
  rcases mem_of_mem_insertEntry he with rfl | he
  · exact hvalue
  · exact h.2 e he

/-- A proper value completes a proper build. -/
theorem Build.proper_complete {value : Value} (hvalue : value.Proper valid)
    (hframes : ∀ frame ∈ frames, frame.Proper valid) : (complete value frames).Proper valid := by
  match frames with
  | [] => exact hvalue
  | .array items :: frames =>
    obtain ⟨hitems, hframes⟩ := List.forall_mem_cons.1 hframes
    exact List.forall_mem_cons.2 ⟨List.forall_mem_cons.2 ⟨hvalue, hitems⟩, hframes⟩
  | .object entries key :: frames =>
    obtain ⟨hentries, hframes⟩ := List.forall_mem_cons.1 hframes
    exact List.forall_mem_cons.2 ⟨hentries.insert key hvalue key, hframes⟩

theorem Build.proper_push {frame : Frame} {expected : Expected} {next : Build}
    (hframe : frame.Proper valid) (hframes : ∀ frame ∈ frames, frame.Proper valid)
    (h : push grammar frame expected frames = .ok next) : next.Proper valid := by
  rw [push] at h
  split at h
  · rw [← Except.ok.inj h]
    exact List.forall_mem_cons.2 ⟨hframe, hframes⟩
  · exact absurd h (by simp)

theorem Build.proper_closeArray {next : Build} (hframes : ∀ frame ∈ frames, frame.Proper valid)
    (h : closeArray frames = .ok next) : next.Proper valid := by
  rw [closeArray.eq_def] at h
  split at h
  · obtain ⟨hitems, hframes⟩ := List.forall_mem_cons.1 hframes
    rw [← Except.ok.inj h]
    exact proper_complete (.array fun item hitem => hitems item (List.mem_reverse.1 hitem)) hframes
  · exact absurd h (by simp)

theorem Build.proper_closeObject {next : Build} (hframes : ∀ frame ∈ frames, frame.Proper valid)
    (h : closeObject frames = .ok next) : next.Proper valid := by
  rw [closeObject.eq_def] at h
  split at h
  · obtain ⟨hentries, hframes⟩ := List.forall_mem_cons.1 hframes
    rw [← Except.ok.inj h]
    exact proper_complete (.object hentries.1 hentries.2) hframes
  · exact absurd h (by simp)

theorem Build.proper_takeValue {token : Token} {next : Build}
    (hframes : ∀ frame ∈ frames, frame.Proper valid) (htoken : token.Proper valid)
    (h : takeValue grammar frames token = .ok next) : next.Proper valid := by
  cases token with
  | openArray =>
    have hempty : (Frame.array []).Proper valid := fun item hitem =>
      absurd hitem List.not_mem_nil
    exact proper_push hempty hframes h
  | openObject =>
    have hempty : (Frame.object [] "").Proper valid :=
      ⟨List.Pairwise.nil, fun e he => absurd he List.not_mem_nil⟩
    exact proper_push hempty hframes h
  | text value =>
    rw [← Except.ok.inj h]
    exact proper_complete (.string value) hframes
  | scalar value =>
    rw [← Except.ok.inj h]
    exact proper_complete htoken hframes
  | word name value =>
    rw [← Except.ok.inj h]
    exact proper_complete htoken hframes
  | _ => cases h

theorem Build.proper_named {key : String} {next : Build}
    (hframes : ∀ frame ∈ frames, frame.Proper valid)
    (h : takeKey.named frames key = .ok next) : next.Proper valid := by
  rw [takeKey.named.eq_def] at h
  split at h
  · obtain ⟨hentries, hframes⟩ := List.forall_mem_cons.1 hframes
    rw [← Except.ok.inj h]
    exact List.forall_mem_cons.2 ⟨hentries, hframes⟩
  · exact absurd h (by simp)

theorem Build.proper_takeKey {token : Token} {next : Build}
    (hframes : ∀ frame ∈ frames, frame.Proper valid)
    (h : takeKey frames token = .ok next) : next.Proper valid := by
  cases token with
  | text key => exact proper_named hframes h
  | name key => exact proper_named hframes h
  | word key value => exact proper_named hframes h
  | _ => cases h

theorem Build.proper_takeSeparator {token : Token} {next : Build}
    (hframes : ∀ frame ∈ frames, frame.Proper valid)
    (h : takeSeparator frames token = .ok next) : next.Proper valid := by
  cases token with
  | comma =>
    match frames with
    | [] => cases h
    | .array items :: rest =>
      rw [← Except.ok.inj h]
      exact hframes
    | .object entries key :: rest =>
      rw [← Except.ok.inj h]
      exact hframes
  | closeArray => exact proper_closeArray hframes h
  | closeObject => exact proper_closeObject hframes h
  | _ => cases h

/-- **A step keeps a build proper.** -/
theorem Build.Proper.step {build next : Build} {token : Token} (h : build.Proper valid)
    (htoken : token.Proper valid) (hstep : Build.step grammar build token = .ok next) :
    next.Proper valid := by
  -- one case for each thing that can be expected, and what is taken in its place
  rw [Build.step.eq_def] at hstep
  split at hstep
  · cases hstep
  · exact proper_takeValue h htoken hstep
  · exact proper_closeArray h hstep
  · exact proper_takeValue h htoken hstep
  · split at hstep
    · exact proper_closeArray h hstep
    · cases hstep
  · exact proper_takeValue h htoken hstep
  · exact proper_closeObject h hstep
  · exact proper_takeKey h hstep
  · split at hstep
    · exact proper_closeObject h hstep
    · cases hstep
  · exact proper_takeKey h hstep
  · rw [← Except.ok.inj hstep]
    exact h
  · cases hstep
  · exact proper_takeSeparator h hstep

theorem Build.Proper.run {build next : Build} {tokens : List Token} (h : build.Proper valid)
    (htokens : ∀ token ∈ tokens, token.Proper valid)
    (hrun : Build.run grammar build tokens = .ok next) : next.Proper valid := by
  induction tokens generalizing build with
  | nil =>
    rw [← Except.ok.inj hrun]
    exact h
  | cons token tokens ih =>
    obtain ⟨htoken, htokens⟩ := List.forall_mem_cons.1 htokens
    rw [Build.run_cons] at hrun
    split at hrun
    · next build' hstep => exact ih (h.step htoken hstep) htokens hrun
    · cases hrun

/-- **Proper tokens make up a proper value.** -/
theorem Build.proper_of_ofTokens {tokens : List Token} {value : Value}
    (htokens : ∀ token ∈ tokens, token.Proper valid)
    (h : Build.ofTokens grammar tokens = .ok value) : value.Proper valid := by
  rw [Build.ofTokens] at h
  split at h
  · next build hrun =>
    have hstart : (Build.inside [] .value).Proper valid := fun frame hframe =>
      absurd hframe List.not_mem_nil
    have hbuild := hstart.run htokens hrun
    cases build with
    | done built =>
      rw [← Except.ok.inj h]
      exact hbuild
    | inside frames expected => cases h
  · cases h

theorem proper_of_mark? {c : Char} {token : Token} (h : mark? c = some token) :
    token.Proper valid := by
  simp only [mark?] at h
  repeat' split at h
  all_goals first
    | (obtain rfl := Option.some.inj h; trivial)
    | cases h

end Steps

/-! ### The tokens of strict texts -/

namespace Strict

theorem fits_of_integer? {negative : Bool} {magnitude : Nat} {z : Int}
    (h : integer? negative magnitude = some z) : (Number.integer z).Fits := by
  -- a positive integer may be as large as a word, a negative one half as large
  have hlimits : signedLimit < wordLimit := by decide
  rw [integer?] at h
  rw [Number.Fits]
  split at h
  · split at h
    · next hrange =>
      simp only [Bool.and_eq_true, decide_eq_true_eq] at hrange
      obtain rfl := Option.some.inj h
      omega
    · cases h
  · split at h
    · obtain rfl := Option.some.inj h
      omega
    · cases h

theorem fits_of_numberValue? {negative : Bool} {whole : List Nat} {fraction : Option (List Nat)}
    {power : Option Int} {number : Number}
    (h : numberValue? negative whole fraction power = some number) : number.Fits := by
  have hdouble : ∀ {numeral : Numeral}, numeral.byWord?.map .float = some number →
      number.Fits := by
    intro numeral h
    obtain ⟨x, hx, rfl⟩ := Option.map_eq_some_iff.1 h
    exact Numeral.isFinite_of_byWord? hx
  simp only [numberValue?] at h
  split at h
  · next z hz =>
    rw [← Option.some.inj h]
    split at hz
    · exact fits_of_integer? hz
    · cases hz
  · exact hdouble h

theorem fits_of_numberParts {negative : Bool} {cs rest : List Char} {number : Number}
    (h : numberParts negative cs = .ok (number, rest)) : number.Fits := by
  simp only [numberParts, bind, Except.bind] at h
  split at h
  · cases h
  · split at h
    · cases h
    · split at h
      · cases h
      · split at h
        · next value hvalue =>
          obtain ⟨rfl, -⟩ := Prod.mk.inj (Except.ok.inj h)
          exact fits_of_numberValue? hvalue
        · cases h

theorem proper_number (negative : Bool) (cs : List Char) :
    (number negative cs).1.Proper Number.Fits := by
  rw [number]
  split
  · next value rest hparts => exact .number (fits_of_numberParts hparts)
  · trivial

theorem proper_text (read cs : List Char) : (text read cs).1.Proper Number.Fits := by
  fun_induction text read cs with
  | case3 read rest d rest' hd _ ih => exact ih
  | case6 read c rest _ _ _ ih => exact ih
  | _ => trivial

theorem proper_literal {value : Value} (h : value.Proper Number.Fits) (spelling cs : List Char) :
    (literal value spelling cs).1.Proper Number.Fits := by
  fun_induction literal value spelling cs with
  | case1 => exact h
  | case3 spelling c rest ih => exact ih
  | _ => trivial

theorem proper_token (c : Char) (rest : List Char) :
    (token c rest).1.Proper Number.Fits := by
  rw [token]
  split
  · next mark hmark => exact proper_of_mark? hmark
  split
  · exact proper_text _ _
  split
  · exact proper_number _ _
  split
  · exact proper_number _ _
  split
  · exact proper_literal (.bool true) _ _
  split
  · exact proper_literal (.bool false) _ _
  split
  · exact proper_literal .null _ _
  · trivial

theorem proper_tokens (cs : List Char) : ∀ token ∈ tokens cs, token.Proper Number.Fits := by
  fun_induction tokens cs with
  | case1 => simp
  | case2 c rest _ ih => exact ih
  | case3 c rest _ read _ => exact List.forall_mem_singleton.2 (proper_token c rest)
  | case4 c rest _ read _ ih => exact List.forall_mem_cons.2 ⟨proper_token c rest, ih⟩

end Strict

/-! ### The tokens of relaxed texts -/

namespace Relaxed

theorem proper_wholeNumber (negative : Bool) (magnitude : Nat) :
    (wholeNumber negative magnitude).Proper Number.Fits := by
  unfold wholeNumber
  extract_lets z
  split
  · next hrange =>
    rw [Bool.and_eq_true, decide_eq_true_eq, decide_eq_true_eq] at hrange
    exact .number hrange
  · split
    · next x hx => exact .number (Double.isFinite_of_ofNat? hx)
    · exact .null

theorem proper_doubleNumber (numeral : Numeral) :
    (doubleNumber numeral).Proper Number.Fits := by
  rw [doubleNumber]
  split
  · next x hx => exact .number (Double.isFinite_of_ofDecimal? hx)
  · exact .null

theorem proper_numberName (spelling cs : List Char) :
    (numberName spelling cs).1.Proper Number.Fits := by
  fun_induction numberName spelling cs with
  | case1 => exact .null
  | case3 spelling c rest ih => exact ih
  | _ => trivial

theorem proper_hexNumber (negative : Bool) (cs : List Char) :
    (hexNumber negative cs).1.Proper Number.Fits := by
  rw [hexNumber]
  split
  · split
    · exact proper_wholeNumber _ _
    · trivial
  · trivial

theorem proper_of_decimalValue? {negative : Bool} {whole : List Nat}
    {fraction : Option (List Nat)} {power : Option Int} {value : Value}
    (h : decimalValue? negative whole fraction power = some value) :
    value.Proper Number.Fits := by
  unfold decimalValue? at h
  split at h
  · cases h
  · split at h
    · cases h
    · split at h
      · rw [← Option.some.inj h]
        exact proper_wholeNumber _ _
      · rw [← Option.some.inj h]
        exact proper_doubleNumber _

theorem proper_decimalNumber (negative : Bool) (cs : List Char) :
    (decimalNumber negative cs).1.Proper Number.Fits := by
  rw [decimalNumber]
  split
  · trivial
  · split
    · next value hvalue => exact proper_of_decimalValue? hvalue
    · trivial

theorem proper_number (negative : Bool) (cs : List Char) :
    (number negative cs).1.Proper Number.Fits := by
  rw [number.eq_def]
  split
  · exact proper_numberName _ _
  · exact proper_numberName _ _
  · exact proper_hexNumber _ _
  · exact proper_hexNumber _ _
  · exact proper_decimalNumber _ _

theorem proper_text (mark : Char) (read cs : List Char) :
    (text mark read cs).1.Proper Number.Fits := by
  fun_induction text mark read cs with
  | case3 read rest ds rest' hd _ ih => exact ih
  | case6 read c rest _ _ _ ih => exact ih
  | _ => trivial

theorem proper_nameToken (read : List Char) (escaped : Bool) :
    (nameToken read escaped).Proper Number.Fits := by
  unfold nameToken
  extract_lets name
  split
  · next value hvalue =>
    unfold wordValue? at hvalue
    split at hvalue
    · rw [← Option.some.inj hvalue]
      exact .null
    · split at hvalue
      · rw [← Option.some.inj hvalue]
        exact .bool true
      · split at hvalue
        · rw [← Option.some.inj hvalue]
          exact .bool false
        · cases hvalue
  · trivial

theorem proper_nameRest (read : List Char) (escaped : Bool) (cs : List Char) :
    (nameRest read escaped cs).1.Proper Number.Fits := by
  fun_induction nameRest read escaped cs with
  | case1 => exact proper_nameToken _ _
  | case2 read escaped rest d rest' hd _ ih => exact ih
  | case5 read escaped c rest _ _ ih => exact ih
  | case6 => exact proper_nameToken _ _
  | _ => trivial

theorem proper_escapedName (cs : List Char) : (escapedName cs).1.Proper Number.Fits := by
  rw [escapedName]
  split
  · split
    · exact proper_nameRest _ _ _
    · trivial
  · trivial

theorem proper_token (c : Char) (rest : List Char) :
    (token c rest).1.Proper Number.Fits := by
  rw [token]
  split
  · next mark hmark => exact proper_of_mark? hmark
  split
  · exact proper_text _ _ _
  split
  · exact proper_number _ _
  split
  · exact proper_number _ _
  split
  · exact proper_escapedName _
  split
  · exact proper_nameRest _ _ _
  · trivial

theorem proper_tokens (cs : List Char) : ∀ token ∈ tokens cs, token.Proper Number.Fits := by
  fun_induction tokens cs with
  | case1 => simp
  | case2 c rest _ ih => exact ih
  | case3 rest _ rest' hcomment ih => exact ih
  | case4 rest _ hcomment => exact List.forall_mem_singleton.2 trivial
  | case5 c rest _ _ read _ => exact List.forall_mem_singleton.2 (proper_token c rest)
  | case6 c rest _ _ read _ ih => exact List.forall_mem_cons.2 ⟨proper_token c rest, ih⟩

end Relaxed

/-! ### Values that were read -/

variable {text : String} {value : Value}

/-- **What the strict reader reads is proper.** -/
theorem proper_of_read (h : read text = .ok value) : value.Proper Number.Fits :=
  Build.proper_of_ofTokens (Strict.proper_tokens _) h

/-- **What the relaxed reader reads is proper.** -/
theorem proper_of_readRelaxed (h : readRelaxed text = .ok value) : value.Proper Number.Fits :=
  Build.proper_of_ofTokens (Relaxed.proper_tokens _) h

end Json

/-! ### Records that were read -/

open Json (Entries Number Value)

namespace Records

variable {source : String} {records : List Entries}

theorem eq_object_of_record {index : Nat} {value : Value} {entries : Entries}
    (h : record source index value = .ok entries) : value = .object entries := by
  rw [record.eq_def] at h
  split at h
  · rw [← Except.ok.inj h]
  · cases h

theorem proper_of_ofValues {index : Nat} {values : List Value}
    (hvalues : ∀ value ∈ values, value.Proper Number.Fits)
    (h : ofValues source index values = .ok records) :
    ∀ entries ∈ records, (Value.object entries).Proper Number.Fits := by
  induction values generalizing index records with
  | nil =>
    rw [← Except.ok.inj h]
    simp
  | cons value values ih =>
    obtain ⟨hvalue, hvalues⟩ := List.forall_mem_cons.1 hvalues
    rw [ofValues] at h
    split at h
    · cases h
    · next entries hrecord =>
      split at h
      · cases h
      · next others hothers =>
        rw [← Except.ok.inj h]
        rw [eq_object_of_record hrecord] at hvalue
        exact List.forall_mem_cons.2 ⟨hvalue, ih hvalues hothers⟩

theorem proper_of_ofLines {line index : Nat} {lines : List (List Char)}
    (h : ofLines source line index lines = .ok records) :
    ∀ entries ∈ records, (Value.object entries).Proper Number.Fits := by
  induction lines generalizing line index records with
  | nil =>
    rw [← Except.ok.inj h]
    simp
  | cons text lines ih =>
    rw [ofLines] at h
    split at h
    · exact ih h
    · split at h
      · cases h
      · next value hread =>
        split at h
        · cases h
        · next entries hrecord =>
          split at h
          · cases h
          · next others hothers =>
            have hvalue := Json.proper_of_read hread
            rw [eq_object_of_record hrecord] at hvalue
            rw [← Except.ok.inj h]
            exact List.forall_mem_cons.2 ⟨hvalue, ih hothers⟩

/-- **The records of a text are proper**, in either format. -/
theorem proper_of_load {text : Except Files.Fault String} (h : load source text = .ok records) :
    ∀ entries ∈ records, (Value.object entries).Proper Number.Fits := by
  cases text with
  | error fault => cases h
  | ok text =>
    change parse text source = .ok records at h
    rw [parse] at h
    split at h
    · split at h
      · next values hread =>
        cases Json.proper_of_readRelaxed hread with
        | array hvalues => exact proper_of_ofValues hvalues h
      · cases h
    · exact proper_of_ofLines h

end Records

/-- **The records of all files are proper.** -/
theorem Command.proper_of_mem_loadedRecords {reading : Command.Reading}
    {input : Except Files.Fault String} {names : List String} {entries : Entries}
    (h : entries ∈ Command.loadedRecords (Command.loads reading input names)) :
    (Value.object entries).Proper Number.Fits := by
  obtain ⟨part, hpart, hmem⟩ := List.mem_flatMap.1 h
  obtain ⟨source, -, rfl⟩ := List.mem_map.1 hpart
  cases hload : Records.load source.1 source.2 with
  | error error =>
    rw [hload] at hmem
    exact absurd hmem List.not_mem_nil
  | ok records =>
    rw [hload] at hmem
    exact Records.proper_of_load hload entries hmem

end RecordQuery
