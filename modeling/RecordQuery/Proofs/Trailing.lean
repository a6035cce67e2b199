import RecordQuery.Proofs.Readers

/-!
# White space at the end of a JSON text

What a JSON text is read as does not depend on white space behind it
(`RecordQuery.Json.toOption_read_append`). For a text that is read this is plain, since white
space ends a token as well as the end of the text does. For one that is not, it may change the
fault: a text that breaks off in quotation marks is unfinished, and with a line feed behind it
malformed. So only the value is compared, and of tokens whether they are broken.

The readers of the parts of a token are taken one by one. Each of them finds the same in front of
one more character of white space, which stays behind in what it leaves
(`RecordQuery.Json.KeepsGap`), or fails on both.
-/

namespace RecordQuery.Json

open RecordQuery.Text (hexDigit? hexNumber?)
open Strict (escape shortEscape?)

theorem isGap_cases {c : Char} (h : isGap c = true) : c = ' ' ∨ c = '\t' ∨ c = '\n' ∨ c = '\r' := by
  simpa [isGap, or_assoc] using h

theorem isBroken_of_mark? {c : Char} {token : Token} (h : mark? c = some token) :
    token.isBroken = false := by
  revert h
  rw [mark?]
  repeat' split
  all_goals rintro ⟨⟩ <;> rfl

/-- **Two readings find the same**, the second with one more character behind it, or both
fail. -/
inductive Keeps {α : Type} (c : Char) :
    (shorter longer : Except Fault (α × List Char)) → Prop
  /-- The character stays behind what is found. -/
  | found (value : α) (rest : List Char) : Keeps c (.ok (value, rest)) (.ok (value, rest ++ [c]))
  /-- What is missing or wrong may be another thing. -/
  | failed (fault other : Fault) : Keeps c (.error fault) (.error other)

/-- A reader finds the same in front of one more character. -/
def KeepsGap {α : Type} (c : Char) (reader : List Char → Except Fault (α × List Char)) : Prop :=
  ∀ cs, Keeps c (reader cs) (reader (cs ++ [c]))

/-- **Two tokens are the same**, the second with one more character behind it, or both are
broken. -/
inductive SameToken (c : Char) : (shorter longer : Token × List Char) → Prop
  /-- The character stays behind the token. -/
  | found {token : Token} (rest : List Char) (h : token.isBroken = false) :
      SameToken c (token, rest) (token, rest ++ [c])
  /-- The tokens may be broken in different ways. -/
  | broken {shorter longer : Token × List Char} (h : shorter.1.isBroken = true)
      (hlonger : longer.1.isBroken = true) : SameToken c shorter longer

/-- A reader that goes on behind another. -/
theorem KeepsGap.bind {α β : Type} {c : Char} {first : List Char → Except Fault (α × List Char)}
    {next : α → List Char → Except Fault (β × List Char)} (hfirst : KeepsGap c first)
    (hnext : ∀ value, KeepsGap c (next value)) :
    KeepsGap c fun cs => first cs >>= fun found => next found.1 found.2 := by
  intro cs
  have h := hfirst cs
  dsimp only
  generalize first cs = shorter, first (cs ++ [c]) = longer at h ⊢
  cases h with
  | found value rest => exact hnext value rest
  | failed fault other => exact .failed fault other

section Readers

variable {c : Char} (hc : isGap c = true)

include hc

/-! ### Digits and exponents -/

theorem not_isDigit_of_isGap : isDigit c = false := by
  rcases isGap_cases hc with rfl | rfl | rfl | rfl <;> decide

theorem digits_append_gap (cs : List Char) :
    digits (cs ++ [c]) = ((digits cs).1, (digits cs).2 ++ [c]) := by
  have hdigit := not_isDigit_of_isGap hc
  induction cs with
  | nil => simp [digits, hdigit]
  | cons d cs ih =>
    cases hd : isDigit d with
    | false => simp [digits, hd]
    | true => simpa [digits, hd] using ih

theorem keepsGap_someDigits : KeepsGap c someDigits := by
  intro cs
  rw [someDigits, someDigits, digits_append_gap hc]
  split
  · exact .failed _ _
  · exact .found _ _

theorem sign_append_gap (cs : List Char) :
    sign (cs ++ [c]) = ((sign cs).1, (sign cs).2 ++ [c]) := by
  cases cs with
  | nil => rcases isGap_cases hc with rfl | rfl | rfl | rfl <;> rfl
  | cons d cs =>
    rw [List.cons_append]
    by_cases hminus : d = '-'
    · subst hminus
      rfl
    · by_cases hplus : d = '+'
      · subst hplus
        rfl
      · simp [sign, hminus, hplus]

theorem keepsGap_exponent : KeepsGap c exponent := by
  intro cs
  cases cs with
  | nil => rcases isGap_cases hc with rfl | rfl | rfl | rfl <;> exact .found none []
  | cons d cs =>
    rw [List.cons_append, exponent, exponent, sign_append_gap hc]
    split
    · have h := keepsGap_someDigits hc (sign cs).2
      generalize someDigits (sign cs).2 = shorter,
        someDigits ((sign cs).2 ++ [c]) = longer at h ⊢
      cases h with
      | found ds rest => exact .found _ rest
      | failed fault other => exact .failed fault other
    · exact .found none (d :: cs)

/-! ### Escapes -/

theorem hexNumber?_append_gap (ds : List Char) : hexNumber? (ds ++ [c]) = none := by
  have hdigit : hexDigit? c = none := by
    rcases isGap_cases hc with rfl | rfl | rfl | rfl <;> decide
  rw [hexNumber?, List.foldl_append]
  simp [hdigit]

theorem keepsGap_codeUnit : KeepsGap c codeUnit := by
  intro cs
  match cs with
  | [] | [_] | [_, _] => exact .failed _ _
  | [x, y, z] =>
    have hnone : codeUnit? [x, y, z, c] = none :=
      congrArg (Option.map fun unit => (unit, [])) (hexNumber?_append_gap hc [x, y, z])
    rw [List.cons_append, List.cons_append, List.cons_append, List.nil_append, codeUnit, codeUnit,
      hnone]
    exact .failed _ _
  | x :: y :: z :: w :: rest =>
    simp only [List.cons_append, codeUnit, codeUnit?]
    cases hexNumber? [x, y, z, w] with
    | none => exact .failed _ _
    | some unit => exact .found unit rest

/-- One more character does not make an escape of a text that starts with none. -/
theorem exists_escape_of_append {front tail : List Char}
    (h : front ++ [c] = '\\' :: 'u' :: tail) : ∃ rest, front = '\\' :: 'u' :: rest := by
  rcases front with _ | ⟨x, _ | ⟨y, rest⟩⟩
  · cases h
  · obtain ⟨-, rfl, -⟩ : _ ∧ c = 'u' ∧ _ := by simpa using h
    exact absurd hc (by decide)
  · obtain ⟨rfl, rfl, -⟩ : x = '\\' ∧ y = 'u' ∧ _ := by simpa using h
    exact ⟨rest, rfl⟩

theorem keepsGap_unicodeEscape : KeepsGap c unicodeEscape := by
  intro cs
  have h := keepsGap_codeUnit hc cs
  rw [unicodeEscape, unicodeEscape]
  generalize codeUnit cs = shorter, codeUnit (cs ++ [c]) = longer at h ⊢
  cases h with
  | failed fault other => exact .failed fault other
  | found unit behind =>
    dsimp only
    split
    · exact .failed _ _
    · split
      · split
        · rcases isGap_cases hc with rfl | rfl | rfl | rfl <;> exact .failed _ _
        · rcases isGap_cases hc with rfl | rfl | rfl | rfl <;> exact .failed _ _
        · next rest =>
          have h := keepsGap_codeUnit hc rest
          simp only [List.cons_append]
          generalize codeUnit rest = shorter, codeUnit (rest ++ [c]) = longer at h ⊢
          cases h with
          | failed fault other => exact .failed fault other
          | found low rest =>
            dsimp only
            split
            · exact .found _ rest
            · exact .failed _ _
        · next hpair =>
          split
          · exact .failed _ _
          · exact .failed _ _
          · next htail =>
            obtain ⟨rest, rfl⟩ := exists_escape_of_append hc htail
            exact absurd rfl (hpair rest)
          · exact .failed _ _
      · exact .found _ behind

theorem keepsGap_escape : KeepsGap c escape := by
  intro cs
  cases cs with
  | nil => rcases isGap_cases hc with rfl | rfl | rfl | rfl <;> exact .failed _ _
  | cons d cs =>
    rw [List.cons_append, escape, escape]
    split
    · exact keepsGap_unicodeEscape hc cs
    · cases shortEscape? d with
      | none => exact .failed _ _
      | some e => exact .found e cs

/-! ### Texts in quotation marks -/

theorem sameToken_text (read cs : List Char) :
    SameToken c (Strict.text read cs) (Strict.text read (cs ++ [c])) := by
  fun_induction Strict.text read cs with
  | case1 read =>
    have hquote : c ≠ '"' := fun h => absurd (h ▸ hc) (by decide)
    have hslash : c ≠ '\\' := fun h => absurd (h ▸ hc) (by decide)
    refine .broken rfl ?_
    rw [List.nil_append, Strict.text.eq_def]
    simp only [hquote, hslash, if_false]
    split
    · rfl
    · rw [Strict.text.eq_def]
      rfl
  | case2 read rest =>
    rw [List.cons_append, Strict.text.eq_def]
    exact .found rest rfl
  | case3 read rest d rest' hd _ ih =>
    have h := keepsGap_escape hc rest
    rw [hd] at h
    generalize hlonger : escape (rest ++ [c]) = longer at h
    cases h
    rw [List.cons_append, Strict.text_escape read hlonger]
    exact ih
  | case4 read rest fault hd _ =>
    have h := keepsGap_escape hc rest
    rw [hd] at h
    generalize hlonger : escape (rest ++ [c]) = longer at h
    cases h
    rw [List.cons_append, Strict.text_escape_error read hlonger]
    exact .broken rfl rfl
  | case5 read d rest hquote hslash hcode =>
    rw [List.cons_append, Strict.text.eq_def]
    simp only [hquote, hslash, hcode, if_true, if_false]
    exact .broken rfl rfl
  | case6 read d rest hquote hslash hcode ih =>
    rw [List.cons_append, Strict.text.eq_def read (d :: _)]
    simpa only [hquote, hslash, hcode, if_true, if_false] using ih

/-! ### Numbers and literals -/

theorem keepsGap_fraction : KeepsGap c Strict.fraction := by
  intro cs
  cases cs with
  | nil => rcases isGap_cases hc with rfl | rfl | rfl | rfl <;> exact .found none []
  | cons d cs =>
    rw [List.cons_append, Strict.fraction, Strict.fraction]
    split
    · have h := keepsGap_someDigits hc cs
      generalize someDigits cs = shorter, someDigits (cs ++ [c]) = longer at h ⊢
      cases h with
      | found ds rest => exact .found _ rest
      | failed fault other => exact .failed fault other
    · exact .found none (d :: cs)

theorem keepsGap_wholePart : KeepsGap c Strict.wholePart := by
  intro cs
  have h := keepsGap_someDigits hc cs
  rw [Strict.wholePart, Strict.wholePart]
  generalize someDigits cs = shorter, someDigits (cs ++ [c]) = longer at h ⊢
  cases h with
  | failed fault other => exact .failed fault other
  | found ds rest =>
    -- only a zero with digits behind it is refused
    rcases ds with _ | ⟨_ | d, _ | ⟨e, ds⟩⟩
    · exact .found _ rest
    · exact .found _ rest
    · exact .failed _ _
    · exact .found _ rest
    · exact .found _ rest

theorem keepsGap_numberParts (negative : Bool) : KeepsGap c (Strict.numberParts negative) := by
  have hvalue : ∀ whole fraction power, KeepsGap c fun cs =>
      (Strict.numberValue? negative whole fraction power).elim (Except.error Fault.malformed)
        fun value => Except.ok (value, cs) := by
    intro whole fraction power cs
    dsimp only
    cases Strict.numberValue? negative whole fraction power with
    | none => exact .failed _ _
    | some value => exact .found value cs
  have hparts := (keepsGap_wholePart hc).bind fun whole =>
    (keepsGap_fraction hc).bind fun fraction =>
      (keepsGap_exponent hc).bind fun power => hvalue whole fraction power
  convert hparts using 2 with cs
  refine bind_congr fun whole => bind_congr fun fraction => bind_congr fun power => ?_
  obtain ⟨power, rest⟩ := power
  dsimp only
  cases Strict.numberValue? negative whole.1 fraction.1 power <;> rfl

theorem sameToken_number (negative : Bool) (cs : List Char) :
    SameToken c (Strict.number negative cs) (Strict.number negative (cs ++ [c])) := by
  have h := keepsGap_numberParts hc negative cs
  rw [Strict.number, Strict.number]
  generalize Strict.numberParts negative cs = shorter,
    Strict.numberParts negative (cs ++ [c]) = longer at h ⊢
  cases h with
  | found value rest => exact .found rest rfl
  | failed fault other => exact .broken rfl rfl

theorem sameToken_literal (value : Value) (spelling cs : List Char)
    (hspelling : ∀ s ∈ spelling, isGap s = false) :
    SameToken c (Strict.literal value spelling cs) (Strict.literal value spelling (cs ++ [c])) := by
  fun_induction Strict.literal value spelling cs with
  | case1 rest => exact .found rest rfl
  | case2 s spelling =>
    have hne : c ≠ s := fun h => absurd (h ▸ hc) (by simp [hspelling s])
    rw [List.nil_append, Strict.literal, if_neg hne]
    exact .broken rfl rfl
  | case3 spelling d rest ih =>
    rw [List.cons_append, Strict.literal, if_pos rfl]
    exact ih fun s hs => hspelling s (List.mem_cons_of_mem _ hs)
  | case4 s spelling d rest hne =>
    rw [List.cons_append, Strict.literal, if_neg hne]
    exact .broken rfl rfl

/-! ### Tokens -/

theorem sameToken_token (d : Char) (rest : List Char) :
    SameToken c (Strict.token d rest) (Strict.token d (rest ++ [c])) := by
  rw [Strict.token, Strict.token]
  split
  · next mark hmark => exact .found rest (isBroken_of_mark? hmark)
  · split
    · exact sameToken_text hc [] rest
    · split
      · exact sameToken_number hc true rest
      · split
        · exact sameToken_number hc false (d :: rest)
        · split
          · exact sameToken_literal hc _ _ rest (by simp [isGap])
          · split
            · exact sameToken_literal hc _ _ rest (by simp [isGap])
            · split
              · exact sameToken_literal hc _ _ rest (by simp [isGap])
              · exact .broken rfl rfl

/-- The tokens are the same, or there is a broken one in either case. -/
theorem tokens_append_gap (cs : List Char) :
    Strict.tokens (cs ++ [c]) = Strict.tokens cs ∨
      (Strict.tokens cs).any Token.isBroken = true ∧
        (Strict.tokens (cs ++ [c])).any Token.isBroken = true := by
  fun_induction Strict.tokens cs with
  | case1 =>
    rw [List.nil_append, Strict.tokens_gap [] hc, Strict.tokens_nil]
    exact .inl rfl
  | case2 d rest hspace ih =>
    rw [List.cons_append, Strict.tokens.eq_def (d :: _)]
    simpa only [hspace, if_true] using ih
  | case3 d rest hspace read hbroken =>
    have h : SameToken c read (Strict.token d (rest ++ [c])) := sameToken_token hc d rest
    rw [List.cons_append, Strict.tokens_cons _ (eq_false_of_ne_true hspace)]
    generalize Strict.token d (rest ++ [c]) = longer at h ⊢
    generalize read = shorter at h hbroken ⊢
    cases h with
    | found rest h => exact absurd hbroken (by simp [h])
    | broken h hlonger =>
      rw [if_pos hlonger]
      exact .inr ⟨by simp [h], by simp [hlonger]⟩
  | case4 d rest hspace read hbroken ih =>
    have h : SameToken c read (Strict.token d (rest ++ [c])) := sameToken_token hc d rest
    rw [List.cons_append, Strict.tokens_cons _ (eq_false_of_ne_true hspace)]
    generalize Strict.token d (rest ++ [c]) = longer at h ⊢
    generalize read = shorter at h hbroken ih ⊢
    cases h with
    | found rest h =>
      rw [if_neg hbroken]
      rcases ih with ih | ⟨ih, hlonger⟩
      · exact .inl (congrArg (_ :: ·) ih)
      · exact .inr ⟨by simp [ih], by simp [hlonger]⟩
    | broken h hlonger => exact absurd h hbroken

end Readers

/-- With a broken token there is no value. -/
theorem Build.ofTokens_broken (grammar : Grammar) {tokens : List Token}
    (h : tokens.any Token.isBroken = true) : (ofTokens grammar tokens).toOption = none := by
  have hrun : ∀ build, ∃ fault, run grammar build tokens = .error fault := by
    induction tokens with
    | nil => cases h
    | cons token tokens ih =>
      intro build
      rw [run_cons]
      rcases hstep : step grammar build token with fault | next
      · exact ⟨fault, rfl⟩
      · have htoken : token.isBroken = false := by
          refine eq_false_of_ne_true fun hbroken => ?_
          have hnone := step_broken grammar build hbroken
          rw [hstep] at hnone
          cases hnone
        exact ih (by simpa [htoken] using h) next
  obtain ⟨fault, hfault⟩ := hrun (.inside [] .value)
  rw [ofTokens, hfault]
  rfl

/-- **White space at the end does not matter** to what a text is read as. -/
theorem toOption_read_append {c : Char} (hc : isGap c = true) (cs : List Char) :
    (read (String.ofList (cs ++ [c]))).toOption = (read (String.ofList cs)).toOption := by
  rw [read, read, readWithin, readWithin, String.toList_ofList, String.toList_ofList]
  rcases tokens_append_gap hc cs with h | ⟨h, hlonger⟩
  · rw [h]
  · rw [Build.ofTokens_broken _ h, Build.ofTokens_broken _ hlonger]

end RecordQuery.Json
