import RecordQuery.Proofs.Composition
import RecordQuery.Proofs.Parts

/-!
# A sign in front of a phrase

A minus sign in front of a phrase turns its verdicts around and changes nothing else, however
the phrase is written (`RecordQuery.Query.negation_inverts`). The sign is read twice, and both
readers take off one of it. To the scan it belongs to a quoted phrase that starts behind it;
where none does it is one more character of a word, for a sign cannot be the start of a scope
(`RecordQuery.Query.StartsQuoted.of_minus`). To the phrase it is the first of its parts, and
the others stay as they are (`RecordQuery.Query.Parts.Divide.minus`).
-/

namespace RecordQuery.Query

/-! ### The sign in the scan -/

section Scan

variable {cs token : List Char}

/-- A quoted phrase without a sign can be given one. -/
theorem IsQuotedPhrase.minus (h : IsQuotedPhrase token) (hsign : token.head? ≠ some '-') :
    IsQuotedPhrase ('-' :: token) := by
  obtain ⟨negated, scope, inner, hscope, hne, hquote, rfl⟩ := h
  cases negated with
  | true => exact absurd rfl hsign
  | false => exact ⟨true, scope, inner, hscope, hne, hquote, rfl⟩

/-- **No quoted phrase starts with a sign only**: it goes on behind the sign as a quoted
phrase. -/
theorem StartsQuoted.of_minus (h : StartsQuoted ('-' :: cs)) : StartsQuoted cs := by
  obtain ⟨token, ⟨negated, scope, inner, hscope, hne, hquote, rfl⟩, rest, htext⟩ := h
  cases negated with
  | true =>
    obtain ⟨-, hcs⟩ := List.cons.inj htext
    exact ⟨phraseText false scope inner, ⟨false, scope, inner, hscope, hne, hquote, rfl⟩, rest, hcs⟩
  | false =>
    have hhead := head?_scopedQuotation hscope (inner ++ '"' :: rest)
    have hsame : scopeText scope ++ '"' :: (inner ++ '"' :: rest) = '-' :: cs := by
      rw [← htext]
      simp [phraseText, signText]
    exact absurd (by rw [hsame]; rfl) hhead

/-- The first token of a text is a quoted phrase, or a word at which none starts. -/
theorem Scan.head {words : List (List Char)} (h : Scan cs (token :: words)) :
    IsQuotedPhrase token ∨ IsWord token ∧ ¬StartsQuoted token := by
  cases h with
  | quoted _ htoken _ => exact .inl htoken
  | word _ htoken _ hnone _ => exact .inr ⟨htoken, fun hstart => hnone (hstart.append _)⟩

/-- A text is its own only token if it is a quoted phrase, or a word at which none starts. -/
theorem scan_self_iff :
    Scan token [token] ↔ IsQuotedPhrase token ∨ IsWord token ∧ ¬StartsQuoted token := by
  refine ⟨Scan.head, fun h => ?_⟩
  have hscan : Scan ([] ++ (token ++ [])) [token] := by
    rcases h with hquoted | ⟨hword, hnone⟩
    · exact .quoted rfl hquoted (.done rfl)
    · exact .word rfl hword isBreak_nil (by rwa [List.append_nil]) (.done rfl)
  simpa using hscan

/-- **A sign in front of a token** is part of the token. -/
theorem Scan.minus (h : Scan token [token]) (hsign : token.head? ≠ some '-') :
    Scan ('-' :: token) ['-' :: token] := by
  rw [scan_self_iff] at h ⊢
  rcases h with hquoted | ⟨hword, hnone⟩
  · exact .inl (hquoted.minus hsign)
  · refine .inr ⟨⟨by simp, fun c hc => ?_⟩, fun hstart => hnone hstart.of_minus⟩
    rcases List.mem_cons.1 hc with rfl | hc
    · exact Text.isBlank_marks.2.1
    · exact hword.2 c hc

end Scan

/-! ### The sign in the phrase -/

/-- **A sign in front of a token without one** is its sign, and the other parts are kept. -/
theorem Parts.Divide.minus {parts : Parts} {token : List Char} (h : parts.Divide token)
    (hsign : token.head? ≠ some '-') :
    Divide { parts with negated := true } ('-' :: token) := by
  have hplain : parts.negated = false :=
    Bool.eq_false_iff.2 fun hnegated => hsign (h.negated_iff.1 hnegated)
  refine ⟨?_, ⟨fun _ => rfl, fun _ => rfl⟩, h.isScope, h.scope_of_none⟩
  have htext := h.text_eq
  rw [Parts.text, hplain] at htext
  rw [← htext]
  rfl

namespace Phrase

/-- A phrase with a sign in front of it. -/
theorem parse_minus {token : String} (hsign : token.toList.head? ≠ some '-')
    (defaults : FieldList) :
    (parse token defaults).negated = false ∧
      parse ("-" ++ token) defaults = { parse token defaults with negated := true } := by
  obtain ⟨parts, h⟩ := Parts.exists_divide token.toList
  have hminus : Parts.Divide { parts with negated := true } ("-" ++ token).toList := by
    rw [String.toList_append]
    exact h.minus hsign
  rw [h.parse_eq, hminus.parse_eq]
  exact ⟨Bool.eq_false_iff.2 fun hnegated => hsign (h.negated_iff.1 hnegated), rfl⟩

/-- **A negated phrase** holds of the records of which the phrase does not, also if these
have none of its fields or if its pattern was refused. -/
theorem holds_negated {ρ : Type} [Record ρ] (phrase : Phrase) (h : phrase.negated = false)
    (caseSensitive : Bool) (record : ρ) :
    ({ phrase with negated := true }.tree caseSensitive).holds record =
      !(phrase.tree caseSensitive).holds record := by
  have hplain : phrase.tree caseSensitive = .test (phrase.leaf caseSensitive) := by
    rw [tree, h]
    rfl
  have hnegated : { phrase with negated := true }.tree caseSensitive =
      .negate (.test (phrase.leaf caseSensitive)) := rfl
  rw [hnegated, hplain, Tree.holds_negate]

end Phrase

/-! ### The sign in the query -/

/-- A query of one phrase is satisfied if that phrase is. -/
theorem test_of_tokenize_self {ρ : Type} [Record ρ] {search : String}
    (h : tokenize search = [search]) (hbar : search ≠ groupSeparator) (defaults : FieldList)
    (options : Options) (record : ρ) :
    (Filter.new search defaults options).test record =
      ((Phrase.parse search defaults).tree options.caseSensitive).holds record := by
  have hsep : groupSeparator ∉ tokenize search := by
    rw [h]
    simpa using hbar.symm
  rw [test_of_notMem defaults options record (by rw [h]; simp) hsep, h, List.all_cons,
    List.all_nil, Bool.and_true]

/-- **A minus sign in front of a query of one phrase.** A query that is its own only token,
does not start with a sign and is no separator is its own only token with a sign in front as
well. The phrase in it keeps its fields and its pattern and becomes negated, and the verdict on
every record is turned around. -/
theorem negation_inverts {search : String} (hsign : search.toList.head? ≠ some '-')
    (hbar : search ≠ groupSeparator) (hself : tokenize search = [search]) (defaults : FieldList)
    (options : Options) :
    tokenize ("-" ++ search) = ["-" ++ search] ∧
      (Phrase.parse search defaults).negated = false ∧
      Phrase.parse ("-" ++ search) defaults =
        { Phrase.parse search defaults with negated := true } ∧
      ∀ {ρ : Type} [Record ρ] (record : ρ),
        (Filter.new ("-" ++ search) defaults options).test record =
          !(Filter.new search defaults options).test record := by
  have hminus : tokenize ("-" ++ search) = ["-" ++ search] := by
    have hscan := (scan_of_tokenize hself).minus hsign
    have htext : "-" ++ search = String.ofList ('-' :: search.toList) := by
      apply String.toList_inj.1
      simp
    rw [htext]
    exact tokenize_of_scan (by simpa using hscan)
  obtain ⟨hplain, hparse⟩ := Phrase.parse_minus hsign defaults
  refine ⟨hminus, hplain, hparse, fun record => ?_⟩
  have hbar' : "-" ++ search ≠ groupSeparator := by
    intro h
    have hhead := congrArg (fun text => text.toList.head?) h
    simp [groupSeparator] at hhead
  rw [test_of_tokenize_self hminus hbar', test_of_tokenize_self hself hbar, hparse,
    Phrase.holds_negated _ hplain]

/-- A query with two colons and a quotation that is left open. -/
def openScoped : String := "a:b:\"c"

/-- Negated, it matches what is no object, and what has the field without its pattern. -/
theorem negation_inverts_open :
    openScoped.toList.head? ≠ some '-' ∧ openScoped ≠ groupSeparator ∧
      tokenize openScoped = [openScoped] ∧
      tokenize ("-" ++ openScoped) = ["-" ++ openScoped] ∧
      Phrase.parse ("-" ++ openScoped) ⟨["d"]⟩ = ⟨⟨["a"]⟩, "b:c", true⟩ ∧
      (Filter.new ("-" ++ openScoped) ⟨["d"]⟩ ⟨false⟩).test (Json.Value.bool true) = true ∧
      (Filter.new ("-" ++ openScoped) ⟨["d"]⟩ ⟨false⟩).test
        (Json.Value.object [("a", .string "B:C")]) = false := by
  have hsign : openScoped.toList.head? ≠ some '-' := by decide
  have hbar : openScoped ≠ groupSeparator := by decide
  have hself : tokenize openScoped = [openScoped] := by decide +kernel
  obtain ⟨htokens, -, hparse, htest⟩ := negation_inverts hsign hbar hself ⟨["d"]⟩ ⟨false⟩
  have hfails : (Filter.new openScoped ⟨["d"]⟩ ⟨false⟩).test (Json.Value.bool true) = false := by
    decide +kernel
  have hmatches : (Filter.new openScoped ⟨["d"]⟩ ⟨false⟩).test
      (Json.Value.object [("a", .string "B:C")]) = true := by
    decide +kernel
  refine ⟨hsign, hbar, hself, htokens, hparse.trans (by decide +kernel), ?_, ?_⟩
  · rw [htest, hfails]
    rfl
  · rw [htest, hmatches]
    rfl

end RecordQuery.Query
