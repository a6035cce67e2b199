import RecordQuery.Proofs.Composition

/-!
# White space around tokens

The tokens of a query may be set apart by any white space, and by none where a quotation
ends. Whatever it is, it can be exchanged for other white space, as long as some is left
between two tokens (`RecordQuery.Query.IsSpacing`): the tokens are read again
(`RecordQuery.Query.Scan.respace`), and with them everything that a query compiles to. With
single spaces this gives every query a normal form (`RecordQuery.Query.normalForm`).

A quoted phrase is read again whatever stands behind it. A word is in danger if it opens a
quotation, because other white space puts other text behind it. But white space has no
quotation marks, so the text behind has one exactly if the tokens behind have one
(`RecordQuery.Query.Scan.mem_iff`), and that does not depend on the spacing: if the
quotation were closed now, it would have been closed before
(`RecordQuery.Query.startsQuoted_of_open`), and there would not have been a word.
-/

namespace RecordQuery.Query

/-! ### Characters of a text and of its tokens -/

theorem isBreak_blank {gap : List Char} (h : Text.allBlank gap = true) : IsBreak gap :=
  fun c hc => List.all_eq_true.1 h c (List.mem_of_mem_head? hc)

theorem mem_spread_iff {c : Char} (hc : Text.isBlank c = false) {last : List Char}
    (hlast : Text.allBlank last = true) {gaps words : List (List Char)}
    (hlength : gaps.length = words.length) (hgaps : ∀ gap ∈ gaps, Text.allBlank gap = true) :
    c ∈ spread gaps words last ↔ ∃ word ∈ words, c ∈ word := by
  have hnot : ∀ gap, Text.allBlank gap = true → c ∉ gap := by
    intro gap hgap hmem
    exact absurd (List.all_eq_true.1 hgap c hmem) (by simp [hc])
  induction words generalizing gaps with
  | nil => simpa using hnot last hlast
  | cons word words ih =>
    obtain ⟨gap, gaps, rfl⟩ := List.exists_cons_of_length_eq_add_one hlength
    have hrest : c ∈ spread gaps words last ↔ ∃ word ∈ words, c ∈ word :=
      ih (by simpa using hlength) fun g hg => hgaps g (by simp [hg])
    rw [spread_cons, List.mem_append, List.mem_append, hrest]
    simp [hnot gap (hgaps gap (by simp))]

/-- **Only white space is between the tokens**: a text and its tokens have the same other
characters. -/
theorem Scan.mem_iff {cs : List Char} {words : List (List Char)} (h : Scan cs words) {c : Char}
    (hc : Text.isBlank c = false) : c ∈ cs ↔ ∃ word ∈ words, c ∈ word := by
  obtain ⟨gaps, last, hlength, hgaps, hlast, rfl⟩ := h.exists_spread
  exact mem_spread_iff hc hlast hlength hgaps

/-! ### Quotations that are left open -/

/-- **An open quotation is closed** by any quotation mark behind a break. -/
theorem startsQuoted_of_open {negated : Bool} {scope : Option (List Char)}
    {inner rest : List Char} (hscope : IsScope scope) (hquote : '"' ∉ inner)
    (hbreak : IsBreak rest) (hclose : '"' ∈ rest) :
    StartsQuoted (signText negated ++ (scopeText scope ++ '"' :: inner) ++ rest) := by
  obtain ⟨gap, after, rfl, hgap⟩ := List.eq_append_cons_of_mem hclose
  -- the mark is not white space, so it does not stand at the break itself
  have hne : gap ≠ [] := by
    rintro rfl
    exact absurd (hbreak '"' rfl) (by simp [Text.isBlank_marks.1])
  refine ⟨phraseText negated scope (inner ++ gap),
    ⟨negated, scope, inner ++ gap, hscope, by simp [hne], ?_, rfl⟩, after, ?_⟩
  · rw [List.mem_append]
    exact not_or.2 ⟨hquote, hgap⟩
  · simp [phraseText]

/-! ### Other white space -/

/-- **White space for some tokens**: a gap in front of each of them and one behind the last,
none of the gaps between two tokens empty. -/
structure IsSpacing (gaps : List (List Char)) (last : List Char) (words : List (List Char)) :
    Prop where
  /-- There is a gap for every token. -/
  length_eq : gaps.length = words.length
  /-- The gaps are white space. -/
  allBlank_gaps : ∀ gap ∈ gaps, Text.allBlank gap = true
  /-- So is what stands behind the last token. -/
  allBlank_last : Text.allBlank last = true
  /-- Only the gap in front of the first token may be empty. -/
  tail_ne_nil : ∀ gap ∈ gaps.tail, gap ≠ []

/-- The gaps behind the first token are a spacing for the tokens behind it. -/
theorem IsSpacing.tail {gap last word : List Char} {gaps words : List (List Char)}
    (h : IsSpacing (gap :: gaps) last (word :: words)) : IsSpacing gaps last words where
  length_eq := by simpa using h.length_eq
  allBlank_gaps := fun g hg => h.allBlank_gaps g (by simp [hg])
  allBlank_last := h.allBlank_last
  tail_ne_nil := fun g hg => h.tail_ne_nil g (List.mem_of_mem_tail hg)

/-- Behind the first token there is a break. -/
theorem IsSpacing.isBreak {gap last word : List Char} {gaps words : List (List Char)}
    (h : IsSpacing (gap :: gaps) last (word :: words)) : IsBreak (spread gaps words last) := by
  cases words with
  | nil => simpa using isBreak_blank h.allBlank_last
  | cons next words =>
    obtain ⟨between, gaps, rfl⟩ := List.exists_cons_of_length_eq_add_one h.tail.length_eq
    rw [spread_cons]
    exact isBreak_gap (h.allBlank_gaps between (by simp)) (h.tail_ne_nil between (by simp)) _

/-- **Tokens survive other white space**: with any spacing the tokens of a text are scanned
again. -/
theorem Scan.respace {cs last : List Char} {words gaps : List (List Char)} (h : Scan cs words)
    (hs : IsSpacing gaps last words) : Scan (spread gaps words last) words := by
  induction h generalizing gaps with
  | done => simpa using Scan.done hs.allBlank_last
  | quoted _ htoken _ ih =>
    obtain ⟨gap, gaps, rfl⟩ := List.exists_cons_of_length_eq_add_one hs.length_eq
    rw [spread_cons]
    exact .quoted (hs.allBlank_gaps gap (by simp)) htoken (ih hs.tail)
  | @word _ token rest words _ htoken hbreak hnone hrest ih =>
    obtain ⟨gap, gaps, rfl⟩ := List.exists_cons_of_length_eq_add_one hs.length_eq
    have hscan := ih hs.tail
    rw [spread_cons]
    refine .word (hs.allBlank_gaps gap (by simp)) htoken hs.isBreak (fun hstart => ?_) hscan
    rcases startsQuoted_append hs.isBreak hstart with h | ⟨hclose, _, _, _, hscope, hquote, rfl⟩
    · exact hnone (h.append rest)
    · have hquoteInk := Text.isBlank_marks.1
      have hmark : '"' ∈ rest :=
        (hrest.mem_iff hquoteInk).2 ((hscan.mem_iff hquoteInk).1 hclose)
      exact hnone (startsQuoted_of_open hscope hquote hbreak hmark)

/-! ### Queries with other white space -/

/-- A query with other white space around its tokens. -/
def respaced (gaps : List (List Char)) (last : List Char) (search : String) : String :=
  String.ofList (spread gaps ((tokenize search).map String.toList) last)

/-- **The normal form of a query**: its tokens with single spaces between them. -/
def normalForm (search : String) : String :=
  Text.joinStrings " " (tokenize search)

/-- A query is its tokens with the white space that was around them. -/
theorem exists_respaced_self (search : String) :
    ∃ gaps last, gaps.length = (tokenize search).length ∧
      (∀ gap ∈ gaps, Text.allBlank gap = true) ∧ Text.allBlank last = true ∧
      respaced gaps last search = search := by
  obtain ⟨gaps, last, hlength, hgaps, hlast, htext⟩ := (scan_tokens search.toList).exists_spread
  refine ⟨gaps, last, by rw [hlength]; simp [tokenize], hgaps, hlast, ?_⟩
  rw [respaced, map_toList_tokenize, ← htext, String.ofList_toList]

theorem tokenize_respaced {gaps : List (List Char)} {last : List Char} {search : String}
    (h : IsSpacing gaps last ((tokenize search).map String.toList)) :
    tokenize (respaced gaps last search) = tokenize search := by
  rw [map_toList_tokenize] at h
  rw [tokenize, respaced, String.toList_ofList, map_toList_tokenize,
    ((scan_tokens search.toList).respace h).tokens_eq]
  rfl

theorem join_space_eq_spread (word : List Char) (words : List (List Char)) :
    Text.join [' '] (word :: words) =
      spread ([] :: List.replicate words.length [' ']) (word :: words) [] := by
  induction words generalizing word with
  | nil => simp
  | cons next words ih =>
    rw [Text.join_cons_cons, ih]
    simp [List.replicate_succ]

/-- **Single spaces are a spacing**: the normal form is the query with other white space. -/
theorem exists_respaced_eq_normalForm (search : String) :
    ∃ gaps, IsSpacing gaps [] ((tokenize search).map String.toList) ∧
      normalForm search = respaced gaps [] search := by
  cases hwords : (tokenize search).map String.toList with
  | nil =>
    refine ⟨[], ⟨rfl, by simp, rfl, by simp⟩, ?_⟩
    rw [normalForm, respaced, Text.joinStrings, hwords]
    rfl
  | cons word words =>
    have hspaces : ∀ gap ∈ List.replicate words.length [' '], gap = [' '] := fun gap hgap =>
      (List.mem_replicate.1 hgap).2
    refine ⟨[] :: List.replicate words.length [' '], ⟨by simp, ?_, rfl, ?_⟩, ?_⟩
    · rintro gap (_ | ⟨_, hgap⟩)
      · rfl
      · rw [hspaces gap hgap]
        rfl
    · intro gap hgap
      rw [hspaces gap hgap]
      simp
    · rw [normalForm, respaced, Text.joinStrings, hwords]
      exact congrArg String.ofList (join_space_eq_spread word words)

theorem tokenize_normalForm (search : String) :
    tokenize (normalForm search) = tokenize search := by
  obtain ⟨gaps, hgaps, heq⟩ := exists_respaced_eq_normalForm search
  rw [heq, tokenize_respaced hgaps]

/-- What a query compiles to depends on its tokens only. -/
theorem compile_congr {search other : String} (h : tokenize search = tokenize other)
    (defaults : FieldList) (caseSensitive : Bool) :
    compile search defaults caseSensitive = compile other defaults caseSensitive := by
  rw [compile, compile, groups, groups, h]

/-- **White space around tokens makes no difference.** A query is its tokens with some white
space around them. With any white space between its tokens, some between every two, and any or
none in front of the first and behind the last, it has the same tokens and compiles to the same
condition with the same warnings. So a query has a normal form, which has its tokens, compiles
to the same and is its own normal form. -/
theorem compile_respaced (search : String) :
    (∃ gaps last, gaps.length = (tokenize search).length ∧
      (∀ gap ∈ gaps, Text.allBlank gap = true) ∧ Text.allBlank last = true ∧
      respaced gaps last search = search) ∧
      (∀ gaps last, IsSpacing gaps last ((tokenize search).map String.toList) →
        tokenize (respaced gaps last search) = tokenize search ∧
          ∀ defaults caseSensitive, compile (respaced gaps last search) defaults caseSensitive =
            compile search defaults caseSensitive) ∧
      tokenize (normalForm search) = tokenize search ∧
      (∀ defaults caseSensitive, compile (normalForm search) defaults caseSensitive =
        compile search defaults caseSensitive) ∧
      normalForm (normalForm search) = normalForm search := by
  have hnormal := tokenize_normalForm search
  refine ⟨exists_respaced_self search, fun gaps last hgaps => ?_, hnormal,
    compile_congr hnormal, ?_⟩
  · have htokens := tokenize_respaced hgaps
    exact ⟨htokens, compile_congr htokens⟩
  · rw [normalForm, hnormal, normalForm]

/-- The first two tokens touch, the second leaves a quotation open, and a bar is next to an
ideographic space. -/
theorem compile_respaced_open :
    IsSpacing [[], ['\u3000', '\n'], ['\t']] [' ']
        ((tokenize " \"a b\"-c:\"d  | ").map String.toList) ∧
      respaced [[], ['\u3000', '\n'], ['\t']] [' '] " \"a b\"-c:\"d  | " =
        "\"a b\"\u3000\n-c:\"d\t| " ∧
      tokenize "\"a b\"\u3000\n-c:\"d\t| " = ["\"a b\"", "-c:\"d", "|"] ∧
      (compile "\"a b\"\u3000\n-c:\"d\t| " ⟨["f"]⟩ false).warnings =
        [.unbalancedQuotes "-c:\"d", .emptyGroup 1] := by
  have htokens : tokenize " \"a b\"-c:\"d  | " = ["\"a b\"", "-c:\"d", "|"] := by decide +kernel
  have hspacing : IsSpacing [[], ['\u3000', '\n'], ['\t']] [' ']
      ((tokenize " \"a b\"-c:\"d  | ").map String.toList) := by
    rw [htokens]
    exact ⟨rfl, by decide, by decide, by decide⟩
  have htext : respaced [[], ['\u3000', '\n'], ['\t']] [' '] " \"a b\"-c:\"d  | " =
      "\"a b\"\u3000\n-c:\"d\t| " := by
    rw [respaced, htokens]
    decide
  obtain ⟨-, hrespaced, -⟩ := compile_respaced " \"a b\"-c:\"d  | "
  obtain ⟨hsame, hcompile⟩ := hrespaced _ _ hspacing
  rw [htext] at hsame hcompile
  refine ⟨hspacing, htext, hsame.trans htokens, ?_⟩
  rw [hcompile]
  decide +kernel

end RecordQuery.Query
