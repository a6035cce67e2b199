import RecordQuery.Proofs.Verdicts
import RecordQuery.Proofs.Wildcards

/-!
# Where case does not count

A glob for which case does not count sees the folding of characters only, in itself and in the
text alike. What has to be known about folding for that is little. It leaves alone the
characters that a glob reads in a way of their own, the star, the question mark and the line
feed, and folds no other character to them (`RecordQuery.Text.foldCase_eq_iff`). So a glob and
a text with the same foldings are read in the same way step by step
(`RecordQuery.Glob.Generates.refold`).

That a glob matches more where case does not count than where it does is seen step by step as
well (`RecordQuery.Glob.Generates.ignoreCase`). A negation turns this around, and a pattern that
is refused never matches, so a query keeps its matches if it has neither
(`RecordQuery.Query.test_ignoreCase`).
-/

namespace RecordQuery

namespace Glob

open Text (foldCase foldCase_eq_iff sameChar)

/-! ### Texts with the same folding -/

/-- Two texts agree up to case if they have the same folding. -/
theorem agree_false_iff {text other : List Char} :
    Agree false text other ↔ text.map foldCase = other.map foldCase := by
  rw [Agree, ← List.forall₂_eq_eq_eq, List.forall₂_map_left_iff, List.forall₂_map_right_iff]
  simp only [Text.sameChar_false, beq_iff_eq]

theorem Agree.symm {text other : List Char} (h : Agree false text other) :
    Agree false other text :=
  agree_false_iff.2 (agree_false_iff.1 h).symm

/-- A character in front of the letters is at no other place in the folding of a text. -/
theorem mem_map_foldCase_iff {d : Char} (hpos : 0 < d.toNat) (hlt : d.toNat < 0x41)
    (text : List Char) : d ∈ text.map foldCase ↔ d ∈ text := by
  rw [List.mem_map]
  simp only [foldCase_eq_iff hpos hlt, exists_eq_right]

theorem getLast?_map_foldCase_iff {d : Char} (hpos : 0 < d.toNat) (hlt : d.toNat < 0x41)
    (text : List Char) : (text.map foldCase).getLast? = some d ↔ text.getLast? = some d := by
  rw [List.getLast?_map, Option.map_eq_some_iff]
  simp only [foldCase_eq_iff hpos hlt, exists_eq_right]

/-! ### Generating up to case -/

section Generates

variable {pattern piece : List Char}

/-- What is generated where case counts is generated where it does not. -/
theorem Generates.ignoreCase (h : Generates true pattern piece) :
    Generates false pattern piece := by
  induction h with
  | done => exact .done
  | star hskipped _ ih => exact .star hskipped ih
  | mark hc _ ih => exact .mark hc ih
  | letter hstar hmark hsame _ ih =>
    obtain rfl := beq_iff_eq.1 hsame
    exact .letter hstar hmark (Text.sameChar_self false _) ih

/-- **Only the foldings count**: what a glob generates up to case, every glob with the same
folding generates, and so it is for the texts. -/
theorem Generates.refold (h : Generates false pattern piece) {other otherPiece : List Char}
    (hpattern : other.map foldCase = pattern.map foldCase)
    (hpiece : otherPiece.map foldCase = piece.map foldCase) :
    Generates false other otherPiece := by
  -- the other glob has at every place what the glob has there: the wildcards are their own
  -- foldings, and letters are compared by their foldings only
  induction h generalizing other otherPiece with
  | done =>
    obtain rfl := List.map_eq_nil_iff.1 hpattern
    obtain rfl := List.map_eq_nil_iff.1 hpiece
    exact .done
  | @star pattern skipped piece hskipped _ ih =>
    obtain ⟨c, others, rfl, hc, hothers⟩ := List.map_eq_cons_iff.1 hpattern
    obtain rfl : c = '*' := (foldCase_eq_iff (by decide) (by decide) c).1 hc
    rw [List.map_append] at hpiece
    obtain ⟨front, back, rfl, hfront, hback⟩ := List.map_eq_append_iff.1 hpiece
    refine .star ?_ (ih hothers hback)
    rwa [← mem_map_foldCase_iff (by decide) (by decide), hfront,
      mem_map_foldCase_iff (by decide) (by decide)]
  | @mark pattern piece c hc _ ih =>
    obtain ⟨d, others, rfl, hd, hothers⟩ := List.map_eq_cons_iff.1 hpattern
    obtain rfl : d = '?' := (foldCase_eq_iff (by decide) (by decide) d).1 hd
    obtain ⟨e, rest, rfl, he, hrest⟩ := List.map_eq_cons_iff.1 hpiece
    refine .mark ?_ (ih hothers hrest)
    rintro rfl
    exact hc ((foldCase_eq_iff (by decide) (by decide) c).1 he.symm)
  | @letter pattern piece c d hstar hmark hsame _ ih =>
    obtain ⟨c', others, rfl, hc, hothers⟩ := List.map_eq_cons_iff.1 hpattern
    obtain ⟨d', rest, rfl, hd, hrest⟩ := List.map_eq_cons_iff.1 hpiece
    refine .letter ?_ ?_ ?_ (ih hothers hrest)
    · rintro rfl
      exact hstar ((foldCase_eq_iff (by decide) (by decide) c).1 hc.symm)
    · rintro rfl
      exact hmark ((foldCase_eq_iff (by decide) (by decide) c).1 hc.symm)
    · rw [Text.sameChar_false, hc, hd]
      exact hsame

end Generates

/-! ### Matching up to case -/

section Matching

variable {pattern other : String} {glob otherGlob : Glob}

/-- **A match where case counts** is one where it does not. -/
theorem isMatch_ignoreCase {folded : Glob} (hglob : compile? pattern true = .ok glob)
    (hfolded : compile? pattern false = .ok folded) {text : String}
    (h : glob.isMatch text = true) : folded.isMatch text = true := by
  obtain ⟨before, piece, after, htext, hbefore, hpiece⟩ := (isMatch_iff_split hglob text).1 h
  exact (isMatch_iff_split hfolded text).2
    ⟨before, piece, after, htext, hbefore, hpiece.ignoreCase⟩

/-- A match up to case is kept if characters are replaced by others with the same folding. -/
theorem isMatch_of_agree (hpattern : Agree false pattern.toList other.toList)
    (hglob : compile? pattern false = .ok glob) (hother : compile? other false = .ok otherGlob)
    {text otherText : String} (htexts : Agree false text.toList otherText.toList)
    (h : glob.isMatch text = true) : otherGlob.isMatch otherText = true := by
  rw [agree_false_iff] at hpattern htexts
  obtain ⟨before, piece, after, htext, hbefore, hpiece⟩ := (isMatch_iff_split hglob text).1 h
  -- the other text is cut where the text is
  rw [htext, List.map_append, List.map_append] at htexts
  obtain ⟨front, rest, hfront, hbefore', hrest⟩ := List.map_eq_append_iff.1 htexts.symm
  obtain ⟨middle, back, rfl, hmiddle, -⟩ := List.map_eq_append_iff.1 hrest
  refine (isMatch_iff_split hother otherText).2
    ⟨front, middle, back, hfront, fun hstar => ?_, hpiece.refold hpattern.symm hmiddle⟩
  rw [← getLast?_map_foldCase_iff (by decide) (by decide), ← hpattern,
    getLast?_map_foldCase_iff (by decide) (by decide)] at hstar
  rw [hbefore hstar] at hbefore'
  exact List.map_eq_nil_iff.1 hbefore'

/-- **Characters with the same folding** may be put for one another, in the glob and in the
text. -/
theorem isMatch_eq_of_agree (hpattern : Agree false pattern.toList other.toList)
    (hglob : compile? pattern false = .ok glob) (hother : compile? other false = .ok otherGlob)
    {text otherText : String} (htexts : Agree false text.toList otherText.toList) :
    glob.isMatch text = otherGlob.isMatch otherText := by
  rw [Bool.eq_iff_iff]
  exact ⟨isMatch_of_agree hpattern hglob hother htexts,
    isMatch_of_agree hpattern.symm hother hglob htexts.symm⟩

end Matching

end Glob

/-! ### Queries up to case -/

namespace Query

section Queries

variable {ρ : Type} [Record ρ] {record : ρ}

/-- A phrase without a sign keeps its matches where case does not count, if its pattern can be
compiled there. -/
theorem Phrase.holds_ignoreCase {phrase : Phrase} (hplain : phrase.negated = false)
    {folded : Glob} (hfolded : Glob.compile? phrase.pattern false = .ok folded)
    (h : (phrase.tree true).holds record = true) : (phrase.tree false).holds record = true := by
  have htree : ∀ caseSensitive,
      phrase.tree caseSensitive = .test (phrase.leaf caseSensitive) := fun caseSensitive => by
    rw [tree, hplain]
    rfl
  rw [htree, Tree.holds_test, holds_leaf_iff] at h ⊢
  obtain ⟨glob, hglob, name, hname, text, htext, hmatch⟩ := h
  exact ⟨folded, hfolded, name, hname, text, htext, Glob.isMatch_ignoreCase hglob hfolded hmatch⟩

/-- The pattern of a token can be compiled if no warning says that it cannot. -/
theorem exists_compile?_of_warnings {search token : String} {defaults : FieldList}
    {caseSensitive : Bool} (hword : token ∈ tokenize search) (hne : token ≠ groupSeparator)
    (hvalid : ∀ pattern reason, .invalidPattern pattern reason ∉
      (compile search defaults caseSensitive).warnings) :
    ∃ glob, Glob.compile? (Phrase.parse token defaults).pattern caseSensitive = .ok glob := by
  cases hcompile : Glob.compile? (Phrase.parse token defaults).pattern caseSensitive with
  | ok glob => exact ⟨glob, rfl⟩
  | error refused =>
    refine absurd ((mem_warnings_iff (by simp)).2 ⟨token, hword, hne, ?_⟩)
      (hvalid refused.pattern refused.reason)
    exact mem_tokenWarnings_iff.2 (.inr (.inr (.inr ⟨refused, hcompile, rfl⟩)))

/-- **A query without negations keeps its matches** where case does not count, if its patterns
can be compiled there. -/
theorem test_ignoreCase {search : String} {defaults : FieldList}
    (hplain : ∀ token ∈ tokenize search, token ≠ groupSeparator →
      (Phrase.parse token defaults).negated = false)
    (hvalid : ∀ pattern reason, .invalidPattern pattern reason ∉
      (compile search defaults false).warnings)
    (h : (Filter.new search defaults ⟨true⟩).test record = true) :
    (Filter.new search defaults ⟨false⟩).test record = true := by
  rw [test_new, List.any_eq_true] at h ⊢
  obtain ⟨group, hgroup, hholds⟩ := h
  refine ⟨group, hgroup, ?_⟩
  rw [holds_groupTree, List.all_eq_true] at hholds ⊢
  intro token htoken
  obtain ⟨hword, hne⟩ := mem_groups hgroup htoken
  obtain ⟨folded, hfolded⟩ := exists_compile?_of_warnings hword hne hvalid
  exact Phrase.holds_ignoreCase (hplain token hword hne) hfolded (hholds token htoken)

end Queries

/-- **What ignoring case changes.** A glob that matches a text where case counts matches it
where case does not. There the verdict stays if characters of the glob or of the text are put
in the place of others with the same folding, such as the two lower-case forms of `S`, the
Kelvin sign and the sigmas. A query none of whose phrases is negated and none of whose patterns
is refused finds where case does not count what it finds where it does. -/
theorem matches_ignoringCase :
    (∀ {pattern : String} {glob folded : Glob}, Glob.compile? pattern true = .ok glob →
        Glob.compile? pattern false = .ok folded →
        ∀ text, glob.isMatch text = true → folded.isMatch text = true) ∧
      (∀ {pattern other : String} {glob otherGlob : Glob},
        Glob.Agree false pattern.toList other.toList →
        Glob.compile? pattern false = .ok glob → Glob.compile? other false = .ok otherGlob →
        ∀ text otherText : String, Glob.Agree false text.toList otherText.toList →
          glob.isMatch text = otherGlob.isMatch otherText) ∧
      Glob.Agree false "skσς".toList "\u017f\u212aςΣ".toList ∧
      ∀ {search : String} {defaults : FieldList},
        (∀ token ∈ tokenize search, token ≠ groupSeparator →
          (Phrase.parse token defaults).negated = false) →
        (∀ caseSensitive pattern reason, .invalidPattern pattern reason ∉
          (compile search defaults caseSensitive).warnings) →
        ∀ {ρ : Type} [Record ρ] (record : ρ),
          (Filter.new search defaults ⟨true⟩).test record = true →
            (Filter.new search defaults ⟨false⟩).test record = true := by
  refine ⟨fun hglob hfolded text => Glob.isMatch_ignoreCase hglob hfolded,
    fun hpattern hglob hother text otherText => Glob.isMatch_eq_of_agree hpattern hglob hother,
    Glob.agree_false_iff.2 (by decide +kernel),
    fun hplain hvalid ρ _ record => test_ignoreCase hplain (hvalid false)⟩

/-- A query of two groups, with a scope and wildcards. -/
def anycaseQuery : String := "f:s?K* | Σ"

/-- A record found where case counts and so where it does not, and a glob with other characters
of the same folding. -/
theorem matches_ignoringCase_long :
    (∃ glob folded, Glob.compile? "s?K*" true = .ok glob ∧
        Glob.compile? "s?K*" false = .ok folded ∧ glob.isMatch "s-K" = true ∧
        folded.isMatch "s-K" = true) ∧
      (∃ glob otherGlob, Glob.Agree false "s?K*".toList "\u017f?\u212a*".toList ∧
        Glob.Agree false "s-K".toList "S-k".toList ∧ Glob.compile? "s?K*" false = .ok glob ∧
        Glob.compile? "\u017f?\u212a*" false = .ok otherGlob ∧
        otherGlob.isMatch "S-k" = true) ∧
      (∀ token ∈ tokenize anycaseQuery, token ≠ groupSeparator →
        (Phrase.parse token ⟨["g"]⟩).negated = false) ∧
      (∀ caseSensitive pattern reason, .invalidPattern pattern reason ∉
        (compile anycaseQuery ⟨["g"]⟩ caseSensitive).warnings) ∧
      (Filter.new anycaseQuery ⟨["g"]⟩ ⟨false⟩).test
        ([("f", .string "s-K+")] : Json.Entries) = true := by
  obtain ⟨hcase, hagree, -, hquery⟩ := matches_ignoringCase
  obtain ⟨glob, hglob⟩ := @Glob.exists_compile? "s?K*" true (by decide)
  obtain ⟨folded, hfolded⟩ := @Glob.exists_compile? "s?K*" false (by decide)
  obtain ⟨other, hother⟩ := @Glob.exists_compile? "\u017f?\u212a*" false (by decide)
  have hmatch : glob.isMatch "s-K" = true := by
    obtain rfl := Except.ok.inj hglob
    decide +kernel
  have hpatterns : Glob.Agree false "s?K*".toList "\u017f?\u212a*".toList :=
    Glob.agree_false_iff.2 (by decide +kernel)
  have htexts : Glob.Agree false "s-K".toList "S-k".toList :=
    Glob.agree_false_iff.2 (by decide +kernel)
  have hfound := hcase hglob hfolded "s-K" hmatch
  have htokens : tokenize anycaseQuery = ["f:s?K*", "|", "Σ"] := by decide +kernel
  have hplain : ∀ token ∈ tokenize anycaseQuery, token ≠ groupSeparator →
      (Phrase.parse token ⟨["g"]⟩).negated = false := by
    rw [htokens]
    decide +kernel
  have hvalid : ∀ caseSensitive pattern reason, .invalidPattern pattern reason ∉
      (compile anycaseQuery ⟨["g"]⟩ caseSensitive).warnings := by
    have hnone : ∀ caseSensitive, (compile anycaseQuery ⟨["g"]⟩ caseSensitive).warnings = [] := by
      decide +kernel
    intro caseSensitive pattern reason
    rw [hnone]
    exact List.not_mem_nil
  exact ⟨⟨glob, folded, hglob, hfolded, hmatch, hfound⟩,
    ⟨folded, other, hpatterns, htexts, hfolded, hother,
      (hagree hpatterns hfolded hother _ _ htexts).symm.trans hfound⟩,
    hplain, hvalid, hquery hplain hvalid _ (by decide +kernel)⟩

end Query

end RecordQuery
