import Mathlib.Data.List.Infix
import RecordQuery.Glob

/-!
# What a glob matches

A glob generates texts, read from left to right
(`RecordQuery.Glob.Generates`): a star any run of characters without a line feed, a
question mark any single character but a line feed, and every other character any that
agrees with it. It matches a text if it generates some piece of it, and what follows the
piece does not count; a glob that ends in a star has to generate a piece at the start.

Two other readings of a glob are compared with this one.

* **The rows of marks** by which matching is computed. Characters are taken from the last
  to the first, and the invariant is that a row marks exactly the positions at which the
  characters taken so far generate something
  (`RecordQuery.Glob.IsRow`, `RecordQuery.Glob.isRow_starts`).
* **The regular expression** that a glob is compiled to, read as regular expressions are
  (`RecordQuery.Glob.Denotes`, `RecordQuery.Glob.Finds`). Every operator that comes from a
  character of the glob is escaped, so the expression can be taken apart in one way only,
  and an anchor at its start can only be the one put there for a final star.
-/

namespace RecordQuery.Glob

open Text (keyChar sameChar)

variable {caseSensitive : Bool}

/-! ### What a glob generates -/

/-- **The texts that a glob generates.** -/
inductive Generates (caseSensitive : Bool) : (pattern piece : List Char) → Prop
  /-- Nothing generates nothing. -/
  | done : Generates caseSensitive [] []
  /-- A star generates any run without a line feed. -/
  | star {pattern skipped piece : List Char} (hskipped : '\n' ∉ skipped)
      (h : Generates caseSensitive pattern piece) :
      Generates caseSensitive ('*' :: pattern) (skipped ++ piece)
  /-- A question mark generates any character but a line feed. -/
  | mark {pattern piece : List Char} {c : Char} (hc : c ≠ '\n')
      (h : Generates caseSensitive pattern piece) :
      Generates caseSensitive ('?' :: pattern) (c :: piece)
  /-- Every other character generates those that agree with it. -/
  | letter {pattern piece : List Char} {c d : Char} (hstar : c ≠ '*') (hmark : c ≠ '?')
      (hsame : sameChar caseSensitive c d = true) (h : Generates caseSensitive pattern piece) :
      Generates caseSensitive (c :: pattern) (d :: piece)

theorem Generates.skip {pattern piece : List Char} (h : Generates caseSensitive pattern piece) :
    Generates caseSensitive ('*' :: pattern) piece :=
  @Generates.star _ _ [] _ List.not_mem_nil h

/-- Whether a glob generates what a text starts with. -/
def Begins (caseSensitive : Bool) (pattern text : List Char) : Prop :=
  ∃ piece, piece <+: text ∧ Generates caseSensitive pattern piece

theorem begins_nil (text : List Char) : Begins caseSensitive [] text :=
  ⟨[], List.nil_prefix, .done⟩

theorem begins_star_nil {pattern : List Char} :
    Begins caseSensitive ('*' :: pattern) [] ↔ Begins caseSensitive pattern [] := by
  constructor
  · rintro ⟨_, hprefix, h⟩
    cases h with
    | star _ h =>
      obtain ⟨-, rfl⟩ := List.append_eq_nil_iff.1 (List.prefix_nil.1 hprefix)
      exact ⟨[], List.nil_prefix, h⟩
    | letter hstar => exact absurd rfl hstar
  · rintro ⟨piece, hprefix, h⟩
    exact ⟨piece, hprefix, h.skip⟩

/-- **A star** generates nothing, or takes a character and goes on. -/
theorem begins_star_cons {pattern text : List Char} {c : Char} :
    Begins caseSensitive ('*' :: pattern) (c :: text) ↔
      Begins caseSensitive pattern (c :: text) ∨
        c ≠ '\n' ∧ Begins caseSensitive ('*' :: pattern) text := by
  constructor
  · rintro ⟨_, hprefix, h⟩
    cases h with
    | @star _ skipped piece hskipped h =>
      cases skipped with
      | nil => exact .inl ⟨piece, hprefix, h⟩
      | cons d skipped =>
        obtain ⟨rfl, hrest⟩ := List.cons_prefix_cons.1 hprefix
        obtain ⟨hd, hskipped⟩ := List.ne_and_not_mem_of_not_mem_cons hskipped
        exact .inr ⟨hd.symm, skipped ++ piece, hrest, .star hskipped h⟩
    | letter hstar => exact absurd rfl hstar
  · rintro (⟨piece, hprefix, h⟩ | ⟨hc, _, hprefix, h⟩)
    · exact ⟨piece, hprefix, h.skip⟩
    · cases h with
      | @star _ skipped piece hskipped h =>
        refine ⟨c :: skipped ++ piece, List.cons_prefix_cons.2 ⟨rfl, hprefix⟩, .star ?_ h⟩
        exact List.not_mem_cons_of_ne_of_not_mem hc.symm hskipped
      | letter hstar => exact absurd rfl hstar

theorem begins_mark_cons {pattern text : List Char} {c : Char} :
    Begins caseSensitive ('?' :: pattern) (c :: text) ↔
      c ≠ '\n' ∧ Begins caseSensitive pattern text := by
  constructor
  · rintro ⟨_, hprefix, h⟩
    cases h with
    | mark hc h =>
      obtain ⟨rfl, hrest⟩ := List.cons_prefix_cons.1 hprefix
      exact ⟨hc, _, hrest, h⟩
    | letter _ hmark => exact absurd rfl hmark
  · rintro ⟨hc, piece, hprefix, h⟩
    exact ⟨c :: piece, List.cons_prefix_cons.2 ⟨rfl, hprefix⟩, .mark hc h⟩

theorem begins_letter_cons {pattern text : List Char} {c d : Char} (hstar : c ≠ '*')
    (hmark : c ≠ '?') :
    Begins caseSensitive (c :: pattern) (d :: text) ↔
      sameChar caseSensitive c d = true ∧ Begins caseSensitive pattern text := by
  constructor
  · rintro ⟨_, hprefix, h⟩
    cases h with
    | star => exact absurd rfl hstar
    | mark => exact absurd rfl hmark
    | letter _ _ hsame h =>
      obtain ⟨rfl, hrest⟩ := List.cons_prefix_cons.1 hprefix
      exact ⟨hsame, _, hrest, h⟩
  · rintro ⟨hsame, piece, hprefix, h⟩
    exact ⟨d :: piece, List.cons_prefix_cons.2 ⟨rfl, hprefix⟩, .letter hstar hmark hsame h⟩

/-- A character other than a star needs a character of the text. -/
theorem not_begins_nil {pattern : List Char} {c : Char} (hstar : c ≠ '*') :
    ¬ Begins caseSensitive (c :: pattern) [] := by
  rintro ⟨piece, hprefix, h⟩
  cases h with
  | star => exact absurd rfl hstar
  | mark => exact absurd (List.prefix_nil.1 hprefix) (by simp)
  | letter => exact absurd (List.prefix_nil.1 hprefix) (by simp)

/-! ### Rows of marks -/

/-- **A row of marks** over a text: one for every position, which says whether what is
left of the text from there has a property. -/
inductive IsRow (P : List Char → Prop) : (text : List Char) → (row : List Bool) → Prop
  /-- The mark of the end. -/
  | last {here : Bool} (h : here = true ↔ P []) : IsRow P [] [here]
  /-- The mark of a character, in front of those behind it. -/
  | next {c : Char} {text : List Char} {here : Bool} {row : List Bool}
      (h : here = true ↔ P (c :: text)) (hrow : IsRow P text row) :
      IsRow P (c :: text) (here :: row)

section Rows

variable {P Q : List Char → Prop} {text : List Char} {row : List Bool}

theorem isRow_replicate (h : ∀ rest, P rest) (text : List Char) :
    IsRow P text (List.replicate (text.length + 1) true) := by
  induction text with
  | nil => exact .last (by simp [h])
  | cons c text ih => exact .next (by simp [h]) ih

theorem IsRow.exists_cons (hrow : IsRow P text row) :
    ∃ here later, row = here :: later ∧ (here = true ↔ P text) := by
  cases hrow with
  | last h => exact ⟨_, _, rfl, h⟩
  | next h => exact ⟨_, _, rfl, h⟩

/-- The first mark is about the whole text. -/
theorem IsRow.head_iff (hrow : IsRow P text row) : row.head?.getD false = true ↔ P text := by
  obtain ⟨here, later, rfl, h⟩ := hrow.exists_cons
  exact h

/-- Some mark is set if some end of the text has the property. -/
theorem IsRow.any_iff (hrow : IsRow P text row) :
    row.any id = true ↔ ∃ start ≤ text.length, P (text.drop start) := by
  induction hrow with
  | last h => simpa using h
  | @next c text here row h _ ih =>
    rw [List.any_cons, Bool.or_eq_true, ih, id_eq, h]
    constructor
    · rintro (h | ⟨start, hle, h⟩)
      · exact ⟨0, Nat.zero_le _, h⟩
      · exact ⟨start + 1, Nat.succ_le_succ hle, h⟩
    · rintro ⟨start, hle, h⟩
      cases start with
      | zero => exact .inl h
      | succ start => exact .inr ⟨start, Nat.le_of_succ_le_succ hle, h⟩

variable (key : Char → Char)

/-- **One character**: the marks behind, where the character in front passes a test. -/
theorem IsRow.shift (test : Char → Bool) (hnil : ¬ Q [])
    (hcons : ∀ c rest, Q (c :: rest) ↔ test (key c) = true ∧ P rest) (hrow : IsRow P text row) :
    IsRow Q text
      (List.zipWith (fun c next => test c && next) (text.map key) row.tail ++ [false]) := by
  induction hrow with
  | last h => exact .last (by simp [hnil])
  | @next c text here row h hrow ih =>
    obtain ⟨behind, later, rfl, hbehind⟩ := hrow.exists_cons
    exact .next (by rw [hcons, ← hbehind, Bool.and_eq_true]) ih

/-- **A run**: it ends here, or takes the character and goes on. -/
theorem IsRow.extend (hkey : ∀ c, key c = '\n' ↔ c = '\n') (hnil : Q [] ↔ P [])
    (hcons : ∀ c rest, Q (c :: rest) ↔ P (c :: rest) ∨ c ≠ '\n' ∧ Q rest)
    (hrow : IsRow P text row) : IsRow Q text (prepend caseSensitive .run (text.map key) row) := by
  induction hrow with
  | last h => exact .last (h.trans hnil.symm)
  | @next c text here row h hrow ih =>
    refine .next ?_ ih
    rw [Bool.or_eq_true, Bool.and_eq_true, hcons, h, bne_iff_ne, Ne, hkey, ← Ne]
    exact or_congr_right (and_congr_right' ih.head_iff)

end Rows

theorem item_letter {c : Char} (hstar : c ≠ '*') (hmark : c ≠ '?') : item c = .literal c := by
  rw [item, if_neg hstar, if_neg hmark]

/-- **The invariant of matching**: the positions that are found are those at which the
glob generates something. -/
theorem isRow_starts (caseSensitive : Bool) (pattern text : List Char) :
    IsRow (Begins caseSensitive pattern) text
      (starts caseSensitive (pattern.map item) (text.map (keyChar caseSensitive))) := by
  have hnewline := Text.keyChar_eq_newline_iff caseSensitive
  induction pattern with
  | nil =>
    rw [starts, List.length_map]
    exact isRow_replicate begins_nil text
  | cons c pattern ih =>
    change IsRow _ text (prepend caseSensitive (item c) (text.map (keyChar caseSensitive)) _)
    by_cases hstar : c = '*'
    · subst hstar
      exact ih.extend _ hnewline begins_star_nil fun c rest => begins_star_cons
    · by_cases hmark : c = '?'
      · subst hmark
        refine ih.shift _ (· != '\n') (not_begins_nil hstar) fun c rest => ?_
        rw [begins_mark_cons, bne_iff_ne, Ne, Ne, hnewline]
      · rw [item_letter hstar hmark]
        refine ih.shift _ (· == keyChar caseSensitive c) (not_begins_nil hstar)
          fun d rest => ?_
        rw [begins_letter_cons hstar hmark, Text.sameChar_eq_keyChar, Bool.beq_comm]

/-- **Matching**, as a search for a position. -/
theorem isMatch_iff (glob : Glob) (text : String) :
    glob.isMatch text = true ↔ ∃ start ≤ text.toList.length,
      (isAnchored glob.pattern = true → start = 0) ∧
        Begins glob.caseSensitive glob.pattern.toList (text.toList.drop start) := by
  have hrow := isRow_starts glob.caseSensitive glob.pattern.toList text.toList
  by_cases hanchor : isAnchored glob.pattern = true
  · rw [isMatch, items, if_pos hanchor, hrow.head_iff]
    constructor
    · exact fun h => ⟨0, Nat.zero_le _, fun _ => rfl, h⟩
    · rintro ⟨start, -, hzero, h⟩
      rwa [hzero hanchor] at h
  · rw [isMatch, items, if_neg hanchor, hrow.any_iff]
    simp only [hanchor, false_implies, true_and, Bool.false_eq_true]

/-! ### The regular expression of a glob -/

/-- The characters that are operators of regular expressions unless they are escaped. -/
def operators : List Char :=
  ['\\', '.', '+', '*', '?', '(', ')', '|', '[', ']', '\x7b', '\x7d', '^', '$']

/-- **What a regular expression denotes** that is a sequence of characters, escaped
characters, points and points with a star. -/
inductive Denotes (caseSensitive : Bool) : (expression piece : List Char) → Prop
  /-- The empty expression denotes nothing. -/
  | done : Denotes caseSensitive [] []
  /-- A point with a star denotes any run without a line feed. -/
  | points {expression skipped piece : List Char} (hskipped : '\n' ∉ skipped)
      (h : Denotes caseSensitive expression piece) :
      Denotes caseSensitive ('.' :: '*' :: expression) (skipped ++ piece)
  /-- A point denotes any character but a line feed. -/
  | point {expression piece : List Char} {c : Char} (hc : c ≠ '\n')
      (h : Denotes caseSensitive expression piece) :
      Denotes caseSensitive ('.' :: expression) (c :: piece)
  /-- An escaped character denotes those that agree with it. -/
  | escaped {expression piece : List Char} {c d : Char} (hc : c ∈ marks)
      (hsame : sameChar caseSensitive c d = true) (h : Denotes caseSensitive expression piece) :
      Denotes caseSensitive ('\\' :: c :: expression) (d :: piece)
  /-- A character that is no operator denotes those that agree with it. -/
  | plain {expression piece : List Char} {c d : Char} (hc : c ∉ operators)
      (hsame : sameChar caseSensitive c d = true) (h : Denotes caseSensitive expression piece) :
      Denotes caseSensitive (c :: expression) (d :: piece)

/-- **Whether a regular expression is found in a text**: anywhere, or at the start if it
has an anchor there. -/
def Finds (caseSensitive : Bool) (expression text : List Char) : Prop :=
  match expression with
  | '^' :: rest => ∃ piece, piece <+: text ∧ Denotes caseSensitive rest piece
  | expression => ∃ start ≤ text.length, ∃ piece,
      piece <+: text.drop start ∧ Denotes caseSensitive expression piece

/-- Every operator is among the characters that are escaped. -/
theorem operators_subset_marks : operators ⊆ marks := by
  decide

theorem expressionOf_letter {c : Char} (hstar : c ≠ '*') (hmark : c ≠ '?') :
    expressionOf c = if c ∈ marks then ['\\', c] else [c] := by
  rw [expressionOf, if_neg hstar, if_neg hmark]
  simp only [List.contains_iff_mem]

/-- The expression of a character does not start with a star, nor with an anchor. -/
theorem head_expressionOf (c : Char) :
    ∃ d rest, expressionOf c = d :: rest ∧ d ≠ '*' ∧ d ≠ '^' := by
  by_cases hstar : c = '*'
  · subst hstar
    exact ⟨'.', ['*'], rfl, by decide, by decide⟩
  by_cases hmark : c = '?'
  · subst hmark
    exact ⟨'.', [], rfl, by decide, by decide⟩
  rw [expressionOf_letter hstar hmark]
  split
  · exact ⟨'\\', [c], rfl, by decide, by decide⟩
  · next hc => exact ⟨c, [], rfl, hstar, by rintro rfl; exact hc (by decide)⟩

theorem flatMap_expressionOf_ne {d : Char} (hd : d = '*' ∨ d = '^') (pattern rest : List Char) :
    pattern.flatMap expressionOf ≠ d :: rest := by
  cases pattern with
  | nil => simp
  | cons c pattern =>
    obtain ⟨first, others, hfirst, hstar, hanchor⟩ := head_expressionOf c
    rw [List.flatMap_cons, hfirst, List.cons_append]
    intro h
    obtain ⟨rfl, -⟩ := List.cons.inj h
    exact hd.elim hstar hanchor

/-- The expression of a letter, escaped or not, denotes the characters that agree with it. -/
theorem denotes_letter_iff {c : Char} {rest piece : List Char} (hstar : c ≠ '*')
    (hmark : c ≠ '?') :
    Denotes caseSensitive (expressionOf c ++ rest) piece ↔
      ∃ d behind, piece = d :: behind ∧ sameChar caseSensitive c d = true ∧
        Denotes caseSensitive rest behind := by
  rw [expressionOf_letter hstar hmark]
  split
  · next hc =>
    constructor
    · intro h
      cases h with
      | escaped _ hsame h => exact ⟨_, _, rfl, hsame, h⟩
      | plain hc => exact absurd (by decide) hc
    · rintro ⟨d, behind, rfl, hsame, h⟩
      exact .escaped hc hsame h
  · next hc =>
    have hplain : c ∉ operators := fun hop => hc (operators_subset_marks hop)
    constructor
    · intro h
      cases h with
      | points => exact absurd (by decide) hplain
      | point => exact absurd (by decide) hplain
      | escaped => exact absurd (by decide) hplain
      | plain _ hsame h => exact ⟨_, _, rfl, hsame, h⟩
    · rintro ⟨d, behind, rfl, hsame, h⟩
      exact .plain hplain hsame h

theorem generates_of_denotes {pattern piece : List Char}
    (h : Denotes caseSensitive (pattern.flatMap expressionOf) piece) :
    Generates caseSensitive pattern piece := by
  induction pattern generalizing piece with
  | nil =>
    cases h with
    | done => exact .done
  | cons c pattern ih =>
    rw [List.flatMap_cons] at h
    by_cases hstar : c = '*'
    · subst hstar
      generalize pattern.flatMap expressionOf = rest at h ih
      cases h with
      | points hskipped h => exact .star hskipped (ih h)
      | point _ h =>
        -- a star that no point stands in front of
        cases h with
        | plain hc => exact absurd (by decide) hc
      | plain hc => exact absurd (by decide) hc
    by_cases hmark : c = '?'
    · subst hmark
      -- a point that the next character would make a run
      have hnext := flatMap_expressionOf_ne (.inl rfl) pattern
      generalize pattern.flatMap expressionOf = rest at h ih hnext
      cases h with
      | points => exact absurd rfl (hnext _)
      | point hc h => exact .mark hc (ih h)
      | plain hc => exact absurd (by decide) hc
    obtain ⟨d, behind, rfl, hsame, h⟩ := (denotes_letter_iff hstar hmark).1 h
    exact .letter hstar hmark hsame (ih h)

theorem Generates.denotes {pattern piece : List Char} (h : Generates caseSensitive pattern piece) :
    Denotes caseSensitive (pattern.flatMap expressionOf) piece := by
  induction h with
  | done => exact .done
  | star hskipped _ ih => exact .points hskipped ih
  | mark hc _ ih => exact .point hc ih
  | letter hstar hmark hsame _ ih =>
    rw [List.flatMap_cons]
    exact (denotes_letter_iff hstar hmark).2 ⟨_, _, rfl, hsame, ih⟩

/-- **The expression of a glob denotes what the glob generates.** -/
theorem denotes_flatMap_iff {pattern piece : List Char} :
    Denotes caseSensitive (pattern.flatMap expressionOf) piece ↔
      Generates caseSensitive pattern piece :=
  ⟨generates_of_denotes, Generates.denotes⟩

/-- **The expression of a glob is found** where the glob generates something. -/
theorem finds_expression_iff (pattern : String) (text : List Char) :
    Finds caseSensitive (expression pattern).toList text ↔ ∃ start ≤ text.length,
      (isAnchored pattern = true → start = 0) ∧
        Begins caseSensitive pattern.toList (text.drop start) := by
  have hbegins : ∀ rest : List Char, (∃ piece, piece <+: rest ∧
      Denotes caseSensitive (pattern.toList.flatMap expressionOf) piece) ↔
        Begins caseSensitive pattern.toList rest :=
    fun rest => exists_congr fun piece => and_congr_right' denotes_flatMap_iff
  rw [expression, String.toList_ofList]
  by_cases hanchor : isAnchored pattern = true
  · rw [if_pos hanchor]
    refine (hbegins text).trans ⟨fun h => ⟨0, Nat.zero_le _, fun _ => rfl, h⟩, ?_⟩
    rintro ⟨start, -, hzero, h⟩
    rwa [hzero hanchor] at h
  · rw [if_neg hanchor, List.nil_append, Finds]
    · simp only [hbegins, hanchor, false_implies, true_and, Bool.false_eq_true]
    · exact flatMap_expressionOf_ne (.inr rfl) _

/-! ### What a compiled glob matches -/

/-- **What a compiled glob matches**: a text in which it generates something, from some
position on or, if it ends in a star, from the start. Its regular expression is found in
the same texts. -/
theorem compile?_isMatch_iff {pattern : String} {caseSensitive : Bool} {glob : Glob}
    (h : compile? pattern caseSensitive = .ok glob) (text : String) :
    (glob.isMatch text = true ↔ ∃ start ≤ text.toList.length,
        (pattern.toList.getLast? = some '*' → start = 0) ∧
          ∃ piece, piece <+: text.toList.drop start ∧
            Generates caseSensitive pattern.toList piece) ∧
      (glob.isMatch text = true ↔
        Finds caseSensitive (expression pattern).toList text.toList) := by
  obtain ⟨rfl, rfl⟩ : glob.pattern = pattern ∧ glob.caseSensitive = caseSensitive := by
    unfold compile? at h
    split at h
    · exact (Except.ok.inj h) ▸ ⟨rfl, rfl⟩
    · exact absurd h (by simp)
  have hmatch := isMatch_iff glob text
  have hanchor : isAnchored glob.pattern = true ↔ glob.pattern.toList.getLast? = some '*' :=
    beq_iff_eq
  refine ⟨?_, hmatch.trans (finds_expression_iff glob.pattern text.toList).symm⟩
  rw [hmatch, hanchor]
  rfl

/-- The Kelvin sign agrees with a `K` and `ſ` with an `s`, the point stands for itself, and
the line feed at the end of the text does not count. -/
theorem compile?_kelvin : ∃ glob, compile? "K?.*s" false = .ok glob ∧
    glob.isMatch "a\u212a_..ſ\n" = true ∧ expression "K?.*s" = "K.\\..*s" ∧
    Finds false (expression "K?.*s").toList "a\u212a_..ſ\n".toList := by
  have hglob : compile? "K?.*s" false = .ok ⟨"K?.*s", false, by decide +kernel⟩ := rfl
  obtain ⟨hposition, hfinds⟩ := compile?_isMatch_iff hglob "a\u212a_..ſ\n"
  have hgenerates : Generates false "K?.*s".toList ['\u212a', '_', '.', '.', 'ſ'] := by
    refine .letter (by decide) (by decide) (by decide) (.mark (by decide) ?_)
    refine .letter (by decide) (by decide) (by decide) (@Generates.star _ _ ['.'] _ (by decide) ?_)
    exact .letter (by decide) (by decide) (by decide) .done
  have hmatch := hposition.2 ⟨1, by decide, by decide, _, by decide, hgenerates⟩
  exact ⟨_, hglob, hmatch, by decide +kernel, hfinds.1 hmatch⟩

end RecordQuery.Glob
