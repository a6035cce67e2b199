import Mathlib.Data.List.SplitBy
import RecordQuery.Proofs.Matching

/-!
# Wildcards and the letters between them

A glob generates the texts of its parts one behind the other
(`RecordQuery.Glob.generates_append_iff`), so it is enough to know what two kinds of parts
generate. Letters generate the texts that agree with them, one character for one
(`RecordQuery.Glob.generates_letters_iff`). A run of wildcards generates texts without a line
feed, and what counts is how long they are: as long as the run has question marks, or at least
as long if it has a star (`RecordQuery.Glob.generates_run_iff`). In what order the wildcards
stand, and how often the star is repeated, cannot be told from that.

Where a match may start is another matter. It hangs on the last character of the whole glob, so
`a*?` and `?*a` are no different from `a?*` and `*?a` inside, but a star at the very end binds
the match to the start of the text.

The star does not cross lines: between the letters in front of a star and those behind it there
may be anything but a line feed (`RecordQuery.Glob.isMatch_star_between`,
`RecordQuery.Glob.not_star_crosses_lines`).
-/

namespace RecordQuery.Glob

open Text (sameChar)

variable {caseSensitive : Bool}

/-! ### Globs put together -/

section Generates

variable {pattern other piece : List Char}

theorem generates_nil_iff : Generates caseSensitive [] piece ↔ piece = [] := by
  constructor
  · intro h
    cases h
    rfl
  · rintro rfl
    exact .done

theorem generates_star_iff :
    Generates caseSensitive ('*' :: pattern) piece ↔
      ∃ skipped rest, piece = skipped ++ rest ∧ '\n' ∉ skipped ∧
        Generates caseSensitive pattern rest := by
  constructor
  · intro h
    cases h with
    | star hskipped h => exact ⟨_, _, rfl, hskipped, h⟩
    | letter hstar => exact absurd rfl hstar
  · rintro ⟨skipped, rest, rfl, hskipped, h⟩
    exact .star hskipped h

theorem generates_mark_iff :
    Generates caseSensitive ('?' :: pattern) piece ↔
      ∃ c rest, piece = c :: rest ∧ c ≠ '\n' ∧ Generates caseSensitive pattern rest := by
  constructor
  · intro h
    cases h with
    | mark hc h => exact ⟨_, _, rfl, hc, h⟩
    | letter _ hmark => exact absurd rfl hmark
  · rintro ⟨c, rest, rfl, hc, h⟩
    exact .mark hc h

theorem generates_letter_iff {c : Char} (hc : isWildcard c = false) :
    Generates caseSensitive (c :: pattern) piece ↔
      ∃ d rest, piece = d :: rest ∧ sameChar caseSensitive c d = true ∧
        Generates caseSensitive pattern rest := by
  obtain ⟨hstar, hmark⟩ : c ≠ '*' ∧ c ≠ '?' := by simpa [isWildcard] using hc
  constructor
  · intro h
    cases h with
    | star => exact absurd rfl hstar
    | mark => exact absurd rfl hmark
    | letter _ _ hsame h => exact ⟨_, _, rfl, hsame, h⟩
  · rintro ⟨d, rest, rfl, hsame, h⟩
    exact .letter hstar hmark hsame h

/-- **Globs put together** generate the texts of the one followed by those of the other. -/
theorem generates_append_iff :
    Generates caseSensitive (pattern ++ other) piece ↔
      ∃ front back, piece = front ++ back ∧ Generates caseSensitive pattern front ∧
        Generates caseSensitive other back := by
  constructor
  · intro h
    induction pattern generalizing piece with
    | nil => exact ⟨[], piece, rfl, .done, h⟩
    | cons c pattern ih =>
      cases h with
      | star hskipped h =>
        obtain ⟨front, back, rfl, hfront, hback⟩ := ih h
        exact ⟨_, back, (List.append_assoc ..).symm, .star hskipped hfront, hback⟩
      | mark hc h =>
        obtain ⟨front, back, rfl, hfront, hback⟩ := ih h
        exact ⟨_, back, rfl, .mark hc hfront, hback⟩
      | letter hstar hmark hsame h =>
        obtain ⟨front, back, rfl, hfront, hback⟩ := ih h
        exact ⟨_, back, rfl, .letter hstar hmark hsame hfront, hback⟩
  · rintro ⟨front, back, rfl, hfront, hback⟩
    induction hfront with
    | done => exact hback
    | star hskipped _ ih =>
      rw [List.append_assoc]
      exact .star hskipped ih
    | mark hc _ ih => exact .mark hc ih
    | letter hstar hmark hsame _ ih => exact .letter hstar hmark hsame ih

end Generates

/-! ### Letters and runs -/

/-- Whether two texts agree, character by character. -/
def Agree (caseSensitive : Bool) : (letters text : List Char) → Prop :=
  List.Forall₂ fun c d => sameChar caseSensitive c d = true

/-- **Letters** generate the texts that agree with them. -/
theorem generates_letters_iff {letters piece : List Char}
    (h : ∀ c ∈ letters, isWildcard c = false) :
    Generates caseSensitive letters piece ↔ Agree caseSensitive letters piece := by
  induction letters generalizing piece with
  | nil => rw [generates_nil_iff, Agree, List.forall₂_nil_left_iff]
  | cons c letters ih =>
    obtain ⟨hc, hletters⟩ := List.forall_mem_cons.1 h
    rw [generates_letter_iff hc, Agree, List.forall₂_cons_left_iff]
    constructor
    · rintro ⟨d, rest, rfl, hsame, hrest⟩
      exact ⟨d, rest, hsame, (ih hletters).1 hrest, rfl⟩
    · rintro ⟨d, rest, hsame, hrest, rfl⟩
      exact ⟨d, rest, rfl, hsame, (ih hletters).2 hrest⟩

/-- A wildcard is a star or a question mark. -/
theorem eq_of_isWildcard {c : Char} (h : isWildcard c = true) : c = '*' ∨ c = '?' := by
  simpa [isWildcard] using h

/-- **A run of wildcards** generates the texts without a line feed that are as long as it has
question marks, or longer if it has a star. -/
theorem generates_run_iff {run piece : List Char} (h : ∀ c ∈ run, isWildcard c = true) :
    Generates caseSensitive run piece ↔
      '\n' ∉ piece ∧ run.count '?' ≤ piece.length ∧
        ('*' ∉ run → piece.length = run.count '?') := by
  induction run generalizing piece with
  | nil =>
    rw [generates_nil_iff]
    constructor
    · rintro rfl
      simp
    · rintro ⟨-, -, hlength⟩
      exact List.length_eq_zero_iff.1 (hlength (by simp))
  | cons c run ih =>
    obtain ⟨hc, hrun⟩ := List.forall_mem_cons.1 h
    rcases eq_of_isWildcard hc with rfl | rfl
    · rw [generates_star_iff, List.count_cons_of_ne (by decide)]
      constructor
      · rintro ⟨skipped, rest, rfl, hskipped, hrest⟩
        obtain ⟨hfeed, hcount, -⟩ := (ih hrun).1 hrest
        refine ⟨by simp [hskipped, hfeed], ?_, fun hno => absurd (by simp) hno⟩
        rw [List.length_append]
        omega
      · rintro ⟨hfeed, hcount, -⟩
        -- the star takes all that the question marks behind it do not need
        have hsplit := List.take_append_drop (piece.length - run.count '?') piece
        have hlength : (piece.drop (piece.length - run.count '?')).length = run.count '?' := by
          rw [List.length_drop]
          omega
        refine ⟨_, _, hsplit.symm, fun hmem => hfeed (List.mem_of_mem_take hmem), ?_⟩
        exact (ih hrun).2 ⟨fun hmem => hfeed (List.mem_of_mem_drop hmem), hlength.ge,
          fun _ => hlength⟩
    · rw [generates_mark_iff, List.count_cons_self]
      constructor
      · rintro ⟨d, rest, rfl, hd, hrest⟩
        obtain ⟨hfeed, hcount, hexact⟩ := (ih hrun).1 hrest
        refine ⟨by simp [hd.symm, hfeed], by simpa using hcount, fun hno => ?_⟩
        rw [List.length_cons, hexact fun hmem => hno (List.mem_cons_of_mem _ hmem)]
      · rintro ⟨hfeed, hcount, hexact⟩
        cases piece with
        | nil => simp at hcount
        | cons d rest =>
          obtain ⟨hd, hfeed⟩ := List.ne_and_not_mem_of_not_mem_cons hfeed
          refine ⟨d, rest, rfl, hd.symm, (ih hrun).2 ⟨hfeed, by simpa using hcount, ?_⟩⟩
          intro hno
          simpa using hexact (by simpa using hno)

/-! ### Matching -/

/-- What is compiled is the glob as it was given. -/
theorem eq_of_compile? {pattern : String} {glob : Glob}
    (h : compile? pattern caseSensitive = .ok glob) :
    glob.pattern = pattern ∧ glob.caseSensitive = caseSensitive := by
  unfold compile? at h
  split at h
  · obtain rfl := Except.ok.inj h
    exact ⟨rfl, rfl⟩
  · exact absurd h (by simp)

/-- A glob that is refused is refused with its text. -/
theorem pattern_of_refused {pattern : String} {refused : Oversized}
    (h : compile? pattern caseSensitive = .error refused) : refused.pattern = pattern := by
  unfold compile? at h
  split at h
  · exact absurd h (by simp)
  · obtain rfl := Except.error.inj h
    rfl

theorem exists_compile? {pattern : String} (caseSensitive : Bool)
    (h : compiledSize pattern ≤ sizeLimit) :
    ∃ glob, compile? pattern caseSensitive = .ok glob :=
  ⟨_, dif_pos h⟩

theorem size_le_of_compile? {pattern : String} {glob : Glob}
    (h : compile? pattern caseSensitive = .ok glob) : compiledSize pattern ≤ sizeLimit := by
  obtain ⟨rfl, -⟩ := eq_of_compile? h
  exact glob.size_le

/-- **What a compiled glob matches**, as a text in three parts: it generates the middle one,
and the first one is empty if it ends in a star. -/
theorem isMatch_iff_split {pattern : String} {glob : Glob}
    (h : compile? pattern caseSensitive = .ok glob) (text : String) :
    glob.isMatch text = true ↔ ∃ before piece after, text.toList = before ++ (piece ++ after) ∧
      (pattern.toList.getLast? = some '*' → before = []) ∧
        Generates caseSensitive pattern.toList piece := by
  obtain ⟨rfl, rfl⟩ := eq_of_compile? h
  have hanchor : isAnchored glob.pattern = true ↔ glob.pattern.toList.getLast? = some '*' :=
    beq_iff_eq
  rw [isMatch_iff, hanchor]
  constructor
  · rintro ⟨start, -, hstart, piece, ⟨after, hafter⟩, hpiece⟩
    refine ⟨text.toList.take start, piece, after, ?_, fun hstar => ?_, hpiece⟩
    · rw [hafter, List.take_append_drop]
    · rw [hstart hstar, List.take_zero]
  · rintro ⟨before, piece, after, htext, hbefore, hpiece⟩
    refine ⟨before.length, ?_, fun hstar => ?_, piece, ?_, hpiece⟩
    · rw [htext, List.length_append]
      exact Nat.le_add_right ..
    · rw [hbefore hstar, List.length_nil]
    · rw [htext, List.drop_left]
      exact List.prefix_append piece after

/-! ### A star between letters -/

/-- **Whether two texts occur one behind the other** in a third, each as one that agrees with
it, and something holds of what is between them. -/
def OccurInTurn (caseSensitive : Bool) (gap : List Char → Prop)
    (front back text : List Char) : Prop :=
  ∃ before first between second after,
    text = before ++ (first ++ (between ++ (second ++ after))) ∧
      Agree caseSensitive front first ∧ gap between ∧ Agree caseSensitive back second

section Between

variable {front back : String} (hfront : ∀ c ∈ front.toList, isWildcard c = false)
  (hback : ∀ c ∈ back.toList, isWildcard c = false)

include hfront hback in
/-- Letters, a star and letters. -/
theorem generates_star_between_iff {piece : List Char} :
    Generates caseSensitive (front ++ "*" ++ back).toList piece ↔
      ∃ first between second, piece = first ++ (between ++ second) ∧
        Agree caseSensitive front.toList first ∧ '\n' ∉ between ∧
          Agree caseSensitive back.toList second := by
  have htext : (front ++ "*" ++ back).toList = front.toList ++ '*' :: back.toList := by simp
  rw [htext, generates_append_iff]
  constructor
  · rintro ⟨first, rest, rfl, hfirst, hrest⟩
    obtain ⟨between, second, rfl, hbetween, hsecond⟩ := generates_star_iff.1 hrest
    exact ⟨first, between, second, rfl, (generates_letters_iff hfront).1 hfirst, hbetween,
      (generates_letters_iff hback).1 hsecond⟩
  · rintro ⟨first, between, second, rfl, hfirst, hbetween, hsecond⟩
    exact ⟨first, between ++ second, rfl, (generates_letters_iff hfront).2 hfirst,
      generates_star_iff.2
        ⟨between, second, rfl, hbetween, (generates_letters_iff hback).2 hsecond⟩⟩

include hback in
theorem getLast?_ne_star (hne : back ≠ "") :
    (front ++ "*" ++ back).toList.getLast? ≠ some '*' := by
  have hnil : back.toList ≠ [] := fun h => hne (String.toList_eq_nil_iff.1 h)
  rw [String.toList_append, List.getLast?_append_of_ne_nil _ hnil]
  intro hstar
  exact absurd (hback '*' (List.mem_of_getLast? hstar)) (by decide)

include hfront hback in
/-- **A star between letters.** A compiled glob that is letters, a star and letters matches a
text exactly if the letters in front of the star occur in it and, behind them with no line feed
in between, those behind the star. -/
theorem isMatch_star_between (hne : back ≠ "") {caseSensitive : Bool} {glob : Glob}
    (h : compile? (front ++ "*" ++ back) caseSensitive = .ok glob) (text : String) :
    glob.isMatch text = true ↔
      OccurInTurn caseSensitive ('\n' ∉ ·) front.toList back.toList text.toList := by
  rw [isMatch_iff_split h]
  constructor
  · rintro ⟨before, piece, after, htext, -, hpiece⟩
    obtain ⟨first, between, second, rfl, hfirst, hbetween, hsecond⟩ :=
      (generates_star_between_iff hfront hback).1 hpiece
    exact ⟨before, first, between, second, after, by simpa using htext, hfirst, hbetween, hsecond⟩
  · rintro ⟨before, first, between, second, after, htext, hfirst, hbetween, hsecond⟩
    exact ⟨before, first ++ (between ++ second), after, by simpa using htext,
      fun hstar => absurd hstar (getLast?_ne_star hback hne),
      (generates_star_between_iff hfront hback).2
        ⟨first, between, second, rfl, hfirst, hbetween, hsecond⟩⟩

end Between

/-- A match on the second line of a text, in the other case. The `A.` of its first line is too
far away. -/
theorem isMatch_star_between_second :
    (∀ c ∈ "a.".toList, isWildcard c = false) ∧ (∀ c ∈ "k".toList, isWildcard c = false) ∧
      "k" ≠ "" ∧ ∃ glob, compile? ("a." ++ "*" ++ "k") false = .ok glob ∧
        glob.isMatch "A.\nA. | \u212a" = true ∧ glob.isMatch "A.\n | \u212a" = false := by
  have hfront : ∀ c ∈ "a.".toList, isWildcard c = false := by simp [isWildcard]
  have hback : ∀ c ∈ "k".toList, isWildcard c = false := by simp [isWildcard]
  obtain ⟨glob, hglob⟩ := @exists_compile? ("a." ++ "*" ++ "k") false (by decide)
  have hmatch := isMatch_star_between hfront hback (by decide) hglob
  have hoccur : OccurInTurn false ('\n' ∉ ·) "a.".toList "k".toList
      "A.\nA. | \u212a".toList :=
    ⟨['A', '.', '\n'], ['A', '.'], [' ', '|', ' '], ['\u212a'], [], by decide,
      .cons (by decide) (.cons (by decide) .nil), by decide, .cons (by decide) .nil⟩
  refine ⟨hfront, hback, by decide, glob, hglob, (hmatch _).2 hoccur, ?_⟩
  obtain rfl := Except.ok.inj hglob
  decide +kernel

/-- **A star does not cross lines**, so it does not stand for any run of characters: the two
letters occur in the text one behind the other, and the glob does not match it. -/
theorem not_star_crosses_lines :
    ¬ ∀ (caseSensitive : Bool) (front back : String) (glob : Glob),
        (∀ c ∈ front.toList, isWildcard c = false) → (∀ c ∈ back.toList, isWildcard c = false) →
          back ≠ "" → compile? (front ++ "*" ++ back) caseSensitive = .ok glob →
            ∀ text : String, glob.isMatch text = true ↔
              OccurInTurn caseSensitive (fun _ => True) front.toList back.toList text.toList := by
  intro h
  obtain ⟨glob, hglob⟩ := @exists_compile? ("a" ++ "*" ++ "b") false (by decide)
  have hmatch := h false "a" "b" glob (by simp [isWildcard]) (by simp [isWildcard]) (by decide)
    hglob
  have hoccur : OccurInTurn false (fun _ => True) "a".toList "b".toList "a\nb".toList :=
    ⟨[], ['a'], ['\n'], ['b'], [], by decide, .cons (by decide) .nil, trivial,
      .cons (by decide) .nil⟩
  have hmiss : glob.isMatch "a\nb" = false := by
    obtain rfl := Except.ok.inj hglob
    decide +kernel
  exact absurd ((hmatch _).2 hoccur) (Bool.eq_false_iff.1 hmiss)

/-! ### Blocks of a glob -/

/-- The blocks of a glob: its maximal runs of wildcards and its maximal stretches of letters,
in turn. -/
def blocks (pattern : List Char) : List (List Char) :=
  pattern.splitBy fun c d => isWildcard c == isWildcard d

theorem flatten_blocks (pattern : List Char) : (blocks pattern).flatten = pattern :=
  List.flatten_splitBy _ pattern

/-- Whether a block is a stretch of letters. -/
def isStretch (block : List Char) : Bool :=
  block.all fun c => !isWildcard c

/-- The maximal stretches of letters. -/
def stretches (pattern : List Char) : List (List Char) :=
  (blocks pattern).filter isStretch

/-- The maximal runs of wildcards in front of the first stretch, between the stretches and
behind the last one: one more than there are stretches. The first and the last may be empty. -/
def runs (pattern : List Char) : List (List Char) :=
  ((blocks pattern).splitOnP isStretch).map List.flatten

/-- **Whether two runs of wildcards are alike**: they have the same number of question marks,
and both or neither have a star. -/
structure RunsAlike (run other : List Char) : Prop where
  /-- Equally many question marks. -/
  count_eq : run.count '?' = other.count '?'
  /-- A star in both, or in neither. -/
  star_iff : '*' ∈ run ↔ '*' ∈ other

/-- The runs with the stretches between them are the glob. -/
theorem flatten_runs (pattern : List Char) :
    (List.zipWith (· ++ ·) (runs pattern) (stretches pattern ++ [[]])).flatten = pattern := by
  have hends : stretches pattern ++ [[]] =
      ((stretches pattern).map (fun stretch => [stretch]) ++ [[]]).map List.flatten := by
    simp [Function.comp_def]
  have hparts := congrArg List.flatten (@List.splitOnP_spec _ isStretch (blocks pattern))
  rw [List.flatten_flatten, List.map_zipWith, flatten_blocks] at hparts
  simp only [List.flatten_append] at hparts
  rw [hends, runs, List.zipWith_map]
  exact hparts

example : stretches "*a?*b".toList = [['a'], ['b']] ∧
    runs "*a?*b".toList = [['*'], ['?', '*'], []] := by decide

/-- The characters of a block are all wildcards or all letters. -/
theorem isWildcard_eq_of_mem_block {pattern block : List Char} (h : block ∈ blocks pattern)
    {c d : Char} (hc : c ∈ block) (hd : d ∈ block) : isWildcard c = isWildcard d := by
  have hchain : (block.map isWildcard).IsChain (· = ·) :=
    (List.isChain_map isWildcard).2 ((List.isChain_of_mem_splitBy h).imp fun _ _ => eq_of_beq)
  exact hchain.pairwise.forall_of_forall (fun _ _ => rfl) (List.mem_map_of_mem hc)
    (List.mem_map_of_mem hd)

theorem eq_false_of_mem_splitOnP {α : Type} {p : α → Bool} {items part : List α} {item : α}
    (hpart : part ∈ items.splitOnP p) (hitem : item ∈ part) : item ∈ items ∧ p item = false := by
  induction items generalizing part with
  | nil =>
    obtain rfl : part = [] := by simpa using hpart
    exact absurd hitem List.not_mem_nil
  | cons first items ih =>
    rw [List.splitOnP_cons_eq_if_modifyHead] at hpart
    obtain ⟨head, parts, hparts⟩ := List.exists_cons_of_ne_nil (List.splitOnP_ne_nil p items)
    rw [hparts] at hpart ih
    split at hpart
    · rcases List.mem_cons.1 hpart with rfl | hpart
      · exact absurd hitem List.not_mem_nil
      · exact (ih hpart hitem).imp_left (List.mem_cons_of_mem _)
    · next hfirst =>
      rcases List.mem_cons.1 hpart with rfl | hpart
      · rcases List.mem_cons.1 hitem with rfl | hitem
        · exact ⟨List.mem_cons_self, Bool.eq_false_iff.2 hfirst⟩
        · exact (ih List.mem_cons_self hitem).imp_left (List.mem_cons_of_mem _)
      · exact (ih (List.mem_cons_of_mem _ hpart) hitem).imp_left (List.mem_cons_of_mem _)

/-- The runs have wildcards only. -/
theorem isWildcard_of_mem_runs {pattern run : List Char} (h : run ∈ runs pattern) :
    ∀ c ∈ run, isWildcard c = true := by
  obtain ⟨part, hpart, rfl⟩ := List.mem_map.1 h
  intro c hc
  obtain ⟨block, hblock, hmem⟩ := List.mem_flatten.1 hc
  obtain ⟨hin, hstretch⟩ := eq_false_of_mem_splitOnP hpart hblock
  -- a block that is no stretch has a wildcard, and its other characters are like it
  obtain ⟨d, hd, hwild⟩ := List.all_eq_false.1 hstretch
  rw [isWildcard_eq_of_mem_block hin hmem hd]
  simpa using hwild

/-! ### Wildcards in another order -/

/-- Whether two globs generate the same texts. -/
def SameTexts (caseSensitive : Bool) (pattern other : List Char) : Prop :=
  ∀ piece, Generates caseSensitive pattern piece ↔ Generates caseSensitive other piece

section SameTexts

variable {first second first' second' : List Char}

theorem SameTexts.refl (pattern : List Char) : SameTexts caseSensitive pattern pattern :=
  fun _ => Iff.rfl

/-- Parts of a glob may be exchanged for others that generate the same texts. -/
theorem SameTexts.append (hfirst : SameTexts caseSensitive first first')
    (hsecond : SameTexts caseSensitive second second') :
    SameTexts caseSensitive (first ++ second) (first' ++ second') := by
  intro piece
  rw [generates_append_iff, generates_append_iff]
  simp only [hfirst _, hsecond _]

/-- Runs that are alike generate the same texts. -/
theorem RunsAlike.sameTexts (h : RunsAlike first second)
    (hfirst : ∀ c ∈ first, isWildcard c = true) (hsecond : ∀ c ∈ second, isWildcard c = true) :
    SameTexts caseSensitive first second := by
  intro piece
  rw [generates_run_iff hfirst, generates_run_iff hsecond, h.count_eq, h.star_iff]

/-- Exchanging the runs and keeping the stretches. -/
theorem sameTexts_zipWith {runs others : List (List Char)}
    (h : List.Forall₂ (SameTexts caseSensitive) runs others) (ends : List (List Char)) :
    SameTexts caseSensitive (List.zipWith (· ++ ·) runs ends).flatten
      (List.zipWith (· ++ ·) others ends).flatten := by
  induction h generalizing ends with
  | nil => exact .refl _
  | cons hrun _ ih =>
    cases ends with
    | nil => exact .refl _
    | cons stretch ends =>
      rw [List.zipWith_cons_cons, List.zipWith_cons_cons, List.flatten_cons, List.flatten_cons]
      exact (hrun.append (.refl stretch)).append (ih ends)

/-- **Globs with the same stretches and runs that are alike** generate the same texts. -/
theorem sameTexts_of_runsAlike (hstretches : stretches first = stretches second)
    (hruns : List.Forall₂ RunsAlike (runs first) (runs second)) :
    SameTexts caseSensitive first second := by
  have hsame : List.Forall₂ (SameTexts caseSensitive) (runs first) (runs second) := by
    rw [List.forall₂_iff_zip] at hruns ⊢
    refine ⟨hruns.1, fun hmem => ?_⟩
    exact (hruns.2 hmem).sameTexts (isWildcard_of_mem_runs (List.of_mem_zip hmem).1)
      (isWildcard_of_mem_runs (List.of_mem_zip hmem).2)
  have hparts := sameTexts_zipWith hsame (stretches first ++ [[]])
  rwa [flatten_runs, hstretches, flatten_runs] at hparts

end SameTexts

/-! ### What wildcards change -/

/-- Globs that generate the same texts and of which both or neither end in a star match the
same texts. -/
theorem isMatch_eq_of_sameTexts {pattern other : String} {glob otherGlob : Glob}
    (hsame : SameTexts caseSensitive pattern.toList other.toList)
    (hend : pattern.toList.getLast? = some '*' ↔ other.toList.getLast? = some '*')
    (h : compile? pattern caseSensitive = .ok glob)
    (hother : compile? other caseSensitive = .ok otherGlob) (text : String) :
    glob.isMatch text = otherGlob.isMatch text := by
  rw [Bool.eq_iff_iff, isMatch_iff_split h, isMatch_iff_split hother, hend]
  simp only [hsame _]

section Star

variable {pattern : String} {starred : Glob}

/-- What can be compiled with a star in front can be compiled without it. -/
theorem exists_compile?_of_star (h : compile? ("*" ++ pattern) caseSensitive = .ok starred) :
    ∃ glob, compile? pattern caseSensitive = .ok glob := by
  have hless : compiledSize pattern ≤ compiledSize ("*" ++ pattern) := by
    rw [compiledSize, compiledSize, String.toList_append, List.countP_append]
    exact Nat.mul_le_mul_left _ (Nat.le_add_left ..)
  exact exists_compile? caseSensitive (hless.trans (size_le_of_compile? h))

/-- **A star in front** of a glob that does not end in one changes nothing: the match can start
behind what the star takes. -/
theorem isMatch_star_append (hend : pattern.toList.getLast? ≠ some '*')
    (h : compile? ("*" ++ pattern) caseSensitive = .ok starred) :
    ∃ glob, compile? pattern caseSensitive = .ok glob ∧
      ∀ text, starred.isMatch text = glob.isMatch text := by
  obtain ⟨glob, hglob⟩ := exists_compile?_of_star h
  refine ⟨glob, hglob, fun text => ?_⟩
  have hstar : ("*" ++ pattern).toList = '*' :: pattern.toList := by simp
  rw [Bool.eq_iff_iff, isMatch_iff_split h, isMatch_iff_split hglob, hstar]
  constructor
  · rintro ⟨before, piece, after, htext, -, hpiece⟩
    obtain ⟨skipped, rest, rfl, -, hrest⟩ := generates_star_iff.1 hpiece
    exact ⟨before ++ skipped, rest, after, by simpa using htext,
      fun hlast => absurd hlast hend, hrest⟩
  · rintro ⟨before, piece, after, htext, -, hpiece⟩
    by_cases hnil : pattern.toList = []
    -- the star alone is bound to the start, where it matches like nothing at all
    · rw [hnil]
      exact ⟨[], [], text.toList, rfl, fun _ => rfl, .skip .done⟩
    · refine ⟨before, piece, after, htext, fun hlast => absurd ?_ hend, hpiece.skip⟩
      rwa [← List.singleton_append, List.getLast?_append_of_ne_nil _ hnil] at hlast

/-- **A star behind** a glob binds it to the start of the text. -/
theorem isMatch_append_star (h : compile? (pattern ++ "*") caseSensitive = .ok starred)
    (text : String) :
    starred.isMatch text = true ↔
      ∃ piece, piece <+: text.toList ∧ Generates caseSensitive pattern.toList piece := by
  have hstar : (pattern ++ "*").toList = pattern.toList ++ ['*'] := by simp
  rw [isMatch_iff_split h, hstar]
  constructor
  · rintro ⟨before, piece, after, htext, hbefore, hpiece⟩
    obtain ⟨front, back, rfl, hfront, -⟩ := generates_append_iff.1 hpiece
    rw [hbefore (by simp), List.nil_append, List.append_assoc] at htext
    exact ⟨front, ⟨back ++ after, htext.symm⟩, hfront⟩
  · rintro ⟨piece, ⟨after, hafter⟩, hpiece⟩
    refine ⟨[], piece, after, hafter.symm, fun _ => rfl, ?_⟩
    exact generates_append_iff.2 ⟨piece, [], by simp, hpiece, .skip .done⟩

end Star

/-- **Wildcards in a normal form.** If two globs have the same maximal stretches of letters, if
their maximal runs of wildcards in front of, between and behind these have the same number of
question marks and a star in both or in neither, and if both or neither end in a star, they match
the same texts. A star in front of a glob that does not end in one changes nothing, and a star
behind any glob makes it match the texts that start with something it generates. -/
theorem isMatch_wildcards (caseSensitive : Bool) :
    (∀ {pattern other : String} {glob otherGlob : Glob},
        stretches pattern.toList = stretches other.toList →
        List.Forall₂ RunsAlike (runs pattern.toList) (runs other.toList) →
        (pattern.toList.getLast? = some '*' ↔ other.toList.getLast? = some '*') →
        compile? pattern caseSensitive = .ok glob → compile? other caseSensitive = .ok otherGlob →
        ∀ text, glob.isMatch text = otherGlob.isMatch text) ∧
      (∀ {pattern : String} {starred : Glob}, pattern.toList.getLast? ≠ some '*' →
        compile? ("*" ++ pattern) caseSensitive = .ok starred →
        ∃ glob, compile? pattern caseSensitive = .ok glob ∧
          ∀ text, starred.isMatch text = glob.isMatch text) ∧
      ∀ {pattern : String} {starred : Glob},
        compile? (pattern ++ "*") caseSensitive = .ok starred →
        ∀ text, starred.isMatch text = true ↔
          ∃ piece, piece <+: text.toList ∧ Generates caseSensitive pattern.toList piece := by
  refine ⟨fun hstretches hruns hend h hother text => ?_, isMatch_star_append, isMatch_append_star⟩
  exact isMatch_eq_of_sameTexts (sameTexts_of_runsAlike hstretches hruns) hend h hother text

/-- Wildcards that change places, one of them repeated, a star that is dropped at the start of a
glob, and one at its end, which binds the match to the first of two lines. -/
theorem isMatch_wildcards_moved :
    stretches "*?a?**b".toList = stretches "?*a*?b".toList ∧
      List.Forall₂ RunsAlike (runs "*?a?**b".toList) (runs "?*a*?b".toList) ∧
      (∃ glob otherGlob, compile? "*?a?**b" false = .ok glob ∧
        compile? "?*a*?b" false = .ok otherGlob ∧
        ∀ text, glob.isMatch text = otherGlob.isMatch text) ∧
      (∃ starred glob, compile? ("*" ++ "a*?") false = .ok starred ∧
        compile? "a*?" false = .ok glob ∧ glob.isMatch "\nab" = true ∧
        starred.isMatch "\nab" = true) ∧
      ∃ starred, compile? ("a?" ++ "*") false = .ok starred ∧ starred.isMatch "ab\n" = true ∧
        starred.isMatch "\nab" = false := by
  obtain ⟨hnormal, hfront, hbehind⟩ := isMatch_wildcards false
  have hstretches : stretches "*?a?**b".toList = stretches "?*a*?b".toList := by decide
  have hruns : List.Forall₂ RunsAlike (runs "*?a?**b".toList) (runs "?*a*?b".toList) :=
    .cons ⟨by decide, by decide⟩ (.cons ⟨by decide, by decide⟩ (.cons ⟨by decide, by decide⟩ .nil))
  obtain ⟨glob, hglob⟩ := @exists_compile? "*?a?**b" false (by decide)
  obtain ⟨other, hother⟩ := @exists_compile? "?*a*?b" false (by decide)
  obtain ⟨starred, hstarred⟩ := @exists_compile? ("*" ++ "a*?") false (by decide)
  obtain ⟨anchored, hanchored⟩ := @exists_compile? ("a?" ++ "*") false (by decide)
  obtain ⟨plain, hplain, hsame⟩ := hfront (by decide) hstarred
  have hmatch : plain.isMatch "\nab" = true := by
    obtain rfl := Except.ok.inj hplain
    decide +kernel
  have hstart : anchored.isMatch "ab\n" = true :=
    (hbehind hanchored _).2 ⟨['a', 'b'], by decide,
      .letter (by decide) (by decide) (by decide) (.mark (by decide) .done)⟩
  have hmiss : anchored.isMatch "\nab" = false := by
    obtain rfl := Except.ok.inj hanchored
    decide +kernel
  exact ⟨hstretches, hruns,
    ⟨glob, other, hglob, hother, hnormal hstretches hruns (by decide) hglob hother⟩,
    ⟨starred, plain, hstarred, hplain, hmatch, (hsame _).trans hmatch⟩,
    anchored, hanchored, hstart, hmiss⟩

end RecordQuery.Glob
