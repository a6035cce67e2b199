import Mathlib.Data.List.TakeWhile
import RecordQuery.Query.Token

/-!
# The scan of a query

The tokens of a query are computed from runs of characters
(`RecordQuery.Query.tokens`). This file says what they are without computing them, by
a relation between a text and its tokens (`RecordQuery.Query.Scan`) in which every
token is described by its shape:

* a **quoted phrase** (`RecordQuery.Query.IsQuotedPhrase`) is an optional minus sign,
  an optional scope, and a quotation of at least one character without a quotation
  mark in it;
* a **word** is a run of characters without white space that cannot be made longer,
  taken only where no quoted phrase starts.

The relation and the function agree (`RecordQuery.Query.scan_iff`), so every text has
exactly one scan. The readers of a scope, a quotation and a quoted phrase are each
characterised by one equivalence on the way, the last of them by
`RecordQuery.Query.quotedPhrase?_eq_some_iff`; nothing after these opens them again.

White space is what tells the two kinds of token apart: in a token it lies between the
two marks of a quotation (`RecordQuery.Query.blank_of_phraseText`). This is also why a
query is cut differently in front of other text only when a quotation is left open.
-/

namespace RecordQuery.Query

/-! ### Runs of characters -/

section Runs

variable {p : Char → Bool} {run rest : List Char}

theorem takeWhile_run (hrun : ∀ c ∈ run, p c = true) (hrest : ∀ c ∈ rest.head?, p c = false) :
    (run ++ rest).takeWhile p = run := by
  rw [List.takeWhile_append_of_pos hrun]
  cases rest with
  | nil => simp
  | cons c rest => simp [hrest c rfl]

theorem dropWhile_run (hrun : ∀ c ∈ run, p c = true) (hrest : ∀ c ∈ rest.head?, p c = false) :
    (run ++ rest).dropWhile p = rest := by
  rw [List.dropWhile_append_of_pos hrun]
  cases rest with
  | nil => rfl
  | cons c rest => simp [hrest c rfl]

theorem head?_dropWhile (p : Char → Bool) (cs : List Char) :
    ∀ c ∈ (cs.dropWhile p).head?, p c = false := by
  intro c hc
  have h := List.head?_dropWhile_not p cs
  rw [Option.mem_def.1 hc] at h
  exact h

end Runs

/-! ### The shape of a quoted phrase -/

/-- The sign of a phrase as it is written. -/
def signText (negated : Bool) : List Char :=
  if negated then ['-'] else []

/-- The scope of a phrase as it is written: names and a colon. -/
def scopeText : Option (List Char) → List Char
  | none => []
  | some names => names ++ [':']

/-- The text of a phrase with a quotation. -/
def phraseText (negated : Bool) (scope : Option (List Char)) (inner : List Char) : List Char :=
  signText negated ++ (scopeText scope ++ '"' :: (inner ++ ['"']))

/-- Whether names can be read as a scope: there is at least one character, and all may
stand in a scope. -/
def IsScope (scope : Option (List Char)) : Prop :=
  ∀ names ∈ scope, names ≠ [] ∧ ∀ c ∈ names, isScopeChar c = true

/-- **A quoted phrase**: at least one character between two quotation marks, behind an
optional sign and an optional scope. -/
def IsQuotedPhrase (token : List Char) : Prop :=
  ∃ (negated : Bool) (scope : Option (List Char)) (inner : List Char),
    IsScope scope ∧ inner ≠ [] ∧ '"' ∉ inner ∧ token = phraseText negated scope inner

theorem isScope_none : IsScope none := by
  intro names h
  exact absurd h (by simp)

theorem isScope_some {names : List Char} :
    IsScope (some names) ↔ names ≠ [] ∧ ∀ c ∈ names, isScopeChar c = true := by
  simp [IsScope]

/-! ### Characters in front of a quotation -/

/-- The codes of ASCII letters and digits. -/
theorem toNat_of_isAlphanum {c : Char} (h : c.isAlphanum = true) :
    0x30 ≤ c.toNat ∧ c.toNat ≤ 0x7A := by
  rcases Bool.or_eq_true_iff.1 h with h | h
  · rcases Bool.or_eq_true_iff.1 h with h | h
    · obtain ⟨hlow, hhigh⟩ : 'A'.val ≤ c.val ∧ c.val ≤ 'Z'.val := of_decide_eq_true h
      have hlow : 0x41 ≤ c.toNat := UInt32.le_iff_toNat_le.1 hlow
      have hhigh : c.toNat ≤ 0x5A := UInt32.le_iff_toNat_le.1 hhigh
      omega
    · obtain ⟨hlow, hhigh⟩ := Bool.and_eq_true_iff.1 h
      have hlow : 0x61 ≤ c.toNat := UInt32.le_iff_toNat_le.1 (of_decide_eq_true hlow)
      have hhigh : c.toNat ≤ 0x7A := UInt32.le_iff_toNat_le.1 (of_decide_eq_true hhigh)
      omega
  · obtain ⟨hlow, hhigh⟩ : 0x30 ≤ c.toNat ∧ c.toNat ≤ 0x39 := Char.isDigit_iff_toNat.1 h
    omega

/-- White space cannot stand in a scope. -/
theorem isBlank_of_isScopeChar {c : Char} (h : isScopeChar c = true) : Text.isBlank c = false := by
  simp only [isScopeChar, Bool.or_eq_true, beq_iff_eq] at h
  rcases h with ((((h | rfl) | rfl) | rfl) | rfl) | rfl
  · have hcode := toNat_of_isAlphanum h
    simp [Text.isBlank, Text.inRanges, Text.blankRanges]
    omega
  all_goals decide

/-- What stands in front of the pattern of a phrase has no white space. -/
theorem isBlank_of_mem_front (negated : Bool) {scope : Option (List Char)} (hs : IsScope scope)
    {c : Char} (hc : c ∈ signText negated ++ scopeText scope ++ ['"']) :
    Text.isBlank c = false := by
  obtain ⟨hquote, hminus, -, hcolon⟩ := Text.isBlank_marks
  rcases List.mem_append.1 hc with hc | hc
  · rcases List.mem_append.1 hc with hc | hc
    · cases negated with
      | false => exact absurd hc (by simp [signText])
      | true =>
        obtain rfl : c = '-' := by simpa [signText] using hc
        exact hminus
    · cases scope with
      | none => exact absurd hc (by simp [scopeText])
      | some names =>
        rcases List.mem_append.1 hc with hc | hc
        · exact isBlank_of_isScopeChar ((isScope_some.1 hs).2 c hc)
        · obtain rfl : c = ':' := by simpa using hc
          exact hcolon
  · obtain rfl : c = '"' := by simpa using hc
    exact hquote

/-- What stands in front of the quotation of a phrase has no quotation mark. -/
theorem quote_notMem_front (negated : Bool) {scope : Option (List Char)} (hs : IsScope scope) :
    '"' ∉ signText negated ++ scopeText scope := by
  intro hmem
  rcases List.mem_append.1 hmem with h | h
  · cases negated <;> simp [signText] at h
  · cases scope with
    | none => simp [scopeText] at h
    | some names =>
      have hname : '"' ∈ names := by simpa [scopeText] using h
      exact absurd ((isScope_some.1 hs).2 _ hname) (by decide)

/-! ### What the readers accept -/

theorem scope?_eq_some_iff {cs names rest : List Char} :
    scope? cs = some (names, rest) ↔ IsScope (some names) ∧ cs = names ++ ':' :: rest := by
  rw [isScope_some]
  constructor
  · intro h
    have hcs := append_of_scope? h
    unfold scope? at h
    split at h
    · split at h
      · simp at h
      · next hne =>
        obtain ⟨rfl, -⟩ : cs.takeWhile isScopeChar = names ∧ _ = rest := by simpa using h
        refine ⟨⟨by simpa using hne, fun c hc => List.mem_takeWhile_imp hc⟩, hcs.symm⟩
    · simp at h
  · rintro ⟨⟨hne, hall⟩, rfl⟩
    have hcolon : ∀ c ∈ (':' :: rest).head?, isScopeChar c = false := by
      rintro c ⟨⟩
      decide
    unfold scope?
    rw [dropWhile_run hall hcolon, takeWhile_run hall hcolon]
    simp [hne]

theorem scope?_eq_none {cs : List Char} (h : ∀ c ∈ cs.head?, isScopeChar c = false) :
    scope? cs = none := by
  rcases hs : scope? cs with _ | ⟨names, rest⟩
  · rfl
  · obtain ⟨hscope, hcs⟩ := scope?_eq_some_iff.1 hs
    obtain ⟨hne, hall⟩ := isScope_some.1 hscope
    obtain ⟨c, letters, rfl⟩ := List.exists_cons_of_ne_nil hne
    have hc : isScopeChar c = false := h c (by rw [hcs]; rfl)
    exact absurd (hall c (by simp)) (by simp [hc])

theorem quotation?_eq_some_iff {cs token rest : List Char} :
    quotation? cs = some (token, rest) ↔ ∃ inner, inner ≠ [] ∧ '"' ∉ inner ∧
      token = '"' :: (inner ++ ['"']) ∧ cs = token ++ rest := by
  constructor
  · intro h
    have hcs := append_of_quotation? h
    unfold quotation? at h
    split at h
    · next inner =>
      split at h
      · split at h
        · simp at h
        · next hne =>
          obtain ⟨rfl, -⟩ :
              '"' :: (inner.takeWhile isUnquote ++ ['"']) = token ∧ _ = rest := by simpa using h
          refine ⟨_, by simpa using hne, fun hmem => ?_, rfl, hcs.symm⟩
          exact absurd (List.mem_takeWhile_imp hmem) (by decide)
      · simp at h
    · simp at h
  · rintro ⟨inner, hne, hquote, rfl, rfl⟩
    have hall : ∀ c ∈ inner, isUnquote c = true := by
      intro c hc
      have hcq : c ≠ '"' := fun he => hquote (he ▸ hc)
      simpa [isUnquote] using hcq
    have hclose : ∀ c ∈ ('"' :: rest).head?, isUnquote c = false := by
      rintro c ⟨⟩
      decide
    have hcs : '"' :: (inner ++ ['"']) ++ rest = '"' :: (inner ++ '"' :: rest) := by simp
    rw [hcs, quotation?]
    rw [dropWhile_run hall hclose, takeWhile_run hall hclose]
    simp [hne]

theorem scopedQuotation?_eq_some_iff {cs token rest : List Char} :
    scopedQuotation? cs = some (token, rest) ↔ ∃ scope inner, IsScope scope ∧ inner ≠ [] ∧
      '"' ∉ inner ∧ token = scopeText scope ++ '"' :: (inner ++ ['"']) ∧ cs = token ++ rest := by
  constructor
  · intro h
    have hcs := append_of_scopedQuotation? h
    unfold scopedQuotation? at h
    split at h
    · next names tail hs =>
      obtain ⟨⟨quoted, after⟩, hq, heq⟩ := Option.map_eq_some_iff.1 h
      obtain ⟨rfl, rfl⟩ := Prod.mk.inj heq
      obtain ⟨inner, hne, hquote, rfl, -⟩ := quotation?_eq_some_iff.1 hq
      exact ⟨some names, inner, (scope?_eq_some_iff.1 hs).1, hne, hquote, by simp [scopeText],
        hcs.symm⟩
    · obtain ⟨inner, hne, hquote, rfl, -⟩ := quotation?_eq_some_iff.1 h
      exact ⟨none, inner, isScope_none, hne, hquote, rfl, hcs.symm⟩
  · rintro ⟨scope, inner, hscope, hne, hquote, rfl, rfl⟩
    have hq : ∀ rest', quotation? ('"' :: (inner ++ ['"']) ++ rest') =
        some ('"' :: (inner ++ ['"']), rest') := fun rest' =>
      quotation?_eq_some_iff.2 ⟨inner, hne, hquote, rfl, rfl⟩
    unfold scopedQuotation?
    cases scope with
    | none =>
      have hnone : scope? ('"' :: (inner ++ ['"']) ++ rest) = none := by
        refine scope?_eq_none ?_
        rintro c ⟨⟩
        decide
      rw [show scopeText none = [] from rfl, List.nil_append, hnone]
      exact hq rest
    | some names =>
      have hsome : scope? (scopeText (some names) ++ '"' :: (inner ++ ['"']) ++ rest) =
          some (names, '"' :: (inner ++ ['"']) ++ rest) :=
        scope?_eq_some_iff.2 ⟨hscope, by simp [scopeText]⟩
      rw [hsome]
      simp only
      rw [hq rest]
      simp [scopeText]

theorem quotedPhrase?_of_head {cs : List Char} (h : cs.head? ≠ some '-') :
    quotedPhrase? cs = scopedQuotation? cs := by
  unfold quotedPhrase?
  split
  · exact absurd rfl h
  · rfl

/-- A scope does not start with a sign. -/
theorem head?_scope {names : List Char} (h : IsScope (some names)) (rest : List Char) :
    (names ++ rest).head? ≠ some '-' := by
  obtain ⟨hne, hall⟩ := isScope_some.1 h
  obtain ⟨c, letters, rfl⟩ := List.exists_cons_of_ne_nil hne
  rintro ⟨⟩
  exact absurd (hall '-' (by simp)) (by decide)

/-- No quotation behind a scope starts with a sign. -/
theorem head?_scopedQuotation {scope : Option (List Char)} (hs : IsScope scope)
    (quoted : List Char) : (scopeText scope ++ '"' :: quoted).head? ≠ some '-' := by
  cases scope with
  | none => simp [scopeText]
  | some names =>
    rw [scopeText, List.append_assoc]
    exact head?_scope hs _

/-- **What is read as a quoted phrase**: a text that starts with one, and no other. -/
theorem quotedPhrase?_eq_some_iff {cs token rest : List Char} :
    quotedPhrase? cs = some (token, rest) ↔ IsQuotedPhrase token ∧ cs = token ++ rest := by
  constructor
  · intro h
    have hcs := append_of_quotedPhrase? h
    refine ⟨?_, hcs.symm⟩
    unfold quotedPhrase? at h
    split at h
    · obtain ⟨⟨quoted, after⟩, hq, heq⟩ := Option.map_eq_some_iff.1 h
      obtain ⟨rfl, rfl⟩ := Prod.mk.inj heq
      obtain ⟨scope, inner, hscope, hne, hquote, rfl, -⟩ := scopedQuotation?_eq_some_iff.1 hq
      exact ⟨true, scope, inner, hscope, hne, hquote, rfl⟩
    · obtain ⟨scope, inner, hscope, hne, hquote, rfl, -⟩ := scopedQuotation?_eq_some_iff.1 h
      exact ⟨false, scope, inner, hscope, hne, hquote, rfl⟩
  · rintro ⟨⟨negated, scope, inner, hscope, hne, hquote, rfl⟩, rfl⟩
    have hq : scopedQuotation? (scopeText scope ++ '"' :: (inner ++ ['"']) ++ rest) =
        some (scopeText scope ++ '"' :: (inner ++ ['"']), rest) :=
      scopedQuotation?_eq_some_iff.2 ⟨scope, inner, hscope, hne, hquote, rfl, rfl⟩
    cases negated with
    | false =>
      have hhead := head?_scopedQuotation hscope (inner ++ ['"'] ++ rest)
      rw [show phraseText false scope inner = scopeText scope ++ '"' :: (inner ++ ['"']) from rfl,
        quotedPhrase?_of_head (by simpa using hhead), hq]
    | true =>
      rw [show phraseText true scope inner ++ rest =
        '-' :: (scopeText scope ++ '"' :: (inner ++ ['"']) ++ rest) from rfl, quotedPhrase?]
      rw [hq]
      rfl

/-! ### The scan as a relation -/

/-- Whether a quoted phrase stands at the start of a text. -/
def StartsQuoted (cs : List Char) : Prop :=
  ∃ token, IsQuotedPhrase token ∧ token <+: cs

/-- A word: at least one character, none of them white space. -/
def IsWord (token : List Char) : Prop :=
  token ≠ [] ∧ ∀ c ∈ token, Text.isBlank c = false

/-- Whether a text is over or goes on with white space. -/
def IsBreak (cs : List Char) : Prop :=
  ∀ c ∈ cs.head?, Text.isBlank c = true

/-- **The scan of a text into tokens.** White space is skipped; then the token is a
quoted phrase where one starts, and elsewhere a word that white space or the end of the
text follows. -/
inductive Scan : List Char → List (List Char) → Prop
  /-- Only white space is left. -/
  | done {gap : List Char} (hgap : Text.allBlank gap = true) : Scan gap []
  /-- A quoted phrase starts behind the white space. -/
  | quoted {gap token rest : List Char} {words : List (List Char)}
      (hgap : Text.allBlank gap = true) (htoken : IsQuotedPhrase token)
      (hrest : Scan rest words) : Scan (gap ++ (token ++ rest)) (token :: words)
  /-- No quoted phrase starts behind the white space. -/
  | word {gap token rest : List Char} {words : List (List Char)}
      (hgap : Text.allBlank gap = true) (htoken : IsWord token) (hbreak : IsBreak rest)
      (hnone : ¬StartsQuoted (token ++ rest)) (hrest : Scan rest words) :
      Scan (gap ++ (token ++ rest)) (token :: words)

theorem quotedPhrase?_eq_none_iff {cs : List Char} :
    quotedPhrase? cs = none ↔ ¬StartsQuoted cs := by
  constructor
  · rintro h ⟨token, htoken, rest, rfl⟩
    rw [quotedPhrase?_eq_some_iff.2 ⟨htoken, rfl⟩] at h
    exact absurd h (by simp)
  · intro h
    cases hq : quotedPhrase? cs with
    | none => rfl
    | some found =>
      obtain ⟨token, rest⟩ := found
      obtain ⟨htoken, hcs⟩ := quotedPhrase?_eq_some_iff.1 hq
      exact absurd ⟨token, htoken, rest, hcs.symm⟩ h

theorem nextToken_of_quoted {token : List Char} (h : IsQuotedPhrase token) (rest : List Char) :
    nextToken (token ++ rest) = (token, rest) := by
  rw [nextToken, quotedPhrase?_eq_some_iff.2 ⟨h, rfl⟩]
  rfl

theorem nextToken_of_word {token rest : List Char} (h : IsWord token) (hbreak : IsBreak rest)
    (hnone : ¬StartsQuoted (token ++ rest)) : nextToken (token ++ rest) = (token, rest) := by
  have hink : ∀ c ∈ token, isInk c = true := fun c hc => by simp [isInk, h.2 c hc]
  have hstop : ∀ c ∈ rest.head?, isInk c = false := fun c hc => by simp [isInk, hbreak c hc]
  rw [nextToken, quotedPhrase?_eq_none_iff.2 hnone, takeWhile_run hink hstop,
    dropWhile_run hink hstop]
  rfl

/-- Where no quoted phrase starts, the next token is a word up to a break. -/
theorem isWord_nextToken {c : Char} {rest : List Char} (hc : Text.isBlank c = false)
    (hnone : quotedPhrase? (c :: rest) = none) :
    IsWord (nextToken (c :: rest)).1 ∧ IsBreak (nextToken (c :: rest)).2 := by
  have hnext : nextToken (c :: rest) =
      ((c :: rest).takeWhile isInk, (c :: rest).dropWhile isInk) := by
    rw [nextToken, hnone]
    rfl
  refine ⟨⟨nextToken_ne_nil hc rest, fun d hd => ?_⟩, fun d hd => ?_⟩
  · rw [hnext] at hd
    simpa [isInk] using List.mem_takeWhile_imp hd
  · rw [hnext] at hd
    simpa [isInk] using head?_dropWhile isInk _ d hd

/-! ### Unfolding the tokens of a text -/

theorem tokens_of_trimLeft_nil {cs : List Char} (h : Text.trimLeft cs = []) : tokens cs = [] := by
  rw [tokens]
  split
  · rfl
  · next heq => rw [h] at heq; exact absurd heq (by simp)

theorem tokens_of_trimLeft_cons {cs rest : List Char} {c : Char}
    (h : Text.trimLeft cs = c :: rest) :
    tokens cs = (nextToken (c :: rest)).1 :: tokens (nextToken (c :: rest)).2 := by
  rw [tokens]
  split
  · next heq => rw [h] at heq; exact absurd heq (by simp)
  · next heq =>
    rw [h] at heq
    obtain ⟨rfl, rfl⟩ := List.cons.inj heq
    rfl

theorem trimLeft_gap {gap : List Char} (h : Text.allBlank gap = true) (cs : List Char) :
    Text.trimLeft (gap ++ cs) = Text.trimLeft cs :=
  List.dropWhile_append_of_pos (List.all_eq_true.1 h)

theorem trimLeft_eq_nil_iff {cs : List Char} : Text.trimLeft cs = [] ↔ Text.allBlank cs = true := by
  rw [Text.trimLeft, List.dropWhile_eq_nil_iff, Text.allBlank, List.all_eq_true]

/-- White space in front of a text adds no token. -/
theorem tokens_gap {gap : List Char} (h : Text.allBlank gap = true) (cs : List Char) :
    tokens (gap ++ cs) = tokens cs := by
  have htrim := trimLeft_gap h cs
  cases hcs : Text.trimLeft cs with
  | nil => rw [tokens_of_trimLeft_nil (htrim.trans hcs), tokens_of_trimLeft_nil hcs]
  | cons c rest => rw [tokens_of_trimLeft_cons (htrim.trans hcs), tokens_of_trimLeft_cons hcs]

/-- White space alone has no tokens. -/
theorem tokens_blank {gap : List Char} (h : Text.allBlank gap = true) : tokens gap = [] :=
  tokens_of_trimLeft_nil (trimLeft_eq_nil_iff.2 h)

/-- A text that starts with a character other than white space starts with a token. -/
theorem tokens_of_head {cs : List Char} {c : Char} (hhead : cs.head? = some c)
    (hc : Text.isBlank c = false) : tokens cs = (nextToken cs).1 :: tokens (nextToken cs).2 := by
  obtain ⟨rest, rfl⟩ : ∃ rest, cs = c :: rest := List.head?_eq_some_iff.1 hhead
  exact tokens_of_trimLeft_cons (by simp [Text.trimLeft, hc])

/-- A quoted phrase starts with a character other than white space. -/
theorem exists_head_of_quoted {token : List Char} (h : IsQuotedPhrase token) :
    ∃ c, token.head? = some c ∧ Text.isBlank c = false := by
  obtain ⟨negated, scope, inner, hscope, -, -, rfl⟩ := h
  have hfront : ∀ c ∈ signText negated ++ scopeText scope ++ ['"'], Text.isBlank c = false :=
    fun c hc => isBlank_of_mem_front negated hscope hc
  have htext : phraseText negated scope inner =
      (signText negated ++ scopeText scope ++ ['"']) ++ (inner ++ ['"']) := by
    simp [phraseText]
  obtain ⟨c, rest, hcons⟩ :=
    List.exists_cons_of_ne_nil (show signText negated ++ scopeText scope ++ ['"'] ≠ [] by simp)
  rw [hcons] at hfront
  exact ⟨c, by rw [htext, hcons]; rfl, hfront c (by simp)⟩

theorem exists_head_of_word {token : List Char} (h : IsWord token) :
    ∃ c, token.head? = some c ∧ Text.isBlank c = false := by
  obtain ⟨c, rest, rfl⟩ := List.exists_cons_of_ne_nil h.1
  exact ⟨c, rfl, h.2 c (by simp)⟩

theorem tokens_of_quoted {token : List Char} (h : IsQuotedPhrase token) (rest : List Char) :
    tokens (token ++ rest) = token :: tokens rest := by
  obtain ⟨c, hhead, hc⟩ := exists_head_of_quoted h
  rw [tokens_of_head (by simp [List.head?_append, hhead]) hc, nextToken_of_quoted h]

theorem tokens_of_word {token rest : List Char} (h : IsWord token) (hbreak : IsBreak rest)
    (hnone : ¬StartsQuoted (token ++ rest)) :
    tokens (token ++ rest) = token :: tokens rest := by
  obtain ⟨c, hhead, hc⟩ := exists_head_of_word h
  rw [tokens_of_head (by simp [List.head?_append, hhead]) hc, nextToken_of_word h hbreak hnone]

/-! ### The scan and the tokens -/

/-- **A scan is unique**: it has the tokens that are computed. -/
theorem Scan.tokens_eq {cs : List Char} {words : List (List Char)} (h : Scan cs words) :
    tokens cs = words := by
  induction h with
  | done hgap => exact tokens_blank hgap
  | quoted hgap htoken _ ih => rw [tokens_gap hgap, tokens_of_quoted htoken, ih]
  | word hgap htoken hbreak hnone _ ih =>
    rw [tokens_gap hgap, tokens_of_word htoken hbreak hnone, ih]

/-- **Every text has a scan**: what is computed is one. -/
theorem scan_tokens (cs : List Char) : Scan cs (tokens cs) := by
  induction cs using tokens.induct with
  | case1 cs htrim =>
    rw [tokens_of_trimLeft_nil htrim]
    exact .done (trimLeft_eq_nil_iff.1 htrim)
  | case2 cs c rest htrim ih =>
    rw [tokens_of_trimLeft_cons htrim]
    have hcs : cs = cs.takeWhile Text.isBlank ++
        ((nextToken (c :: rest)).1 ++ (nextToken (c :: rest)).2) := by
      rw [nextToken_append, ← htrim]
      exact List.takeWhile_append_dropWhile.symm
    have hgap : Text.allBlank (cs.takeWhile Text.isBlank) = true := List.all_takeWhile
    cases hq : quotedPhrase? (c :: rest) with
    | some found =>
      have hnext : nextToken (c :: rest) = found := by rw [nextToken, hq]; rfl
      rw [hnext] at hcs ih ⊢
      rw [hcs]
      exact .quoted hgap (quotedPhrase?_eq_some_iff.1 hq).1 ih
    | none =>
      have hnone : ¬StartsQuoted ((nextToken (c :: rest)).1 ++ (nextToken (c :: rest)).2) := by
        rw [nextToken_append]
        exact quotedPhrase?_eq_none_iff.1 hq
      obtain ⟨hword, hbreak⟩ := isWord_nextToken (isBlank_of_trimLeft htrim) hq
      rw [hcs]
      exact .word hgap hword hbreak hnone ih

/-- **The scan and the tokens agree.** -/
theorem scan_iff {cs : List Char} {words : List (List Char)} : Scan cs words ↔ tokens cs = words :=
  ⟨Scan.tokens_eq, fun h => h ▸ scan_tokens cs⟩

-- a quoted phrase ends at its second mark, and no phrase starts inside a word
example : (tokens "-a:\"b c\"d e\"f g\" \"\"".toList).map String.ofList =
    ["-a:\"b c\"", "d", "e\"f", "g\"", "\"\""] := by
  decide +kernel

/-! ### What a scan leaves where

A scan loses nothing: between its tokens there is white space only. In a token white
space can only stand where a quotation protects it. -/

/-- Tokens with a gap in front of each, and a last gap behind them. -/
def spread (gaps words : List (List Char)) (last : List Char) : List Char :=
  (List.zipWith (· ++ ·) gaps words).flatten ++ last

@[simp] theorem spread_nil (gaps : List (List Char)) (last : List Char) :
    spread gaps [] last = last := by
  simp [spread]

@[simp] theorem spread_cons (gap word : List Char) (gaps words : List (List Char))
    (last : List Char) :
    spread (gap :: gaps) (word :: words) last = gap ++ (word ++ spread gaps words last) := by
  simp [spread]

/-- **Nothing but white space is lost.** -/
theorem Scan.exists_spread {cs : List Char} {words : List (List Char)} (h : Scan cs words) :
    ∃ (gaps : List (List Char)) (last : List Char), gaps.length = words.length ∧
      (∀ gap ∈ gaps, Text.allBlank gap = true) ∧ Text.allBlank last = true ∧
      cs = spread gaps words last := by
  induction h with
  | @done gap hgap => exact ⟨[], gap, rfl, by simp, hgap, by simp⟩
  | @quoted gap token _ _ hgap _ _ ih | @word gap token _ _ hgap _ _ _ _ ih =>
    obtain ⟨gaps, last, hlength, hblank, hlast, rfl⟩ := ih
    exact ⟨gap :: gaps, last, by simp [hlength], by simpa using ⟨hgap, hblank⟩, hlast, by simp⟩

/-- A token is a quoted phrase or a word. -/
theorem Scan.mem {cs token : List Char} {words : List (List Char)} (h : Scan cs words)
    (hmem : token ∈ words) : IsQuotedPhrase token ∨ IsWord token := by
  induction h with
  | done => exact absurd hmem (by simp)
  | quoted _ htoken _ ih =>
    rcases List.mem_cons.1 hmem with rfl | hmem
    · exact .inl htoken
    · exact ih hmem
  | word _ htoken _ _ _ ih =>
    rcases List.mem_cons.1 hmem with rfl | hmem
    · exact .inr htoken
    · exact ih hmem

theorem isQuotedPhrase_ne_nil {token : List Char} (h : IsQuotedPhrase token) : token ≠ [] := by
  rintro rfl
  obtain ⟨c, hhead, -⟩ := exists_head_of_quoted h
  exact absurd hhead (by simp)

theorem tokens_eq_nil_iff {cs : List Char} : tokens cs = [] ↔ Text.allBlank cs = true := by
  refine ⟨fun h => ?_, tokens_blank⟩
  cases hcs : Text.trimLeft cs with
  | nil => exact trimLeft_eq_nil_iff.1 hcs
  | cons c rest => exact absurd (tokens_of_trimLeft_cons hcs) (by simp [h])

/-- A character that a part of a text does not have stands behind that part. -/
theorem eq_append_of_notMem {front tail before after : List Char} {c : Char}
    (h : front ++ tail = before ++ c :: after) (hc : c ∉ front) :
    ∃ i, before = front ++ i ∧ tail = i ++ c :: after := by
  rcases List.append_eq_append_iff.1 h with ⟨i, hbefore, htail⟩ | ⟨i, hfront, hafter⟩
  · exact ⟨i, hbefore, htail⟩
  · cases i with
    | nil => exact ⟨[], by simpa using hfront.symm, by simpa using hafter.symm⟩
    | cons d i =>
      obtain ⟨rfl, -⟩ := List.cons.inj hafter
      exact absurd (by simp [hfront]) hc

/-- **White space in a quoted phrase stands between the two quotation marks.** -/
theorem blank_of_phraseText {negated : Bool} {scope : Option (List Char)}
    {inner before after : List Char} {c : Char} (hs : IsScope scope)
    (h : phraseText negated scope inner = before ++ c :: after) (hc : Text.isBlank c = true) :
    ∃ i j, inner = i ++ c :: j ∧ before = signText negated ++ (scopeText scope ++ '"' :: i) ∧
      after = j ++ ['"'] := by
  have hfront : c ∉ signText negated ++ scopeText scope ++ ['"'] := by
    intro hmem
    exact absurd (isBlank_of_mem_front negated hs hmem) (by simp [hc])
  have htext : signText negated ++ scopeText scope ++ ['"'] ++ (inner ++ ['"']) =
      before ++ c :: after := by
    rw [← h]
    simp [phraseText]
  obtain ⟨i, rfl, htail⟩ := eq_append_of_notMem htext hfront
  -- the closing mark is not white space, so something is left behind the character
  rcases List.eq_nil_or_concat after with rfl | ⟨j, d, rfl⟩
  · obtain ⟨-, hlast⟩ := List.append_inj' htail rfl
    obtain rfl : '"' = c := by simpa using hlast
    exact absurd Text.isBlank_marks.1 (by simp [hc])
  · have hsplit : inner ++ ['"'] = (i ++ c :: j) ++ [d] := by rw [htail]; simp
    obtain ⟨hinner, hlast⟩ := List.append_inj' hsplit rfl
    obtain rfl : '"' = d := by simpa using hlast
    exact ⟨i, j, hinner, by simp, by simp⟩

/-! ### Text behind a break

Whether a quoted phrase starts in a text can depend on what is written behind it, but
only if that text has a quotation mark and the first part leaves a quotation open. -/

theorem append_cons_inj {front other a b : List Char} {c : Char} (hfront : c ∉ front)
    (hother : c ∉ other) (h : front ++ c :: a = other ++ c :: b) : front = other ∧ a = b := by
  obtain ⟨i, rfl, htail⟩ := eq_append_of_notMem h hfront
  cases i with
  | nil => exact ⟨by simp, by simpa using htail⟩
  | cons d i =>
    obtain ⟨rfl, -⟩ := List.cons.inj htail
    exact absurd (by simp) hother

/-- A quoted phrase at the start of a text stays there in front of more text. -/
theorem StartsQuoted.append {cs : List Char} (h : StartsQuoted cs) (rest : List Char) :
    StartsQuoted (cs ++ rest) := by
  obtain ⟨token, htoken, hprefix⟩ := h
  exact ⟨token, htoken, hprefix.trans (List.prefix_append cs rest)⟩

/-- **What text behind a break can change.** If a quoted phrase starts where none did,
then the text up to the break opens a quotation, and the text behind closes it. -/
theorem startsQuoted_append {cs rest : List Char} (hbreak : IsBreak rest)
    (h : StartsQuoted (cs ++ rest)) :
    StartsQuoted cs ∨ '"' ∈ rest ∧ ∃ negated scope inner, IsScope scope ∧ '"' ∉ inner ∧
      cs = signText negated ++ (scopeText scope ++ '"' :: inner) := by
  obtain ⟨token, htoken, more, htext⟩ := h
  rcases List.append_eq_append_iff.1 htext with ⟨behind, hcs, -⟩ | ⟨behind, hphrase, htail⟩
  · exact .inl ⟨token, htoken, behind, hcs.symm⟩
  · cases behind with
    | nil => exact .inl ⟨token, htoken, [], by simpa using hphrase⟩
    | cons c behind =>
      have hc : Text.isBlank c = true := hbreak c (by simp [htail])
      obtain ⟨negated, scope, inner, hscope, -, hquote, rfl⟩ := htoken
      obtain ⟨i, j, rfl, hbefore, rfl⟩ := blank_of_phraseText hscope hphrase hc
      exact .inr ⟨by simp [htail], negated, scope, i, hscope, fun hi => hquote (by simp [hi]),
        hbefore⟩

/-- No quoted phrase starts at a word without a quotation mark. -/
theorem not_startsQuoted_of_notMem {token rest : List Char} (hbreak : IsBreak rest)
    (hquote : '"' ∉ token) : ¬StartsQuoted (token ++ rest) := by
  intro h
  rcases startsQuoted_append hbreak h with ⟨_, ⟨_, _, _, _, _, _, rfl⟩, more, rfl⟩ |
    ⟨-, _, _, _, _, _, rfl⟩
  all_goals exact hquote (by simp [phraseText])

/-- No quoted phrase starts at a pair of quotation marks with nothing between them. -/
theorem not_startsQuoted_of_empty {negated : Bool} {scope : Option (List Char)}
    {rest : List Char} (hs : IsScope scope) (hbreak : IsBreak rest) :
    ¬StartsQuoted (phraseText negated scope [] ++ rest) := by
  have hempty : phraseText negated scope [] =
      (signText negated ++ scopeText scope) ++ '"' :: ['"'] := by
    simp [phraseText]
  intro h
  rcases startsQuoted_append hbreak h with ⟨_, ⟨_, _, inner, hs', hne, -, rfl⟩, more, hmore⟩ |
    ⟨-, _, _, inner, hs', hquote, hopen⟩
  · rw [hempty, phraseText, ← List.append_assoc, List.append_assoc, List.cons_append] at hmore
    obtain ⟨-, hinner⟩ :=
      append_cons_inj (quote_notMem_front _ hs') (quote_notMem_front negated hs) hmore
    obtain ⟨d, inner, rfl⟩ := List.exists_cons_of_ne_nil hne
    simp at hinner
  · rw [hempty, ← List.append_assoc] at hopen
    obtain ⟨-, hinner⟩ :=
      append_cons_inj (quote_notMem_front negated hs) (quote_notMem_front _ hs') hopen
    exact hquote (by simp [← hinner])

/-! ### Whole tokens -/

/-- Whether a token stays whole: whatever follows behind a break, it is read as one
token. -/
def IsWhole (token : List Char) : Prop :=
  ∀ rest, IsBreak rest → tokens (token ++ rest) = token :: tokens rest

theorem isWhole_of_quoted {token : List Char} (h : IsQuotedPhrase token) : IsWhole token :=
  fun rest _ => tokens_of_quoted h rest

theorem isWhole_of_notMem {token : List Char} (h : IsWord token) (hquote : '"' ∉ token) :
    IsWhole token :=
  fun _ hbreak => tokens_of_word h hbreak (not_startsQuoted_of_notMem hbreak hquote)

theorem isWhole_of_empty {negated : Bool} {scope : Option (List Char)} (hs : IsScope scope) :
    IsWhole (phraseText negated scope []) := by
  have hword : IsWord (phraseText negated scope []) := by
    refine ⟨by simp [phraseText], fun c hc => isBlank_of_mem_front negated hs ?_⟩
    simp [phraseText] at hc ⊢
    exact hc
  exact fun _ hbreak => tokens_of_word hword hbreak (not_startsQuoted_of_empty hs hbreak)

/-- The bar between groups stays whole. -/
theorem isWhole_bar : IsWhole ['|'] :=
  isWhole_of_notMem ⟨by simp, by simpa using Text.isBlank_marks.2.2.1⟩ (by simp)

theorem isBreak_nil : IsBreak [] := by
  intro c hc
  exact absurd hc (by simp)

theorem isBreak_space (cs : List Char) : IsBreak (' ' :: cs) := by
  rintro c ⟨⟩
  exact Text.isBlank_space

theorem tokens_space (cs : List Char) : tokens (' ' :: cs) = tokens cs :=
  tokens_gap (show Text.allBlank [' '] = true from rfl) cs

/-! ### The tokens of a query -/

theorem map_toList_tokenize (search : String) :
    (tokenize search).map String.toList = tokens search.toList := by
  simp [tokenize, Function.comp_def]

theorem scan_of_tokenize {search : String} {words : List String} (h : tokenize search = words) :
    Scan search.toList (words.map String.toList) := by
  rw [scan_iff, ← h, map_toList_tokenize]

theorem tokenize_of_scan {cs : List Char} {words : List String}
    (h : Scan cs (words.map String.toList)) : tokenize (String.ofList cs) = words := by
  rw [tokenize, String.toList_ofList, h.tokens_eq]
  simp [Function.comp_def]

/-- **The tokens of a query are its scan.** Every query has exactly one scan, and its
tokens are that scan. So no token is empty; the query is its tokens in their order with
white space in front of each and behind the last; white space in a token stands between
the only two quotation marks of it; and only white space has no tokens. -/
theorem tokenize_scan (search : String) :
    (∃! words, Scan search.toList words) ∧
      Scan search.toList ((tokenize search).map String.toList) ∧
      (∀ token ∈ tokenize search, token ≠ "") ∧
      (∃ (gaps : List (List Char)) (last : List Char), gaps.length = (tokenize search).length ∧
        (∀ gap ∈ gaps, Text.allBlank gap = true) ∧ Text.allBlank last = true ∧
        search.toList = spread gaps ((tokenize search).map String.toList) last) ∧
      (∀ token ∈ tokenize search, ∀ before c after, token.toList = before ++ c :: after →
        Text.isBlank c = true → ∃ negated scope i j, IsScope scope ∧ '"' ∉ i ∧ '"' ∉ j ∧
          before = signText negated ++ (scopeText scope ++ '"' :: i) ∧ after = j ++ ['"']) ∧
      (tokenize search = [] ↔ Text.allBlank search.toList = true) := by
  have hscan := scan_tokens search.toList
  have hshape : ∀ token ∈ tokenize search,
      IsQuotedPhrase token.toList ∨ IsWord token.toList := by
    intro token htoken
    refine hscan.mem ?_
    rw [← map_toList_tokenize]
    exact List.mem_map_of_mem htoken
  rw [map_toList_tokenize]
  refine ⟨⟨_, hscan, fun words h => h.tokens_eq.symm⟩, hscan, ?_, ?_, ?_, ?_⟩
  · rintro token htoken rfl
    rcases hshape _ htoken with h | h
    · exact isQuotedPhrase_ne_nil h rfl
    · exact h.1 rfl
  · have hlength : (tokenize search).length = (tokens search.toList).length := by simp [tokenize]
    rw [hlength]
    exact hscan.exists_spread
  · intro token htoken before c after htext hc
    rcases hshape token htoken with h | h
    · obtain ⟨negated, scope, inner, hscope, -, hquote, hphrase⟩ := h
      obtain ⟨i, j, rfl, hbefore, hafter⟩ := blank_of_phraseText hscope (hphrase ▸ htext) hc
      exact ⟨negated, scope, i, j, hscope, fun hi => hquote (by simp [hi]),
        fun hj => hquote (by simp [hj]), hbefore, hafter⟩
    · exact absurd (h.2 c (by simp [htext])) (by simp [hc])
  · rw [← tokens_eq_nil_iff, tokenize, List.map_eq_nil_iff]

end RecordQuery.Query
