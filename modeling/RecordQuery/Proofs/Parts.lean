import RecordQuery.Proofs.Names
import RecordQuery.Proofs.Scan
import RecordQuery.Query.Phrase

/-!
# The parts of a token

A token is a sign, a scope and a body, one behind the other
(`RecordQuery.Query.Parts.Divide`). Any text is divided in exactly one way, whether a query
has it as a token or not, and the phrase in it is read part by part
(`RecordQuery.Query.Parts.Divide.parse_eq`).

A sign and a scope are looked for twice: by the scan in front of a quotation, and by the
phrase in the token that the scan has cut off. The two agree, because what decides is the
quotation mark. It is neither a sign nor a field character, so the parts in front of it are
the same whatever is written behind it (`RecordQuery.Query.Parts.divide_quotation`).
-/

namespace RecordQuery.Query

/-! ### Signs and scopes -/

namespace Phrase

theorem splitSign_of_head {cs : List Char} (h : cs.head? ≠ some '-') :
    splitSign cs = (false, cs) := by
  unfold splitSign
  split
  · exact absurd rfl h
  · rfl

/-- The sign of a token and the rest of it are the token. -/
theorem signText_splitSign (cs : List Char) :
    signText (splitSign cs).1 ++ (splitSign cs).2 = cs := by
  unfold splitSign
  split <;> rfl

theorem splitSign_fst_iff {cs : List Char} :
    (splitSign cs).1 = true ↔ cs.head? = some '-' := by
  refine ⟨fun h => ?_, fun h => ?_⟩
  · by_contra hhead
    rw [splitSign_of_head hhead] at h
    exact Bool.false_ne_true h
  · cases cs with
    | nil => exact absurd h (by simp)
    | cons c cs =>
      obtain rfl : c = '-' := by simpa using h
      rfl

end Phrase

theorem scope?_eq_none_iff {cs : List Char} :
    scope? cs = none ↔ ∀ names rest, IsScope (some names) → cs ≠ names ++ ':' :: rest := by
  rw [Option.eq_none_iff_forall_ne_some]
  constructor
  · intro h names rest hscope hcs
    exact h (names, rest) (scope?_eq_some_iff.2 ⟨hscope, hcs⟩)
  · rintro h ⟨names, rest⟩ hfound
    obtain ⟨hscope, hcs⟩ := scope?_eq_some_iff.1 hfound
    exact h names rest hscope hcs

/-- A sign is told from what has none. -/
theorem negated_iff_head? {unsigned : List Char} (h : unsigned.head? ≠ some '-')
    (negated : Bool) :
    negated = true ↔ (signText negated ++ unsigned).head? = some '-' := by
  cases negated with
  | true => exact ⟨fun _ => rfl, fun _ => rfl⟩
  | false => exact ⟨fun hfalse => absurd hfalse Bool.false_ne_true, fun hhead => absurd hhead h⟩

/-! ### Dividing a token -/

/-- A sign, a scope without its colon, and a body. -/
@[ext]
structure Parts where
  /-- Whether there is a minus sign. -/
  negated : Bool
  /-- The names of the scope, if there is one. -/
  scope : Option (List Char)
  /-- What is behind them. -/
  body : List Char

namespace Parts

/-- The parts one behind the other. -/
def text (parts : Parts) : List Char :=
  signText parts.negated ++ (scopeText parts.scope ++ parts.body)

/-- **Parts divide a token** if they are the token, the sign is there when the token starts
with one, and the scope is there when at least one field character and a colon follow the
sign. -/
structure Divide (parts : Parts) (token : List Char) : Prop where
  /-- The parts are the whole token. -/
  text_eq : parts.text = token
  /-- A token that starts with a minus sign has a sign. -/
  negated_iff : parts.negated = true ↔ token.head? = some '-'
  /-- A scope has at least one character, and only field characters. -/
  isScope : IsScope parts.scope
  /-- No scope is left in the body of a token that has none. -/
  scope_of_none : parts.scope = none →
    ∀ names rest, IsScope (some names) → parts.body ≠ names ++ ':' :: rest

/-- **The fields**: the names of the scope, its commas turned into bars and the text cut at
its bars, or else the default fields. -/
def fields (parts : Parts) (defaults : FieldList) : FieldList :=
  match parts.scope with
  | some names =>
    ⟨(Text.pieces (· == '|') (names.map fun c => if c = ',' then '|' else c)).map String.ofList⟩
  | none => defaults

/-- **The pattern**: the body without its quotation marks and its bars. -/
def pattern (parts : Parts) : String :=
  String.ofList (parts.body.filter fun c => c ≠ '"' ∧ c ≠ '|')

variable {parts other : Parts} {token : List Char}

theorem Divide.splitSign_eq (h : parts.Divide token) :
    Phrase.splitSign token = (parts.negated, scopeText parts.scope ++ parts.body) := by
  have htoken := h.text_eq
  cases hn : parts.negated with
  | true =>
    rw [text, hn] at htoken
    rw [← htoken]
    rfl
  | false =>
    rw [text, hn] at htoken
    have hhead : token.head? ≠ some '-' := fun hhead =>
      Bool.false_ne_true (hn.symm.trans (h.negated_iff.2 hhead))
    rw [Phrase.splitSign_of_head hhead, ← htoken]
    rfl

/-- The scope that is read behind the sign is that of the parts. -/
theorem Divide.scope?_eq (h : parts.Divide token) :
    scope? (scopeText parts.scope ++ parts.body) =
      parts.scope.map fun names => (names, parts.body) := by
  have hscope := h.isScope
  cases hs : parts.scope with
  | none => exact scope?_eq_none_iff.2 (h.scope_of_none hs)
  | some names =>
    rw [hs] at hscope
    exact scope?_eq_some_iff.2 ⟨hscope, by simp [scopeText]⟩

/-- **A token is divided in one way.** -/
theorem Divide.unique (h : parts.Divide token) (hother : other.Divide token) :
    parts = other := by
  have hsplit := h.splitSign_eq.symm.trans hother.splitSign_eq
  obtain ⟨hnegated, hunsigned⟩ := Prod.mk.inj hsplit
  have hscopes : parts.scope.map (fun names => (names, parts.body)) =
      other.scope.map fun names => (names, other.body) := by
    rw [← h.scope?_eq, hunsigned, hother.scope?_eq]
  have hscope : parts.scope = other.scope := by
    simpa [Function.comp_def] using congrArg (Option.map Prod.fst) hscopes
  rw [hscope] at hunsigned
  exact Parts.ext hnegated hscope (List.append_cancel_left hunsigned)

/-- **Every text can be divided.** -/
theorem exists_divide (token : List Char) : ∃ parts : Parts, parts.Divide token := by
  have htoken := Phrase.signText_splitSign token
  have hnegated : (Phrase.splitSign token).1 = true ↔ token.head? = some '-' :=
    Phrase.splitSign_fst_iff
  rcases hsign : Phrase.splitSign token with ⟨negated, unsigned⟩
  rw [hsign] at htoken hnegated
  cases hs : scope? unsigned with
  | none =>
    exact ⟨⟨negated, none, unsigned⟩, htoken, hnegated, isScope_none,
      fun _ => scope?_eq_none_iff.1 hs⟩
  | some found =>
    obtain ⟨hscope, hunsigned⟩ := scope?_eq_some_iff.1 hs
    refine ⟨⟨negated, some found.1, found.2⟩, ?_, hnegated, hscope, fun h => absurd h (by simp)⟩
    rw [← htoken, hunsigned]
    simp [text, scopeText]

/-- **What is in front of a quotation** is its sign and its scope, whatever is behind the
quotation mark. -/
theorem divide_quotation {scope : Option (List Char)} (negated : Bool) (hs : IsScope scope)
    (quoted : List Char) :
    Divide ⟨negated, scope, '"' :: quoted⟩
      (signText negated ++ (scopeText scope ++ '"' :: quoted)) := by
  refine ⟨rfl, negated_iff_head? (head?_scopedQuotation hs quoted) negated, hs,
    fun _ => scope?_eq_none_iff.1 (scope?_eq_none ?_)⟩
  rintro c ⟨⟩
  decide

/-- What starts with a scope has it. -/
theorem divide_scope {names : List Char} (negated : Bool) (hs : IsScope (some names))
    (body : List Char) :
    Divide ⟨negated, some names, body⟩ (signText negated ++ (names ++ ':' :: body)) := by
  refine ⟨?_, negated_iff_head? (head?_scope hs _) negated, hs, fun h => absurd h (by simp)⟩
  simp [text, scopeText]

/-- A text without a sign and without a colon is its own body. -/
theorem divide_plain {body : List Char} (hsign : body.head? ≠ some '-') (hcolon : ':' ∉ body) :
    Divide ⟨false, none, body⟩ body := by
  refine ⟨rfl, negated_iff_head? hsign false, isScope_none, ?_⟩
  rintro - names rest - rfl
  exact hcolon (by simp)

/-! ### Reading a divided token -/

theorem Divide.body_eq (h : parts.Divide token) :
    Phrase.body (Phrase.splitSign token).2 = parts.body := by
  rw [h.splitSign_eq, Phrase.body, h.scope?_eq]
  cases hs : parts.scope <;> rfl

theorem patternOf_body (parts : Parts) : Phrase.patternOf parts.body = parts.pattern := by
  refine congrArg String.ofList (List.filter_congr fun c _ => ?_)
  simp [Phrase.isDropped, beq_eq_decide]

theorem Divide.scopeFields_eq (h : parts.Divide token) (defaults : FieldList) :
    Phrase.scopeFields (Phrase.splitSign token).2 defaults = parts.fields defaults := by
  rw [h.splitSign_eq, Phrase.scopeFields, h.scope?_eq, fields]
  cases parts.scope with
  | none => rfl
  | some names => exact FieldList.parse_eq_pieces names

/-- **A token is read part by part.** -/
theorem Divide.parse_eq {token : String} (h : parts.Divide token.toList) (defaults : FieldList) :
    Phrase.parse token defaults = ⟨parts.fields defaults, parts.pattern, parts.negated⟩ := by
  rw [Phrase.parse, h.scopeFields_eq, h.body_eq, patternOf_body, h.splitSign_eq]

end Parts

/-! ### Quoted phrases -/

/-- A quoted phrase has two quotation marks. -/
theorem count_quote_phraseText {negated : Bool} {scope : Option (List Char)} {inner : List Char}
    (hs : IsScope scope) (hquote : '"' ∉ inner) :
    (phraseText negated scope inner).count '"' = 2 := by
  have hfront := List.count_eq_zero_of_not_mem (quote_notMem_front negated hs)
  have hinner := List.count_eq_zero_of_not_mem hquote
  rw [phraseText, ← List.append_assoc, List.count_append, hfront, List.count_cons_self,
    List.count_append, hinner]
  rfl

/-- Nothing is wrong with an even number of quotation marks. -/
theorem unbalancedQuotes_notMem_warnings {token : String} (h : token.toList.count '"' % 2 = 0)
    (phrase : String) : .unbalancedQuotes phrase ∉ Phrase.warnings token := by
  rw [Phrase.warnings, h]
  simp

/-- The pattern of a quotation is what is between its marks, without bars. -/
theorem pattern_quotation (negated : Bool) (scope : Option (List Char)) {inner : List Char}
    (hquote : '"' ∉ inner) :
    Parts.pattern ⟨negated, scope, '"' :: (inner ++ ['"'])⟩ =
      String.ofList (inner.filter (· ≠ '|')) := by
  have hinner : inner.filter (fun c => decide (c ≠ '"' ∧ c ≠ '|')) =
      inner.filter fun c => decide (c ≠ '|') := by
    refine List.filter_congr fun c hc => ?_
    have hne : c ≠ '"' := fun h => hquote (h ▸ hc)
    simp [hne]
  rw [Parts.pattern, List.filter_cons_of_neg (by simp), List.filter_append, hinner,
    List.filter_cons_of_neg (by simp), List.filter_nil, List.append_nil]

/-- **How a token is read.** Any text is divided into a sign, a scope and a body in exactly
one way, and its phrase has the fields of the scope, or the default fields if there is none,
the body without quotation marks and bars as its pattern, and the sign. Where the scan finds a
quoted phrase in a text, the sign and the scope are those the scan has read there: they divide
the whole rest of the text as well. The pattern of a quoted phrase is what is between its two
quotation marks, without bars, and nothing is wrong with its quotation marks. -/
theorem parse_by_parts (token : String) (defaults : FieldList) :
    (∃! parts : Parts, parts.Divide token.toList) ∧
      (∀ parts : Parts, parts.Divide token.toList →
        Phrase.parse token defaults =
          ⟨parts.fields defaults, parts.pattern, parts.negated⟩) ∧
      ∀ text rest, quotedPhrase? text = some (token.toList, rest) →
        ∃ negated scope inner, inner ≠ [] ∧ '"' ∉ inner ∧
          Parts.Divide ⟨negated, scope, '"' :: (inner ++ ['"'])⟩ token.toList ∧
          Parts.Divide ⟨negated, scope, '"' :: (inner ++ '"' :: rest)⟩ text ∧
          scope? (Phrase.splitSign text).2 =
            scope.map (fun names => (names, '"' :: (inner ++ '"' :: rest))) ∧
          (Phrase.parse token defaults).pattern = String.ofList (inner.filter (· ≠ '|')) ∧
          ∀ phrase, .unbalancedQuotes phrase ∉ Phrase.warnings token := by
  refine ⟨?_, fun parts h => h.parse_eq defaults, fun text rest hfound => ?_⟩
  · obtain ⟨parts, h⟩ := Parts.exists_divide token.toList
    exact ⟨parts, h, fun other hother => hother.unique h⟩
  · obtain ⟨⟨negated, scope, inner, hscope, hne, hquote, htoken⟩, htext⟩ :=
      quotedPhrase?_eq_some_iff.1 hfound
    have hdivide : Parts.Divide ⟨negated, scope, '"' :: (inner ++ ['"'])⟩ token.toList := by
      rw [htoken]
      exact Parts.divide_quotation negated hscope (inner ++ ['"'])
    -- the scan has read the same parts, the rest of the text behind the closing mark
    have hscan : Parts.Divide ⟨negated, scope, '"' :: (inner ++ '"' :: rest)⟩ text := by
      have hsplit :
          text = signText negated ++ (scopeText scope ++ '"' :: (inner ++ '"' :: rest)) := by
        rw [htext, htoken]
        simp [phraseText]
      rw [hsplit]
      exact Parts.divide_quotation negated hscope (inner ++ '"' :: rest)
    refine ⟨negated, scope, inner, hne, hquote, hdivide, hscan, ?_, ?_, ?_⟩
    · rw [hscan.splitSign_eq]
      exact hscan.scope?_eq
    · rw [hdivide.parse_eq]
      exact pattern_quotation negated scope hquote
    · refine unbalancedQuotes_notMem_warnings ?_
      rw [htoken, count_quote_phraseText hscope hquote]

/-- A negated quoted phrase. Its scope has both separators and both field characters outside
ASCII, and a bar and a colon stand between its quotation marks. -/
def foreignPhrase : String := "-\u017f,\u212a|c:\"x | y:z\""

/-- In front of another quotation the phrase is found whole, and read by its parts. -/
theorem parse_by_parts_foreign :
    Parts.Divide ⟨true, some ['\u017f', ',', '\u212a', '|', 'c'], "\"x | y:z\"".toList⟩
        foreignPhrase.toList ∧
      quotedPhrase? (foreignPhrase ++ "w\" |").toList =
        some (foreignPhrase.toList, "w\" |".toList) ∧
      Phrase.parse foreignPhrase ⟨["d"]⟩ =
        ⟨⟨["\u017f", "\u212a", "c"]⟩, "x  y:z", true⟩ ∧
      ∀ phrase, .unbalancedQuotes phrase ∉ Phrase.warnings foreignPhrase := by
  obtain ⟨-, hparse, hquoted⟩ := parse_by_parts foreignPhrase ⟨["d"]⟩
  have hscope : IsScope (some ['\u017f', ',', '\u212a', '|', 'c']) :=
    isScope_some.2 ⟨by simp, List.all_eq_true.1 (by decide)⟩
  have hdivide : Parts.Divide
      ⟨true, some ['\u017f', ',', '\u212a', '|', 'c'], "\"x | y:z\"".toList⟩
      foreignPhrase.toList :=
    Parts.divide_quotation true hscope "x | y:z\"".toList
  have hfound : quotedPhrase? (foreignPhrase ++ "w\" |").toList =
      some (foreignPhrase.toList, "w\" |".toList) := by decide +kernel
  obtain ⟨-, -, -, -, -, -, -, -, -, hwarnings⟩ := hquoted _ _ hfound
  exact ⟨hdivide, hfound, (hparse _ hdivide).trans (by decide +kernel), hwarnings⟩

end RecordQuery.Query
