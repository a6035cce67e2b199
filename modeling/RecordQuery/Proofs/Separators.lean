import RecordQuery.Proofs.Spacing

/-!
# Where separators stand

A token of a query stands between two texts that are scanned by themselves: the tokens in
front of it are those of the first text, and the tokens behind it those of the second
(`RecordQuery.Query.Scan.exists_place`). There is only one such place
(`RecordQuery.Query.StandsBetween.unique`), because the first text has as many characters
other than white space as the tokens in front.

A separator is a word, so there is a break behind it. In front of it there is a break as
well, with one exception: a quoted phrase ends at its closing mark, whatever follows, and the
next token starts right there. A bar that touches the closing mark of a quoted phrase is thus
a separator like any other, although a bar that touches a word is part of the word
(`RecordQuery.Query.separator_bounds`).
-/

namespace RecordQuery.Query

/-! ### The text in front of a token -/

/-- Whether a text is empty or ends in white space. -/
def EndsBlank (cs : List Char) : Prop :=
  ∀ c ∈ cs.getLast?, Text.isBlank c = true

/-- Whether a text ends in the last of some tokens, and that token is a quoted phrase. -/
def EndsQuoted (words : List (List Char)) (cs : List Char) : Prop :=
  ∃ front quoted text, words = front ++ [quoted] ∧ IsQuotedPhrase quoted ∧ cs = text ++ quoted

theorem endsBlank_gap {gap : List Char} (h : Text.allBlank gap = true) : EndsBlank gap :=
  fun c hc => List.all_eq_true.1 h c (List.mem_of_mem_getLast? hc)

/-- A quoted phrase ends in a quotation mark. -/
theorem EndsQuoted.not_endsBlank {words : List (List Char)} {cs : List Char}
    (h : EndsQuoted words cs) : ¬EndsBlank cs := by
  obtain ⟨front, _, text, -, ⟨negated, scope, inner, -, -, -, rfl⟩, rfl⟩ := h
  have htext : text ++ phraseText negated scope inner =
      text ++ (signText negated ++ (scopeText scope ++ '"' :: inner)) ++ ['"'] := by
    simp [phraseText]
  intro hblank
  rw [htext] at hblank
  exact absurd (hblank '"' List.getLast?_concat) (by simp [Text.isBlank_marks.1])

/-- What a text ends in does not change with another token in front of it. -/
theorem ends_append {words : List (List Char)} {cs : List Char} (hne : cs ≠ [])
    (h : EndsBlank cs ∨ EndsQuoted words cs) (front word : List Char) :
    EndsBlank (front ++ cs) ∨ EndsQuoted (word :: words) (front ++ cs) := by
  rcases h with hblank | ⟨others, quoted, text, rfl, hquoted, rfl⟩
  · refine .inl fun c hc => hblank c ?_
    rwa [List.getLast?_append_of_ne_nil _ hne] at hc
  · exact .inr ⟨word :: others, quoted, front ++ text, rfl, hquoted, by simp⟩

theorem isBreak_of_append {cs rest : List Char} (hne : cs ≠ []) (h : IsBreak (cs ++ rest)) :
    IsBreak cs := by
  obtain ⟨c, cs, rfl⟩ := List.exists_cons_of_ne_nil hne
  rintro d ⟨⟩
  exact h c rfl

/-! ### The place of a token -/

theorem exists_head_of_token {token : List Char} (h : IsQuotedPhrase token ∨ IsWord token) :
    ∃ c, token.head? = some c ∧ Text.isBlank c = false :=
  h.elim exists_head_of_quoted exists_head_of_word

/-- **Every token has a place**: a text in front of it and a text behind it, each of which is
scanned as it is there. The text in front ends in white space or in a quoted phrase, and there
is a break behind a word. -/
theorem Scan.exists_place {cs token : List Char} {before after : List (List Char)}
    (h : Scan cs (before ++ token :: after)) :
    ∃ left right, cs = left ++ (token ++ right) ∧ Scan left before ∧ Scan right after ∧
      (EndsBlank left ∨ EndsQuoted before left) ∧
      (IsQuotedPhrase token ∨ IsWord token ∧ IsBreak right) := by
  induction before generalizing cs with
  | nil =>
    cases h with
    | @quoted gap _ rest _ hgap htoken hrest =>
      exact ⟨gap, rest, rfl, .done hgap, hrest, .inl (endsBlank_gap hgap), .inl htoken⟩
    | @word gap _ rest _ hgap htoken hbreak _ hrest =>
      exact ⟨gap, rest, rfl, .done hgap, hrest, .inl (endsBlank_gap hgap), .inr ⟨htoken, hbreak⟩⟩
  | cons word before ih =>
    cases h with
    | @quoted gap _ rest _ hgap hword hrest =>
      obtain ⟨left, right, rfl, hleft, hright, hends, htoken⟩ := ih hrest
      refine ⟨gap ++ word ++ left, right, by simp, ?_, hright, ?_, htoken⟩
      · rw [List.append_assoc]
        exact .quoted hgap hword hleft
      · by_cases hnil : left = []
        · -- the token touches the quoted phrase, which is then the only token in front
          subst hnil
          obtain rfl : before = [] := hleft.tokens_eq.symm.trans (tokens_blank rfl)
          exact .inr ⟨[], word, gap, rfl, hword, by simp⟩
        · exact ends_append hnil hends _ word
    | @word gap _ rest _ hgap hword hbreak hnone hrest =>
      obtain ⟨left, right, rfl, hleft, hright, hends, htoken⟩ := ih hrest
      have hne : left ≠ [] := by
        rintro rfl
        obtain ⟨c, hhead, hc⟩ := exists_head_of_token (htoken.imp_right And.left)
        exact absurd (hbreak c (by simp [List.head?_append, hhead])) (by simp [hc])
      refine ⟨gap ++ word ++ left, right, by simp, ?_, hright, ends_append hne hends _ word, htoken⟩
      rw [List.append_assoc]
      refine .word hgap hword (isBreak_of_append hne hbreak) (fun hstart => hnone ?_) hleft
      rw [← List.append_assoc]
      exact hstart.append (token ++ right)

/-- A text has as many characters other than white space as its tokens. -/
theorem Scan.countP_isInk {cs : List Char} {words : List (List Char)} (h : Scan cs words) :
    cs.countP isInk = words.flatten.countP isInk := by
  have hgap : ∀ gap, Text.allBlank gap = true → gap.countP isInk = 0 := by
    intro gap hgap
    rw [List.countP_eq_zero]
    intro c hc
    simp [isInk, List.all_eq_true.1 hgap c hc]
  induction h with
  | done h => simpa using hgap _ h
  | quoted h _ _ ih => simp [hgap _ h, ih]
  | word h _ _ _ _ ih => simp [hgap _ h, ih]

/-- A longer text with the same tokens goes on with white space. -/
theorem isBreak_of_scan_append {left more : List Char} {words : List (List Char)}
    (h : Scan left words) (hmore : Scan (left ++ more) words) : IsBreak more := by
  intro c hc
  obtain ⟨more, rfl⟩ := List.head?_eq_some_iff.1 hc
  by_contra hblank
  have hcount := hmore.countP_isInk.trans h.countP_isInk.symm
  rw [List.countP_append, List.countP_cons_of_pos (by simpa [isInk] using hblank)] at hcount
  omega

/-- **A token has only one place.** -/
theorem place_unique {left right left' right' token : List Char} {before : List (List Char)}
    (hleft : Scan left before) (hleft' : Scan left' before)
    (htoken : IsQuotedPhrase token ∨ IsWord token)
    (h : left ++ (token ++ right) = left' ++ (token ++ right')) :
    left' = left ∧ right' = right := by
  -- the longer of the two texts in front would go on with white space, and with the token
  have hpart : ∀ {one other : List Char} {more : List Char}, Scan one before →
      Scan (one ++ more) before → ∀ {behind : List Char}, token ++ other = more ++ behind →
      more = [] := by
    intro one other more hone hmore behind heq
    obtain ⟨c, hhead, hc⟩ := exists_head_of_token htoken
    cases more with
    | nil => rfl
    | cons d more =>
      have hd : Text.isBlank d = true := isBreak_of_scan_append hone hmore d rfl
      have hsame : some c = some d := by
        simpa [List.head?_append, hhead] using congrArg List.head? heq
      exact absurd hd (by simp [← Option.some.inj hsame, hc])
  rcases List.append_eq_append_iff.1 h with ⟨more, rfl, hbehind⟩ | ⟨more, rfl, hbehind⟩
  · obtain rfl := hpart hleft hleft' hbehind
    simpa using hbehind.symm
  · obtain rfl := hpart hleft' hleft hbehind
    simpa using hbehind

/-! ### Tokens of a query -/

/-- **Whether a token of a query stands between two texts**: the query is the first text, the
token and the second, and the tokens in front of it and behind it are those of the two. -/
structure StandsBetween (search : String) (before : List String) (token : String)
    (after : List String) (left right : String) : Prop where
  /-- It is a token of the query. -/
  tokenize_eq : tokenize search = before ++ token :: after
  /-- The texts and the token are the query. -/
  search_eq : search = left ++ token ++ right
  /-- The tokens in front. -/
  tokenize_left : tokenize left = before
  /-- The tokens behind. -/
  tokenize_right : tokenize right = after

section Places

variable {search token : String} {before after : List String}

/-- A token of a query stands between two texts of which the first ends in white space or in a
quoted phrase, and the second starts with a break if the token is a word. -/
theorem exists_standsBetween (h : tokenize search = before ++ token :: after) :
    ∃ left right, StandsBetween search before token after left right ∧
      (EndsBlank left.toList ∨ EndsQuoted (before.map String.toList) left.toList) ∧
      (IsQuotedPhrase token.toList ∨ IsWord token.toList ∧ IsBreak right.toList) := by
  have hscan := scan_of_tokenize h
  rw [List.map_append, List.map_cons] at hscan
  obtain ⟨left, right, hcs, hleft, hright, hends, htoken⟩ := hscan.exists_place
  refine ⟨String.ofList left, String.ofList right, ⟨h, ?_, tokenize_of_scan hleft,
    tokenize_of_scan hright⟩, ?_⟩
  · apply String.toList_inj.1
    simp [hcs]
  · rw [String.toList_ofList, String.toList_ofList]
    exact ⟨hends, htoken⟩

/-- **A token of a query stands between two texts only.** -/
theorem StandsBetween.unique {left right left' right' : String}
    (h : StandsBetween search before token after left right)
    (h' : StandsBetween search before token after left' right') :
    left' = left ∧ right' = right := by
  have htoken : IsQuotedPhrase token.toList ∨ IsWord token.toList :=
    (scan_of_tokenize h.tokenize_eq).mem (by simp)
  have htext : left.toList ++ (token.toList ++ right.toList) =
      left'.toList ++ (token.toList ++ right'.toList) := by
    have heq := congrArg String.toList (h.search_eq.symm.trans h'.search_eq)
    simpa using heq
  obtain ⟨hleft, hright⟩ := place_unique (scan_of_tokenize h.tokenize_left)
    (scan_of_tokenize h'.tokenize_left) htoken htext
  exact ⟨String.toList_inj.1 hleft, String.toList_inj.1 hright⟩

end Places

/-! ### Separators of a query -/

/-- The separator is not a quoted phrase. -/
theorem not_isQuotedPhrase_bar : ¬IsQuotedPhrase groupSeparator.toList := by
  rintro ⟨negated, scope, inner, -, -, -, h⟩
  have hquote : '"' ∈ groupSeparator.toList := by
    rw [h]
    simp [phraseText]
  exact absurd hquote (by decide)

/-- **A bar behind a quoted phrase** is a token of its own. -/
theorem tokenize_quoted_bar {quoted right : String} (hquoted : IsQuotedPhrase quoted.toList)
    (hbreak : IsBreak right.toList) :
    tokenize (quoted ++ "|" ++ right) = quoted :: groupSeparator :: tokenize right := by
  have htext : (quoted ++ "|" ++ right).toList = quoted.toList ++ (['|'] ++ right.toList) := by
    simp
  rw [tokenize, htext, tokens_of_quoted hquoted, isWhole_bar _ hbreak]
  simp [tokenize, groupSeparator]

section Separators

variable {search left right : String} {before after : List String}

/-- The one place of a separator has a break behind it, and white space or a quoted phrase in
front of it. -/
theorem StandsBetween.bounds (h : StandsBetween search before groupSeparator after left right) :
    (EndsBlank left.toList ∨ EndsQuoted (before.map String.toList) left.toList) ∧
      IsBreak right.toList := by
  obtain ⟨left', right', hplace, hends, htoken⟩ := exists_standsBetween h.tokenize_eq
  obtain ⟨rfl, rfl⟩ := h.unique hplace
  exact ⟨hends, (htoken.resolve_left not_isQuotedPhrase_bar).2⟩

/-- **There is white space in front of a separator, or it touches a quoted phrase.** -/
theorem StandsBetween.endsBlank_iff
    (h : StandsBetween search before groupSeparator after left right) :
    EndsBlank left.toList ↔ ¬EndsQuoted (before.map String.toList) left.toList :=
  ⟨fun hblank hquoted => hquoted.not_endsBlank hblank, h.bounds.1.resolve_right⟩

end Separators

/-- **What bounds a separator.** Every separator of a query ends the groups in front of it and
starts those behind it. It stands at one place only, and there a break follows it; the text in
front of it is over or ends in white space, unless it ends in a quoted phrase that is a token.
So all separators of a query stand alone exactly if none of them touches a quoted phrase. Behind
a query that is a quoted phrase, every bar in front of a break is a separator that does. -/
theorem separator_bounds (search : String) :
    (∀ before after, tokenize search = before ++ groupSeparator :: after →
      groups search = groupsBetween before ++ groupsBetween after ∧
        ∃ left right, StandsBetween search before groupSeparator after left right ∧
          (∀ left' right', StandsBetween search before groupSeparator after left' right' →
            left' = left ∧ right' = right) ∧
          IsBreak right.toList ∧
          (EndsBlank left.toList ↔ ¬EndsQuoted (before.map String.toList) left.toList)) ∧
      ((∀ before after left right, StandsBetween search before groupSeparator after left right →
          EndsBlank left.toList ∧ IsBreak right.toList) ↔
        ∀ before after left right, StandsBetween search before groupSeparator after left right →
          ¬EndsQuoted (before.map String.toList) left.toList) ∧
      (IsQuotedPhrase search.toList → ∀ right : String, IsBreak right.toList →
        tokenize (search ++ "|" ++ right) = search :: groupSeparator :: tokenize right) := by
  refine ⟨fun before after h => ⟨?_, ?_⟩, ⟨fun halone before after left right hplace => ?_,
    fun hnone before after left right hplace => ?_⟩, fun h right => tokenize_quoted_bar h⟩
  · rw [groups, h, splitGroups_of_ne_nil (by simp), groupsBetween_append]
  · obtain ⟨left, right, hplace, -⟩ := exists_standsBetween h
    exact ⟨left, right, hplace, fun left' right' => hplace.unique, hplace.bounds.2,
      hplace.endsBlank_iff⟩
  · exact hplace.endsBlank_iff.1 (halone before after left right hplace).1
  · exact ⟨hplace.endsBlank_iff.2 (hnone before after left right hplace), hplace.bounds.2⟩

/-- A separator that touches the phrase in front of it, and one between white space. -/
theorem separator_bounds_touching :
    tokenize "\"a b\"| c |" = ["\"a b\""] ++ groupSeparator :: ["c", "|"] ∧
      groups "\"a b\"| c |" = [["\"a b\""], ["c"], []] ∧
      (∃ left right,
        StandsBetween "\"a b\"| c |" ["\"a b\"", "|", "c"] groupSeparator [] left right ∧
          IsBreak right.toList) ∧
      IsQuotedPhrase "\"a b\"".toList ∧ IsBreak " c |".toList ∧
      tokenize ("\"a b\"" ++ "|" ++ " c |") = "\"a b\"" :: groupSeparator :: tokenize " c |" := by
  have htokens : tokenize "\"a b\"| c |" = ["\"a b\"", "|", "c", "|"] := by decide +kernel
  have hquoted : IsQuotedPhrase "\"a b\"".toList :=
    ⟨false, none, "a b".toList, isScope_none, by decide, by decide, by decide⟩
  have hbreak : IsBreak " c |".toList := isBreak_space _
  obtain ⟨hbounds, -, -⟩ := separator_bounds "\"a b\"| c |"
  obtain ⟨-, -, hbar⟩ := separator_bounds "\"a b\""
  obtain ⟨hgroups, -⟩ := hbounds ["\"a b\""] ["c", "|"] htokens
  obtain ⟨-, left, right, hplace, -, hright, -⟩ := hbounds ["\"a b\"", "|", "c"] [] htokens
  exact ⟨htokens, hgroups.trans (by decide), ⟨left, right, hplace, hright⟩, hquoted, hbreak,
    hbar hquoted _ hbreak⟩

/-- **Not every separator stands alone**: a bar that touches the quoted phrase in front of it
starts a group, and a record is found that has only the phrase behind it. -/
theorem not_separator_alone :
    ¬(∀ search before after left right,
        StandsBetween search before groupSeparator after left right →
          EndsBlank left.toList ∧ IsBreak right.toList) ∧
      groups "\"a\"| b" = [["\"a\""], ["b"]] ∧
      (Filter.new "\"a\"| b" ⟨["f"]⟩ ⟨false⟩).test
        ([("f", .string "b")] : Json.Entries) = true := by
  refine ⟨fun halone => ?_, by decide +kernel, by decide +kernel⟩
  have hplace : StandsBetween "\"a\"| b" ["\"a\""] groupSeparator ["b"] "\"a\"" " b" :=
    ⟨by decide +kernel, by decide, by decide +kernel, by decide +kernel⟩
  obtain ⟨hblank, -⟩ := halone _ _ _ _ _ hplace
  exact absurd (hblank '"' rfl) (by simp [Text.isBlank_marks.1])

end RecordQuery.Query
