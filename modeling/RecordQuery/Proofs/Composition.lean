import RecordQuery.Proofs.Groups
import RecordQuery.Proofs.Scan
import RecordQuery.Query.Filter

/-!
# Queries side by side

Two queries put next to each other, with white space or with a bar between them, are
read like the two alone, provided that the first does not leave a quotation open which
the second would close (`RecordQuery.Query.IsApart`). The proviso is checked on either
query by itself: every token of the first has an even number of quotation marks, or the
second has no quotation mark.

The scans of the two texts are put together token by token
(`RecordQuery.Query.Scan.append`). The one token that is in danger is a word at which a
quotation is opened and not closed: text behind it might close the quotation and make it
a quoted phrase. Such a word has exactly one quotation mark
(`RecordQuery.Query.count_of_open`), which is what the proviso excludes. Groups,
warnings and verdicts follow from the tokens.
-/

namespace RecordQuery.Query

/-! ### Putting scans together -/

/-- **Whether two queries stand apart**: the second cannot close a quotation that the
first leaves open. -/
def IsApart (s t : String) : Prop :=
  (∀ token ∈ tokenize s, token.toList.count '"' % 2 = 0) ∨ '"' ∉ t.toList

theorem isBreak_gap {gap : List Char} (hgap : Text.allBlank gap = true) (hne : gap ≠ [])
    (t : List Char) : IsBreak (gap ++ t) := by
  obtain ⟨c, gap, rfl⟩ := List.exists_cons_of_ne_nil hne
  rintro d ⟨⟩
  exact List.all_eq_true.1 hgap c (by simp)

theorem isBreak_append {rest more : List Char} (h : IsBreak rest) (hmore : IsBreak more) :
    IsBreak (rest ++ more) := by
  cases rest with
  | nil => exact hmore
  | cons c rest =>
    rintro d ⟨⟩
    exact h c rfl

/-- White space has no quotation mark. -/
theorem quote_notMem_gap {gap : List Char} (hgap : Text.allBlank gap = true) : '"' ∉ gap := by
  intro hmem
  exact absurd (List.all_eq_true.1 hgap '"' hmem) (by decide)

/-- **A word that opens a quotation** in a text has no other quotation mark. -/
theorem count_of_open {token rest inner : List Char} {negated : Bool}
    {scope : Option (List Char)} (hbreak : IsBreak rest) (hscope : IsScope scope)
    (hquote : '"' ∉ inner)
    (h : token ++ rest = signText negated ++ (scopeText scope ++ '"' :: inner)) :
    token.count '"' = 1 := by
  have hfront : (signText negated ++ scopeText scope ++ ['"']).count '"' = 1 := by
    rw [List.count_append, List.count_eq_zero_of_not_mem (quote_notMem_front negated hscope)]
    rfl
  have htext : token ++ rest = (signText negated ++ scopeText scope ++ ['"']) ++ inner := by
    simpa using h
  rcases List.append_eq_append_iff.1 htext with ⟨i, hi, hrest⟩ | ⟨i, rfl, rfl⟩
  · cases i with
    | nil =>
      rw [List.append_nil] at hi
      rw [← hi, hfront]
    | cons c i =>
      -- the word would end in front of the quotation, where there is no white space
      have hc : Text.isBlank c = true := hbreak c (by simp [hrest])
      have hmem : c ∈ signText negated ++ scopeText scope ++ ['"'] := by
        rw [hi]
        simp
      exact absurd (isBlank_of_mem_front negated hscope hmem) (by simp [hc])
  · rw [List.count_append, hfront,
      List.count_eq_zero_of_not_mem fun hmem => hquote (by simp [hmem])]

/-- White space in front of a text does not change its scan. -/
theorem Scan.gap {gap cs : List Char} {words : List (List Char)}
    (hgap : Text.allBlank gap = true) (h : Scan cs words) : Scan (gap ++ cs) words := by
  rw [scan_iff, tokens_gap hgap]
  exact scan_iff.1 h

/-- **Scans are put together** at white space, unless the first text leaves a quotation
open and the second has a mark to close it. -/
theorem Scan.append {s t gap : List Char} {words others : List (List Char)}
    (hs : Scan s words) (ht : Scan t others) (hgap : Text.allBlank gap = true) (hne : gap ≠ [])
    (hquotes : (∀ token ∈ words, token.count '"' % 2 = 0) ∨ '"' ∉ t) :
    Scan (s ++ (gap ++ t)) (words ++ others) := by
  induction hs with
  | done hfirst => exact (ht.gap hgap).gap hfirst
  | quoted hfirst htoken _ ih =>
    rw [List.append_assoc, List.append_assoc]
    exact .quoted hfirst htoken (ih (hquotes.imp_left fun h w hw => h w (by simp [hw])))
  | @word first token rest words hfirst htoken hbreak hnone _ ih =>
    have hrest := ih (hquotes.imp_left fun h w hw => h w (by simp [hw]))
    have hbehind := isBreak_gap hgap hne t
    rw [List.append_assoc, List.append_assoc]
    refine .word hfirst htoken (isBreak_append hbreak hbehind) ?_ hrest
    rw [← List.append_assoc]
    intro hstart
    rcases startsQuoted_append hbehind hstart with h | ⟨hmem, negated, scope, inner, hsc, hq, h⟩
    · exact hnone h
    · rcases hquotes with heven | hno
      · have hone := count_of_open hbreak hsc hq h
        have htwo := heven token (by simp)
        omega
      · exact (List.mem_append.1 hmem).elim (quote_notMem_gap hgap) hno

/-! ### Tokens and groups -/

/-- A word without quotation marks is a query of one token. -/
theorem groups_of_word {token : String} (hword : IsWord token.toList)
    (hquote : '"' ∉ token.toList) (hbar : token ≠ groupSeparator) : groups token = [[token]] := by
  have htokens : tokens token.toList = [token.toList] := by
    have hwhole := isWhole_of_notMem hword hquote [] isBreak_nil
    have hnil : tokens [] = [] := tokens_eq_nil_iff.2 rfl
    rwa [List.append_nil, hnil] at hwhole
  have htokenize : tokenize token = [token] := by
    rw [tokenize, htokens, List.map_singleton, String.ofList_toList]
  rw [groups, htokenize, splitGroups_of_ne_nil (by simp),
    groupsBetween_of_notMem (by simpa using hbar.symm)]

section Apart

variable {s t : String}

/-- **The tokens of two queries** with white space between them. -/
theorem tokenize_append (h : IsApart s t) {gap : String}
    (hgap : Text.allBlank gap.toList = true) (hne : gap ≠ "") :
    tokenize (s ++ gap ++ t) = tokenize s ++ tokenize t := by
  have hquotes : (∀ token ∈ tokens s.toList, token.count '"' % 2 = 0) ∨ '"' ∉ t.toList := by
    refine h.imp_left fun heven token htoken => ?_
    rw [← map_toList_tokenize] at htoken
    obtain ⟨word, hword, rfl⟩ := List.mem_map.1 htoken
    exact heven word hword
  have hscan := (scan_tokens s.toList).append (scan_tokens t.toList) hgap
    (fun he => hne (String.toList_eq_nil_iff.1 he)) hquotes
  rw [tokenize, String.toList_append, String.toList_append, List.append_assoc, hscan.tokens_eq,
    List.map_append]
  rfl

/-- A bar in front of white space is a token of its own. -/
theorem tokenize_bar (t : String) : tokenize ("| " ++ t) = groupSeparator :: tokenize t := by
  have htext : ("| " ++ t).toList = ['|'] ++ ' ' :: t.toList := by simp
  rw [tokenize, htext, isWhole_bar _ (isBreak_space _), tokens_space]
  rfl

/-- **The tokens of two queries** with a bar between them. -/
theorem tokenize_append_bar (h : IsApart s t) :
    tokenize (s ++ " | " ++ t) = tokenize s ++ groupSeparator :: tokenize t := by
  have hbar : IsApart s ("| " ++ t) := h.imp_right fun hno => by simpa using hno
  have htext : s ++ " | " ++ t = s ++ " " ++ ("| " ++ t) := by
    apply String.toList_inj.1
    simp
  rw [htext, tokenize_append hbar rfl (by decide), tokenize_bar]

variable (hs : ∃ c ∈ s.toList, Text.isBlank c = false) (ht : ∃ c ∈ t.toList, Text.isBlank c = false)
include hs

theorem tokenize_ne_nil : tokenize s ≠ [] := by
  obtain ⟨c, hmem, hc⟩ := hs
  rw [tokenize, Ne, List.map_eq_nil_iff, tokens_eq_nil_iff]
  intro hblank
  exact absurd (List.all_eq_true.1 hblank c hmem) (by simp [hc])

include ht

/-- **The groups of two queries** with a bar between them. -/
theorem groups_append_bar (h : IsApart s t) :
    groups (s ++ " | " ++ t) = groups s ++ groups t := by
  rw [groups, tokenize_append_bar h, splitGroups_of_ne_nil (by simp), groupsBetween_append,
    groups, groups, splitGroups_of_ne_nil (tokenize_ne_nil hs),
    splitGroups_of_ne_nil (tokenize_ne_nil ht)]

end Apart

/-! ### Warnings -/

/-- A warning with the place of its group, if it has one, raised. -/
def Warning.raise (n : Nat) : Warning → Warning
  | .emptyGroup index => .emptyGroup (n + index)
  | warning => warning

section Warnings

variable (defaults : FieldList) (caseSensitive : Bool)

variable {defaults caseSensitive} in
/-- **What a token is warned about.** -/
theorem mem_tokenWarnings_iff {token : String} {warning : Warning} :
    warning ∈ tokenWarnings defaults caseSensitive token ↔
      (token.toList.count '"' % 2 = 1 ∧ warning = .unbalancedQuotes token) ∨
      ('|' ∈ Phrase.body (Phrase.splitSign token.toList).2 ∧ warning = .strayPipe token) ∨
      ((Phrase.parse token defaults).pattern.isEmpty = true ∧ warning = .emptyPattern token) ∨
      ∃ refused,
        Glob.compile? (Phrase.parse token defaults).pattern caseSensitive = .error refused ∧
        warning = .invalidPattern refused.pattern refused.reason := by
  have hrefusal : warning ∈ (Phrase.parse token defaults).refusal caseSensitive ↔
      ∃ refused,
        Glob.compile? (Phrase.parse token defaults).pattern caseSensitive = .error refused ∧
        warning = .invalidPattern refused.pattern refused.reason := by
    rw [Phrase.refusal]
    split
    · next h => simp [h]
    · next h => simp [h]
  rw [tokenWarnings, List.mem_append, hrefusal, Phrase.warnings, List.mem_append, List.mem_append,
    List.mem_ite_nil_right, List.mem_ite_nil_right, List.mem_ite_nil_right, List.mem_singleton,
    List.mem_singleton, List.mem_singleton, or_assoc, or_assoc]
  rfl

variable {defaults caseSensitive} in
/-- No warning about a token has a place. -/
theorem raise_of_mem {token : String} {warning : Warning}
    (h : warning ∈ tokenWarnings defaults caseSensitive token) (n : Nat) :
    warning.raise n = warning := by
  rcases mem_tokenWarnings_iff.1 h with ⟨-, rfl⟩ | ⟨-, rfl⟩ | ⟨-, rfl⟩ | ⟨_, -, rfl⟩
  all_goals rfl

theorem groupWarnings_add (group : List String) (n index : Nat) :
    groupWarnings defaults caseSensitive group (n + index) =
      (groupWarnings defaults caseSensitive group index).map (Warning.raise n) := by
  rw [groupWarnings, groupWarnings]
  split
  · rfl
  · rw [List.map_flatMap]
    refine List.flatMap_congr fun token _ => ?_
    have hid : ∀ warning ∈ tokenWarnings defaults caseSensitive token, warning.raise n = warning :=
      fun warning h => raise_of_mem h n
    rw [List.map_congr_left hid, List.map_id']

/-- The warnings about some groups, the first of which has a given place. -/
def warningsFrom (groups : List (List String)) (n : Nat) : List Warning :=
  (groups.zipIdx n).flatMap fun group => groupWarnings defaults caseSensitive group.1 group.2

theorem warningsFrom_eq (groups : List (List String)) (n : Nat) :
    warningsFrom defaults caseSensitive groups n =
      (warningsFrom defaults caseSensitive groups 0).map (Warning.raise n) := by
  rw [warningsFrom, warningsFrom, List.zipIdx_eq_map_add, List.flatMap_map, List.map_flatMap]
  simp only [groupWarnings_add]

theorem warnings_compile (search : String) :
    (compile search defaults caseSensitive).warnings =
      warningsFrom defaults caseSensitive (groups search) 0 := rfl

theorem warningsFrom_append (groups others : List (List String)) :
    warningsFrom defaults caseSensitive (groups ++ others) 0 =
      warningsFrom defaults caseSensitive groups 0 ++
        (warningsFrom defaults caseSensitive others 0).map (Warning.raise groups.length) := by
  rw [← warningsFrom_eq, warningsFrom, List.zipIdx_append, List.flatMap_append, Nat.zero_add]
  rfl

end Warnings

/-! ### Unbalanced quotes -/

/-- The tokens of the groups are the tokens that do not separate groups. -/
theorem mem_flatten_groups_iff {search token : String} :
    token ∈ (groups search).flatten ↔ token ∈ tokenize search ∧ token ≠ groupSeparator := by
  rw [groups, flatten_splitGroups]
  simp

theorem mem_groups {search : String} {group : List String} {token : String}
    (hgroup : group ∈ groups search) (htoken : token ∈ group) :
    token ∈ tokenize search ∧ token ≠ groupSeparator :=
  mem_flatten_groups_iff.1 (List.mem_flatten_of_mem hgroup htoken)

/-- A warning without a place is about one of the tokens that are not separators. -/
theorem mem_warnings_iff {search : String} {defaults : FieldList} {caseSensitive : Bool}
    {warning : Warning} (hplace : ∀ index, warning ≠ .emptyGroup index) :
    warning ∈ (compile search defaults caseSensitive).warnings ↔
      ∃ token ∈ tokenize search, token ≠ groupSeparator ∧
        warning ∈ tokenWarnings defaults caseSensitive token := by
  have hgroup : ∀ group index, warning ∈ groupWarnings defaults caseSensitive group index ↔
      ∃ token ∈ group, warning ∈ tokenWarnings defaults caseSensitive token := by
    intro group index
    rw [groupWarnings]
    split
    · next h => simp [List.isEmpty_iff.1 h, hplace index]
    · exact List.mem_flatMap
  constructor
  · intro h
    obtain ⟨⟨group, index⟩, hmem, h⟩ := List.mem_flatMap.1 h
    obtain ⟨token, htoken, h⟩ := (hgroup group index).1 h
    obtain ⟨hword, hne⟩ := mem_groups (List.fst_mem_of_mem_zipIdx hmem) htoken
    exact ⟨token, hword, hne, h⟩
  · rintro ⟨token, hword, hne, h⟩
    obtain ⟨group, hmem, htoken⟩ :=
      List.mem_flatten.1 (mem_flatten_groups_iff.2 ⟨hword, hne⟩)
    obtain ⟨index, hindex⟩ := List.getElem?_of_mem hmem
    exact List.mem_flatMap.2 ⟨(group, index), List.mk_mem_zipIdx_iff_getElem?.2 hindex,
      (hgroup group index).2 ⟨token, htoken, h⟩⟩

/-- **The warnings about unbalanced quotes**: one for every token with an odd number of
quotation marks. -/
theorem unbalancedQuotes_mem_iff (search phrase : String) (defaults : FieldList)
    (caseSensitive : Bool) :
    .unbalancedQuotes phrase ∈ (compile search defaults caseSensitive).warnings ↔
      phrase ∈ tokenize search ∧ phrase.toList.count '"' % 2 = 1 := by
  have htoken : ∀ token, .unbalancedQuotes phrase ∈ tokenWarnings defaults caseSensitive token ↔
      phrase = token ∧ token.toList.count '"' % 2 = 1 := by
    intro token
    rw [mem_tokenWarnings_iff]
    simp [and_comm]
  rw [mem_warnings_iff (by simp)]
  constructor
  · rintro ⟨token, hword, -, h⟩
    obtain ⟨rfl, hodd⟩ := (htoken token).1 h
    exact ⟨hword, hodd⟩
  · rintro ⟨hword, hodd⟩
    refine ⟨phrase, hword, ?_, (htoken phrase).2 ⟨rfl, hodd⟩⟩
    rintro rfl
    exact absurd hodd (by decide)

/-- **No warning about unbalanced quotes** means that every token has an even number of
quotation marks. -/
theorem forall_even_iff (search : String) (defaults : FieldList) (caseSensitive : Bool) :
    (∀ token ∈ tokenize search, token.toList.count '"' % 2 = 0) ↔
      ∀ phrase, .unbalancedQuotes phrase ∉ (compile search defaults caseSensitive).warnings := by
  constructor
  · intro heven phrase hmem
    obtain ⟨hword, hodd⟩ := (unbalancedQuotes_mem_iff search phrase _ _).1 hmem
    have htwo := heven phrase hword
    omega
  · intro hnone token hword
    by_contra hodd
    exact hnone token ((unbalancedQuotes_mem_iff search token _ _).2 ⟨hword, by omega⟩)

/-! ### Verdicts -/

section Verdicts

variable {ρ : Type} [Record ρ] (defaults : FieldList) (options : Options) (record : ρ)

/-- A query is satisfied if one of its groups is. -/
theorem test_new (search : String) :
    (Filter.new search defaults options).test record =
      (groups search).any fun group =>
        (groupTree defaults options.caseSensitive group).holds record := by
  rw [Filter.test, Filter.tree_new, compile, Tree.holds_any, List.any_map]
  rfl

/-- A group is satisfied if all of its phrases are. -/
theorem holds_groupTree (caseSensitive : Bool) (group : List String) :
    (groupTree defaults caseSensitive group).holds record =
      group.all fun token => ((Phrase.parse token defaults).tree caseSensitive).holds record := by
  rw [groupTree, Tree.holds_all, List.all_map]
  rfl

/-- A query without separators is satisfied if all of its phrases are. -/
theorem test_of_notMem {search : String} (hne : tokenize search ≠ [])
    (hsep : groupSeparator ∉ tokenize search) :
    (Filter.new search defaults options).test record =
      (tokenize search).all fun token =>
        ((Phrase.parse token defaults).tree options.caseSensitive).holds record := by
  rw [test_new, groups, splitGroups_of_ne_nil hne, groupsBetween_of_notMem hsep, List.any_cons,
    List.any_nil, Bool.or_false, holds_groupTree]

/-- **Two queries without separators** are satisfied next to each other if each is. -/
theorem test_append_space {s t : String} (hs : ∃ c ∈ s.toList, Text.isBlank c = false)
    (ht : ∃ c ∈ t.toList, Text.isBlank c = false) (h : IsApart s t)
    (hsep : groupSeparator ∉ tokenize s) (hsep' : groupSeparator ∉ tokenize t) :
    (Filter.new (s ++ " " ++ t) defaults options).test record =
      ((Filter.new s defaults options).test record &&
        (Filter.new t defaults options).test record) := by
  have hboth : tokenize (s ++ " " ++ t) = tokenize s ++ tokenize t :=
    tokenize_append h rfl (by decide)
  have hne : tokenize (s ++ " " ++ t) ≠ [] := by
    rw [hboth]
    exact List.append_ne_nil_of_left_ne_nil (tokenize_ne_nil hs) _
  have hno : groupSeparator ∉ tokenize (s ++ " " ++ t) := by
    rw [hboth]
    exact fun hmem => (List.mem_append.1 hmem).elim hsep hsep'
  rw [test_of_notMem _ _ _ hne hno, test_of_notMem _ _ _ (tokenize_ne_nil hs) hsep,
    test_of_notMem _ _ _ (tokenize_ne_nil ht) hsep', hboth, List.all_append]

end Verdicts

/-! ### Composing queries -/

/-- **Queries compose.** Let neither of two queries be white space only, and let the
second not close a quotation that the first leaves open. With white space between them,
their tokens follow one another. With a bar between them, so do their groups and their
warnings, the places of the empty groups of the second raised by the number of groups of
the first, and a record satisfies the whole if it satisfies one of the two. If neither
has a separator, a record satisfies both next to each other if it satisfies each. That
every token of a query has an even number of quotation marks means that compiling it
warns about none. -/
theorem compile_append {s t : String} (hs : ∃ c ∈ s.toList, Text.isBlank c = false)
    (ht : ∃ c ∈ t.toList, Text.isBlank c = false) (h : IsApart s t) (defaults : FieldList)
    (options : Options) :
    (∀ gap : String, Text.allBlank gap.toList = true → gap ≠ "" →
        tokenize (s ++ gap ++ t) = tokenize s ++ tokenize t) ∧
      (∃ first second : List Tree,
        (compile s defaults options.caseSensitive).tree = .any first ∧
        (compile t defaults options.caseSensitive).tree = .any second ∧
        (compile (s ++ " | " ++ t) defaults options.caseSensitive).tree = .any (first ++ second) ∧
        (compile (s ++ " | " ++ t) defaults options.caseSensitive).warnings =
          (compile s defaults options.caseSensitive).warnings ++
            (compile t defaults options.caseSensitive).warnings.map
              (Warning.raise first.length)) ∧
      (∀ {ρ : Type} [Record ρ] (record : ρ),
        (Filter.new (s ++ " | " ++ t) defaults options).test record =
          ((Filter.new s defaults options).test record ||
            (Filter.new t defaults options).test record)) ∧
      (groupSeparator ∉ tokenize s → groupSeparator ∉ tokenize t →
        ∀ {ρ : Type} [Record ρ] (record : ρ),
          (Filter.new (s ++ " " ++ t) defaults options).test record =
            ((Filter.new s defaults options).test record &&
              (Filter.new t defaults options).test record)) ∧
      ((∀ token ∈ tokenize s, token.toList.count '"' % 2 = 0) ↔
        ∀ phrase, .unbalancedQuotes phrase ∉
          (compile s defaults options.caseSensitive).warnings) := by
  have hgroups := groups_append_bar hs ht h
  refine ⟨fun gap hgap hne => tokenize_append h hgap hne, ⟨_, _, rfl, rfl, ?_, ?_⟩, ?_, ?_, ?_⟩
  · rw [compile, hgroups, List.map_append]
  · rw [warnings_compile, warnings_compile, warnings_compile, hgroups, warningsFrom_append,
      List.length_map]
  · intro ρ _ record
    rw [test_new, test_new, test_new, hgroups, List.any_append]
  · intro hsep hsep' ρ _ record
    exact test_append_space _ _ _ hs ht h hsep hsep'
  · exact forall_even_iff s defaults options.caseSensitive

/-- The second of two queries may leave a quotation open, and both may have empty
groups. -/
theorem compile_append_open :
    (∃ c ∈ "a:\"b | c\" |".toList, Text.isBlank c = false) ∧
      (∃ c ∈ "| \"d -e".toList, Text.isBlank c = false) ∧
      IsApart "a:\"b | c\" |" "| \"d -e" ∧
      tokenize ("a:\"b | c\" |" ++ "\n" ++ "| \"d -e") =
        ["a:\"b | c\"", "|", "|", "\"d", "-e"] ∧
      ∃ first second : List Tree,
        (compile ("a:\"b | c\" |" ++ " | " ++ "| \"d -e") ⟨["f"]⟩ true).tree =
          .any (first ++ second) ∧ first.length = 2 ∧ second.length = 2 := by
  have hs : ∃ c ∈ "a:\"b | c\" |".toList, Text.isBlank c = false := ⟨'a', by simp, rfl⟩
  have ht : ∃ c ∈ "| \"d -e".toList, Text.isBlank c = false := ⟨'|', by simp, rfl⟩
  have hapart : IsApart "a:\"b | c\" |" "| \"d -e" := .inl (by decide +kernel)
  obtain ⟨htokens, ⟨first, second, hfirst, hsecond, htree, -⟩, -⟩ :=
    compile_append hs ht hapart ⟨["f"]⟩ ⟨true⟩
  refine ⟨hs, ht, hapart, (htokens "\n" rfl (by decide)).trans (by decide +kernel), first, second,
    htree, ?_, ?_⟩
  · obtain rfl := Tree.any.inj hfirst
    rw [List.length_map]
    decide +kernel
  · obtain rfl := Tree.any.inj hsecond
    rw [List.length_map]
    decide +kernel

end RecordQuery.Query
