import RecordQuery.Proofs.Groups
import RecordQuery.Proofs.Names
import RecordQuery.Proofs.Parts
import RecordQuery.Proofs.Scan
import RecordQuery.Query.Compile

/-!
# Writing a query down

A *wording* (`RecordQuery.Query.Wording`) is a phrase that can be written as a token: a
sign, the names of a scope with the separators that are to stand between them, and a
pattern, which goes between quotation marks. Groups of wordings are written with spaces
between phrases and bars between groups (`RecordQuery.Query.queryText`), and compiling
the text gives the conditions of the wordings back, in their order
(`RecordQuery.Query.tree_compile_queryText`).

Two things make this work. A token can be *whole*
(`RecordQuery.Query.IsWhole`): no break behind it lets it be read as anything else,
whatever follows; wordings are, although one with an empty pattern is not a quoted
phrase to the scan but a word. And in a whole token nothing of the pattern can be taken
for a sign, a scope or a mark, because the quotation mark in front of it is neither.
-/

namespace RecordQuery.Query

/-! ### Wordings -/

/-- Whether a character may stand in a field name: one of a scope that does not separate
names. -/
def isNameChar (c : Char) : Bool :=
  c.isAlphanum || c == '_' || c == '\u017f' || c == '\u212a'

/-- A scope as it is written: names, and in front of each but the first a separator. -/
structure Scope where
  /-- The first name. -/
  first : List Char
  /-- The names after it, each with the separator in front of it. -/
  others : List (Char × List Char)
  /-- The first name can be written. -/
  isNameChar_first : ∀ c ∈ first, isNameChar c = true
  /-- So can the names after it and the separators. -/
  isNameChar_others : ∀ other ∈ others, FieldList.isSeparator other.1 = true ∧
    ∀ c ∈ other.2, isNameChar c = true
  /-- The names with bars between them are not the empty text. -/
  text_ne : FieldList.text ⟨(first :: others.map Prod.snd).map String.ofList⟩ ≠ ""

/-- The names of a scope. -/
def Scope.fields (scope : Scope) : FieldList :=
  ⟨(scope.first :: scope.others.map Prod.snd).map String.ofList⟩

/-- The scope as it is written, without its colon. -/
def Scope.text (scope : Scope) : List Char :=
  spell scope.first scope.others

/-- **A phrase that can be written**, with the separators in its scope. -/
structure Wording where
  /-- Whether it has a minus sign. -/
  negated : Bool
  /-- Its scope, if it has one. -/
  scope : Option Scope
  /-- What stands between its quotation marks. -/
  pattern : String
  /-- The pattern has no quotation mark and no bar. -/
  isDropped_pattern : ∀ c ∈ pattern.toList, Phrase.isDropped c = false

namespace Wording

variable (wording : Wording) (defaults : FieldList) (caseSensitive : Bool)

/-- The phrase as it is written. -/
def text : List Char :=
  phraseText wording.negated (wording.scope.map Scope.text) wording.pattern.toList

/-- The fields of the phrase. -/
def fields : FieldList :=
  match wording.scope with
  | some scope => scope.fields
  | none => defaults

/-- The leaf of the phrase: its fields, its pattern, and the compiled glob if the
pattern is not refused. -/
def leaf : Leaf :=
  ⟨wording.fields defaults, wording.pattern, (Glob.compile? wording.pattern caseSensitive).toOption⟩

/-- **The condition of the phrase.** -/
def tree : Tree :=
  if wording.negated then .negate (.test (wording.leaf defaults caseSensitive))
  else .test (wording.leaf defaults caseSensitive)

end Wording

/-- **Groups of phrases as a query**: spaces between phrases, bars with spaces around
them between groups. -/
def queryText (groups : List (List Wording)) : String :=
  String.ofList (Text.join [' ', '|', ' ']
    (groups.map fun group => Text.join [' '] (group.map Wording.text)))

/-! ### Scopes of wordings -/

theorem isScopeChar_eq (c : Char) : isScopeChar c = (isNameChar c || FieldList.isSeparator c) := by
  simp only [isScopeChar, isNameChar, FieldList.isSeparator]
  ac_rfl

theorem isSeparator_of_isNameChar {c : Char} (h : isNameChar c = true) :
    FieldList.isSeparator c = false := by
  refine FieldList.isSeparator_eq_false_iff.2 ⟨?_, ?_⟩
  all_goals
    rintro rfl
    exact absurd h (by decide)

namespace Scope

variable (scope : Scope)

theorem text_ne_nil : scope.text ≠ [] := by
  intro h
  obtain ⟨hfirst, hothers⟩ := spell_eq_nil_iff.1 h
  refine scope.text_ne ?_
  rw [hfirst, hothers]
  rfl

/-- A scope as it is written can be read as one. -/
theorem isScope_text : IsScope (some scope.text) := by
  refine isScope_some.2 ⟨scope.text_ne_nil, fun c hc => ?_⟩
  rw [isScopeChar_eq, Bool.or_eq_true]
  rcases mem_spell hc with hc | ⟨other, hother, rfl | hc⟩
  · exact .inl (scope.isNameChar_first c hc)
  · exact .inr (scope.isNameChar_others other hother).1
  · exact .inl ((scope.isNameChar_others other hother).2 c hc)

/-- **Any separators give the same names.** -/
theorem parse_text : FieldList.parse (String.ofList scope.text) = scope.fields :=
  FieldList.parse_spell (fun c hc => isSeparator_of_isNameChar (scope.isNameChar_first c hc))
    fun other hother => (scope.isNameChar_others other hother).imp_right fun h c hc =>
      isSeparator_of_isNameChar (h c hc)

end Scope

/-! ### Reading a wording as a phrase -/

namespace Wording

variable (wording : Wording) (defaults : FieldList) (caseSensitive : Bool)

theorem isScope_scope : IsScope (wording.scope.map Scope.text) := by
  cases h : wording.scope with
  | none => exact isScope_none
  | some scope => exact scope.isScope_text

theorem quote_notMem_pattern : '"' ∉ wording.pattern.toList := by
  intro hmem
  exact absurd (wording.isDropped_pattern _ hmem) (by decide)

theorem bar_notMem_pattern : '|' ∉ wording.pattern.toList := by
  intro hmem
  exact absurd (wording.isDropped_pattern _ hmem) (by decide)

/-- The sign, the scope and the quotation of a phrase. -/
def parts : Parts :=
  ⟨wording.negated, wording.scope.map Scope.text, '"' :: (wording.pattern.toList ++ ['"'])⟩

theorem divide_text : wording.parts.Divide wording.text :=
  Parts.divide_quotation wording.negated wording.isScope_scope _

theorem fields_parts : wording.parts.fields defaults = wording.fields defaults := by
  rw [Parts.fields, parts, fields]
  cases wording.scope with
  | none => rfl
  | some scope => exact (FieldList.parse_eq_pieces scope.text).symm.trans scope.parse_text

/-- Between its quotation marks a pattern is read as it is written. -/
theorem pattern_parts : wording.parts.pattern = wording.pattern := by
  have hall : wording.pattern.toList.filter (· ≠ '|') = wording.pattern.toList := by
    refine List.filter_eq_self.2 fun c hc => ?_
    have hne : c ≠ '|' := fun h => wording.bar_notMem_pattern (h ▸ hc)
    simpa using hne
  rw [parts, pattern_quotation _ _ wording.quote_notMem_pattern, hall, String.ofList_toList]

/-- **A wording is read as its phrase.** -/
theorem parse_text : Phrase.parse (String.ofList wording.text) defaults =
    ⟨wording.fields defaults, wording.pattern, wording.negated⟩ := by
  have hdivide : wording.parts.Divide (String.ofList wording.text).toList := by
    rw [String.toList_ofList]
    exact wording.divide_text
  rw [hdivide.parse_eq, fields_parts, pattern_parts]
  rfl

variable {wording defaults} in
/-- The condition of a wording is that of its phrase. -/
theorem tree_eq {phrase : Phrase}
    (h : phrase = ⟨wording.fields defaults, wording.pattern, wording.negated⟩) :
    wording.tree defaults caseSensitive = phrase.tree caseSensitive := by
  subst h
  rw [Phrase.tree, tree, Phrase.leaf, leaf, Leaf.compile?]
  cases Glob.compile? wording.pattern caseSensitive <;> rfl

/-- **A wording stays whole** in front of a break. -/
theorem isWhole_text : IsWhole wording.text := by
  by_cases hempty : wording.pattern.toList = []
  · rw [text, hempty]
    exact isWhole_of_empty wording.isScope_scope
  · exact isWhole_of_quoted
      ⟨_, _, _, wording.isScope_scope, hempty, wording.quote_notMem_pattern, rfl⟩

end Wording

/-! ### Reading a query back -/

theorem tokens_join_space {words : List (List Char)} (h : ∀ word ∈ words, IsWhole word)
    {rest : List Char} (hrest : IsBreak rest) :
    tokens (Text.join [' '] words ++ rest) = words ++ tokens rest := by
  induction words with
  | nil => rfl
  | cons word words ih =>
    have hwords := ih fun w hw => h w (by simp [hw])
    cases words with
    | nil => exact h word (by simp) rest hrest
    | cons next words =>
      rw [Text.join_cons_cons, List.append_assoc, List.append_assoc, List.singleton_append,
        h word (by simp) _ (isBreak_space _), tokens_space, hwords]
      rfl

/-- **Groups of whole tokens** are read with a separator between neighbours. -/
theorem tokens_join_bar {groups : List (List (List Char))}
    (h : ∀ group ∈ groups, ∀ word ∈ group, IsWhole word) :
    (tokens (Text.join [' ', '|', ' '] (groups.map (Text.join [' '])))).map String.ofList =
      [groupSeparator].intercalate (groups.map (List.map String.ofList)) := by
  induction groups with
  | nil => rw [List.map_nil, Text.join_nil, tokens_blank rfl]; rfl
  | cons group groups ih =>
    have hgroups := ih fun g hg => h g (by simp [hg])
    have hgroup : ∀ rest, IsBreak rest →
        tokens (Text.join [' '] group ++ rest) = group ++ tokens rest :=
      fun rest hrest => tokens_join_space (h group (by simp)) hrest
    cases groups with
    | nil =>
      have hlast := hgroup [] isBreak_nil
      rw [List.append_nil, tokens_blank (show Text.allBlank [] = true from rfl),
        List.append_nil] at hlast
      simp [hlast]
    | cons next groups =>
      have hsplit : Text.join [' ', '|', ' '] ((group :: next :: groups).map (Text.join [' '])) =
          Text.join [' '] group ++ ' ' :: (['|'] ++ ' ' ::
            Text.join [' ', '|', ' '] ((next :: groups).map (Text.join [' ']))) := by
        simp
      rw [hsplit, hgroup _ (isBreak_space _), tokens_space, isWhole_bar _ (isBreak_space _),
        tokens_space, List.map_append, List.map_cons, hgroups, List.map_cons, List.map_cons,
        List.map_cons, List.intercalate_cons_cons, List.append_assoc]
      rfl

/-- The tokens of the groups of a query that was written. -/
def writtenTokens (written : List (List Wording)) : List (List String) :=
  written.map fun group => group.map fun wording => String.ofList wording.text

theorem tokenize_queryText (written : List (List Wording)) :
    tokenize (queryText written) = [groupSeparator].intercalate (writtenTokens written) := by
  have hwhole : ∀ group ∈ written.map (List.map Wording.text), ∀ word ∈ group, IsWhole word := by
    intro group hgroup word hword
    obtain ⟨wordings, -, rfl⟩ := List.mem_map.1 hgroup
    obtain ⟨wording, -, rfl⟩ := List.mem_map.1 hword
    exact wording.isWhole_text
  have htokens := tokens_join_bar hwhole
  rw [List.map_map, List.map_map] at htokens
  rw [tokenize, queryText, String.toList_ofList]
  refine htokens.trans ?_
  simp [writtenTokens, Function.comp_def]

theorem writtenTokens_ne {written : List (List Wording)} (h : written ≠ [[]]) :
    writtenTokens written ≠ [[]] := by
  intro hw
  obtain ⟨group, rfl, hgroup⟩ := List.map_eq_singleton_iff.1 hw
  exact h (by rw [List.map_eq_nil_iff.1 hgroup])

/-- No wording is the separator of groups. -/
theorem separator_notMem_writtenTokens {written : List (List Wording)} :
    ∀ group ∈ writtenTokens written, groupSeparator ∉ group := by
  intro group hgroup hmem
  obtain ⟨wordings, -, rfl⟩ := List.mem_map.1 hgroup
  obtain ⟨wording, -, hbar⟩ := List.mem_map.1 hmem
  have hquote : '"' ∈ wording.text := by simp [Wording.text, phraseText]
  have htext : wording.text = ['|'] := by
    rw [← String.toList_ofList (l := wording.text), hbar]
    rfl
  exact absurd hquote (by simp [htext])

/-- **The groups of a query that was written** are its groups, unless it has one group and
that one is empty. -/
theorem groups_queryText {written : List (List Wording)} (h : written ≠ [[]]) :
    groups (queryText written) = writtenTokens written := by
  rw [groups, tokenize_queryText,
    splitGroups_intercalate (writtenTokens_ne h) separator_notMem_writtenTokens]

/-- **The condition of a query that was written** is that of its wordings. -/
theorem tree_compile_queryText {written : List (List Wording)} (h : written ≠ [[]])
    (defaults : FieldList) (caseSensitive : Bool) :
    (compile (queryText written) defaults caseSensitive).tree =
      .any (written.map fun group =>
        .all (group.map fun wording => wording.tree defaults caseSensitive)) := by
  have hgroup : ∀ group : List Wording,
      groupTree defaults caseSensitive (group.map fun wording => String.ofList wording.text) =
        .all (group.map fun wording => wording.tree defaults caseSensitive) := by
    intro group
    rw [groupTree, List.map_map]
    exact congrArg Tree.all (List.map_congr_left fun wording _ =>
      (Wording.tree_eq caseSensitive (wording.parse_text defaults)).symm)
  rw [compile, groups_queryText h, writtenTokens, List.map_map]
  exact congrArg Tree.any (List.map_congr_left fun group _ => hgroup group)

/-! ### Warnings about a wording -/

/-- A wording is warned about only if its pattern is empty. -/
theorem Wording.warnings_text (wording : Wording) :
    Phrase.warnings (String.ofList wording.text) =
      if wording.pattern = "" then [.emptyPattern (String.ofList wording.text)] else [] := by
  have hcount : wording.text.count '"' = 2 :=
    count_quote_phraseText wording.isScope_scope wording.quote_notMem_pattern
  rw [Phrase.warnings, String.toList_ofList, hcount, wording.divide_text.body_eq,
    Parts.patternOf_body, wording.pattern_parts]
  simp [Wording.parts, wording.bar_notMem_pattern]

theorem Wording.tokenWarnings_text {wording : Wording} {caseSensitive : Bool} {glob : Glob}
    (h : Glob.compile? wording.pattern caseSensitive = .ok glob) (defaults : FieldList) :
    tokenWarnings defaults caseSensitive (String.ofList wording.text) =
      if wording.pattern = "" then [.emptyPattern (String.ofList wording.text)] else [] := by
  rw [tokenWarnings, wording.warnings_text, wording.parse_text, Phrase.refusal, h, List.append_nil]

/-- **Writing a query down and compiling it.** A list of groups of phrases, unless it is
one empty group, is written as a text that compiles to one conjunction for each group, in
it one leaf for each phrase, negated where the phrase is and with the default fields
where it has no scope. If no pattern is refused, the only warnings are one for each
empty group and one for each empty pattern, in reading order. -/
theorem compile_queryText {written : List (List Wording)} (hne : written ≠ [[]])
    {caseSensitive : Bool}
    (hglob : ∀ group ∈ written, ∀ wording ∈ group,
      ∃ glob, Glob.compile? wording.pattern caseSensitive = .ok glob)
    (defaults : FieldList) :
    (compile (queryText written) defaults caseSensitive).tree =
        .any (written.map fun group =>
          .all (group.map fun wording => wording.tree defaults caseSensitive)) ∧
      (compile (queryText written) defaults caseSensitive).warnings =
        written.zipIdx.flatMap fun group =>
          if group.1 = [] then [.emptyGroup group.2]
          else group.1.flatMap fun wording =>
            if wording.pattern = "" then [.emptyPattern (String.ofList wording.text)] else [] := by
  refine ⟨tree_compile_queryText hne defaults caseSensitive, ?_⟩
  rw [compile, groups_queryText hne, writtenTokens, List.zipIdx_map, List.flatMap_map]
  refine List.flatMap_congr fun entry hentry => ?_
  obtain ⟨group, index⟩ := entry
  have hgroup : group ∈ written := List.fst_mem_of_mem_zipIdx hentry
  cases group with
  | nil => rfl
  | cons wording group =>
    rw [groupWarnings, Prod.map_fst, if_neg (by simp), if_neg (by simp), List.flatMap_map]
    refine List.flatMap_congr fun other hother => ?_
    obtain ⟨glob, h⟩ := hglob _ hgroup other hother
    exact Wording.tokenWarnings_text h defaults

/-- A query with an empty group between two others, with both separators in a scope and
an empty name behind them, and with marks and line feeds in a pattern. -/
def variedQuery : List (List Wording) :=
  [[⟨true, some ⟨['a'], [('|', ['_', '\u017f']), (',', [])], by simp; decide, by simp; decide,
        by decide⟩, "", by simp⟩,
      ⟨false, none, "-b: *?\nc", by simp; decide⟩],
    [],
    [⟨false, some ⟨[], [(',', [])], by simp, by simp; decide, by decide⟩, "d", by simp; decide⟩]]

theorem compile_variedQuery :
    variedQuery ≠ [[]] ∧
      (∀ group ∈ variedQuery, ∀ wording ∈ group,
        ∃ glob, Glob.compile? wording.pattern false = .ok glob) ∧
      queryText variedQuery = "-a|_\u017f,:\"\" \"-b: *?\nc\" |  | ,:\"d\"" ∧
      (compile (queryText variedQuery) ⟨["e", ""]⟩ false).tree =
        .any (variedQuery.map fun group =>
          .all (group.map fun wording => wording.tree ⟨["e", ""]⟩ false)) ∧
      (compile (queryText variedQuery) ⟨["e", ""]⟩ false).warnings =
        [.emptyPattern "-a|_\u017f,:\"\"", .emptyGroup 1] := by
  have hne : variedQuery ≠ [[]] := by simp [variedQuery]
  have hglob : ∀ group ∈ variedQuery, ∀ wording ∈ group,
      ∃ glob, Glob.compile? wording.pattern false = .ok glob := by
    have hsize : ∀ group ∈ variedQuery, ∀ wording ∈ group,
        Glob.compiledSize wording.pattern ≤ Glob.sizeLimit := by decide +kernel
    exact fun group hgroup wording hwording => ⟨_, dif_pos (hsize group hgroup wording hwording)⟩
  obtain ⟨htree, hwarnings⟩ := compile_queryText hne hglob ⟨["e", ""]⟩
  refine ⟨hne, hglob, by decide +kernel, htree, hwarnings.trans ?_⟩
  decide +kernel

end RecordQuery.Query
