import RecordQuery.Proofs.Wording

/-!
# What queries compile to

Whatever is searched for, the compiled tree has three levels: one disjunction, below it
conjunctions, and in these leaves, each negated at most once
(`RecordQuery.Query.Tree.IsPhrase`). Lenient reading leaves no trace in it. Every
leaf could have been written with a scope of names and a pattern between quotation marks
(`RecordQuery.Query.exists_wording`), so the tree can be written down as a query
(`RecordQuery.Query.Tree.searchText`), and compiling that text gives the tree again: a
query may be malformed, but the tree it compiles to is always that of one that is not.

The argument replaces every token by the wording of its phrase. A text and the text with
its tokens so replaced compile to the same tree; for the second the round trip of
wordings applies.
-/

namespace RecordQuery.Query

/-! ### Writing a tree down -/

/-- The text of a leaf: its fields as a scope, unless they are the default fields, and
its pattern between quotation marks. -/
def Leaf.searchText (defaults : FieldList) (negated : Bool) (leaf : Leaf) : List Char :=
  phraseText negated (if leaf.fields = defaults then none else some leaf.fields.text.toList)
    leaf.pattern.toList

namespace Tree

/-- The conditions below a conjunction or a disjunction. -/
def children : Tree → List Tree
  | .all children => children
  | .any children => children
  | _ => []

/-- The text of a leaf or a negated leaf. -/
def leafText (defaults : FieldList) : Tree → List Char
  | .test leaf => leaf.searchText defaults false
  | .negate (.test leaf) => leaf.searchText defaults true
  | _ => []

/-- **A compiled tree as a query**: phrases with spaces between them, and groups with
bars. -/
def searchText (defaults : FieldList) (tree : Tree) : String :=
  String.ofList (Text.join [' ', '|', ' '] (tree.children.map fun group =>
    Text.join [' '] (group.children.map (leafText defaults))))

end Tree

/-! ### The shape of a compiled tree -/

/-- Whether a leaf can be written: its pattern has no quotation mark and no bar, and its
fields are the default fields or names that do not all vanish. -/
def Leaf.IsWritable (defaults : FieldList) (leaf : Leaf) : Prop :=
  (∀ c ∈ leaf.pattern.toList, c ≠ '"' ∧ c ≠ '|') ∧
    (leaf.fields = defaults ∨
      (∀ name ∈ leaf.fields.names, ∀ c ∈ name.toList, isNameChar c = true) ∧
        leaf.fields.text ≠ "")

/-- **The condition of a phrase**: a leaf that can be written, or one negation of it. -/
inductive Tree.IsPhrase (defaults : FieldList) : Tree → Prop
  /-- A leaf. -/
  | plain {leaf : Leaf} (h : leaf.IsWritable defaults) : IsPhrase defaults (.test leaf)
  /-- A negated leaf. -/
  | negated {leaf : Leaf} (h : leaf.IsWritable defaults) : IsPhrase defaults (.negate (.test leaf))

namespace Wording

variable (wording : Wording) (defaults : FieldList) (caseSensitive : Bool)

theorem isWritable_leaf : (wording.leaf defaults caseSensitive).IsWritable defaults := by
  constructor
  · intro c hc
    have hkept := wording.isDropped_pattern c hc
    simpa [Phrase.isDropped] using hkept
  · cases h : wording.scope with
    | none => exact .inl (by rw [leaf, fields, h])
    | some scope =>
      have hfields : (wording.leaf defaults caseSensitive).fields = scope.fields := by
        rw [leaf, fields, h]
      rw [hfields]
      refine .inr ⟨fun name hname c hc => ?_, scope.text_ne⟩
      obtain ⟨letters, hletters, rfl⟩ := List.mem_map.1 hname
      rw [String.toList_ofList] at hc
      rcases List.mem_cons.1 hletters with rfl | hother
      · exact scope.isNameChar_first c hc
      · obtain ⟨other, hmem, rfl⟩ := List.mem_map.1 hother
        exact (scope.isNameChar_others other hmem).2 c hc

theorem isPhrase_tree : (wording.tree defaults caseSensitive).IsPhrase defaults := by
  have hleaf := wording.isWritable_leaf defaults caseSensitive
  rw [tree]
  split
  · exact .negated hleaf
  · exact .plain hleaf

theorem leafText_tree : (wording.tree defaults caseSensitive).leafText defaults =
    phraseText wording.negated (if wording.fields defaults = defaults then none
      else some (wording.fields defaults).text.toList) wording.pattern.toList := by
  rw [tree]
  split
  · next h => rw [h]; rfl
  · next h => rw [Bool.eq_false_iff.2 h]; rfl

end Wording

/-! ### The wording of a token -/

/-- Names that were read as a scope are the names of one, written with bars. -/
theorem exists_scope {names : List Char} (h : IsScope (some names)) :
    ∃ scope : Scope, scope.fields = .parse (String.ofList names) ∧
      scope.text = (FieldList.parse (String.ofList names)).text.toList := by
  obtain ⟨hne, hall⟩ := isScope_some.1 h
  obtain ⟨first, others, hpieces⟩ :=
    List.exists_cons_of_ne_nil (Text.pieces_ne_nil FieldList.isSeparator names)
  have hparse : FieldList.parse (String.ofList names) =
      ⟨(first :: others).map String.ofList⟩ := by
    rw [FieldList.parse, String.toList_ofList, hpieces]
  have hname : ∀ piece ∈ first :: others, ∀ c ∈ piece, isNameChar c = true := by
    intro piece hpiece c hc
    obtain ⟨hcut, hmem⟩ := Text.isCut_of_mem_pieces (hpieces ▸ hpiece) hc
    have hscope := hall c hmem
    rw [isScopeChar_eq, hcut, Bool.or_false] at hscope
    exact hscope
  have hsnd : (others.map fun name => ('|', name)).map Prod.snd = others := by
    simp [Function.comp_def]
  have htext : FieldList.text ⟨(first :: others).map String.ofList⟩ ≠ "" := by
    rw [← hparse, FieldList.text_parse]
    intro hempty
    have hnil := String.toList_eq_nil_iff.2 hempty
    rw [String.toList_ofList, List.map_eq_nil_iff, String.toList_ofList] at hnil
    exact hne hnil
  refine ⟨⟨first, others.map fun name => ('|', name), hname first (by simp), ?_, ?_⟩, ?_, ?_⟩
  · intro other hother
    obtain ⟨name, hmem, rfl⟩ := List.mem_map.1 hother
    exact ⟨(by decide : FieldList.isSeparator '|' = true), hname name (by simp [hmem])⟩
  · rw [hsnd]
    exact htext
  · rw [hparse]
    exact congrArg (fun rest => FieldList.mk ((first :: rest).map String.ofList)) hsnd
  · rw [Scope.text, hparse, FieldList.toList_text_ofList, join_eq_spell]

/-- The fields of a token are the default fields or the names of a scope. -/
theorem scopeFields_eq (unsigned : List Char) (defaults : FieldList) :
    Phrase.scopeFields unsigned defaults = defaults ∨ ∃ names, IsScope (some names) ∧
      Phrase.scopeFields unsigned defaults = .parse (String.ofList names) := by
  rw [Phrase.scopeFields]
  cases hs : scope? unsigned with
  | none => exact .inl rfl
  | some found => exact .inr ⟨found.1, (scope?_eq_some_iff.1 hs).1, rfl⟩

theorem isDropped_of_mem_patternOf {body : List Char} :
    ∀ c ∈ (Phrase.patternOf body).toList, Phrase.isDropped c = false := by
  intro c hc
  rw [Phrase.patternOf, String.toList_ofList] at hc
  simpa using (List.mem_filter.1 hc).2

/-- **Every token has a wording**: a phrase with the same condition, written as that
condition is. -/
theorem exists_wording (defaults : FieldList) (token : String) :
    ∃ wording : Wording, ∀ caseSensitive,
      wording.tree defaults caseSensitive = (Phrase.parse token defaults).tree caseSensitive ∧
      (wording.tree defaults caseSensitive).leafText defaults = wording.text := by
  rcases hsign : Phrase.splitSign token.toList with ⟨negated, unsigned⟩
  have hscope : ∃ scope : Option Scope,
      (scope.map Scope.fields).getD defaults = Phrase.scopeFields unsigned defaults ∧
      scope.map Scope.text = if Phrase.scopeFields unsigned defaults = defaults then none
        else some (Phrase.scopeFields unsigned defaults).text.toList := by
    by_cases hd : Phrase.scopeFields unsigned defaults = defaults
    · exact ⟨none, hd.symm, by rw [if_pos hd]; rfl⟩
    · obtain ⟨names, hnames, hfields⟩ := (scopeFields_eq unsigned defaults).resolve_left hd
      obtain ⟨scope, hparse, htext⟩ := exists_scope hnames
      refine ⟨some scope, by rw [hfields, ← hparse]; rfl, ?_⟩
      rw [if_neg hd, hfields, ← htext]
      rfl
  obtain ⟨scope, hfields, htext⟩ := hscope
  let wording : Wording :=
    ⟨negated, scope, Phrase.patternOf (Phrase.body unsigned), isDropped_of_mem_patternOf⟩
  have hwording : wording.fields defaults = Phrase.scopeFields unsigned defaults := by
    rw [← hfields, Wording.fields]
    cases scope <;> rfl
  refine ⟨wording, fun caseSensitive => ⟨?_, ?_⟩⟩
  · refine Wording.tree_eq caseSensitive ?_
    rw [Phrase.parse, hsign, hwording]
  · rw [wording.leafText_tree, hwording, ← htext]
    rfl

/-! ### Compiling again -/

/-- **A compiled tree is that of a query that was written**, and its text is that query. -/
theorem exists_written (search : String) (defaults : FieldList) :
    ∃ written : List (List Wording), written ≠ [[]] ∧ written.length = (groups search).length ∧
      ∀ caseSensitive,
        (compile search defaults caseSensitive).tree = .any (written.map fun group =>
          .all (group.map fun wording => wording.tree defaults caseSensitive)) ∧
        (compile search defaults caseSensitive).tree.searchText defaults = queryText written := by
  choose wordingOf hwording using exists_wording defaults
  refine ⟨(groups search).map (List.map wordingOf), ?_, by simp, fun caseSensitive => ?_⟩
  · intro h
    obtain ⟨group, hgroups, hgroup⟩ := List.map_eq_singleton_iff.1 h
    rw [List.map_eq_nil_iff.1 hgroup] at hgroups
    exact splitGroups_ne _ hgroups
  · have htree : (compile search defaults caseSensitive).tree =
        .any (((groups search).map (List.map wordingOf)).map fun group =>
          .all (group.map fun wording => wording.tree defaults caseSensitive)) := by
      rw [compile, List.map_map]
      refine congrArg Tree.any (List.map_congr_left fun group _ => ?_)
      rw [groupTree, Function.comp_apply, List.map_map]
      exact congrArg Tree.all (List.map_congr_left fun token _ =>
        (hwording token caseSensitive).1.symm)
    refine ⟨htree, ?_⟩
    rw [htree, Tree.searchText, queryText, Tree.children, List.map_map, List.map_map, List.map_map]
    refine congrArg String.ofList (congrArg (Text.join _) (List.map_congr_left fun group _ => ?_))
    simp only [Function.comp_apply, Tree.children, List.map_map]
    exact congrArg (Text.join _) (List.map_congr_left fun token _ =>
      (hwording token caseSensitive).2)

/-- **What queries compile to.** Whatever is searched for, the tree is a disjunction of
conjunctions of phrases; there is no group exactly if the query is white space only, and
never a single empty one. Written down as a query and compiled again, the tree is the
same. -/
theorem compile_image (search : String) (defaults : FieldList) (caseSensitive : Bool) :
    ∃ phrases : List (List Tree),
      (compile search defaults caseSensitive).tree = .any (phrases.map .all) ∧
      (phrases = [] ↔ Text.allBlank search.toList = true) ∧ phrases ≠ [[]] ∧
      (∀ group ∈ phrases, ∀ phrase ∈ group, phrase.IsPhrase defaults) ∧
      (compile ((compile search defaults caseSensitive).tree.searchText defaults) defaults
        caseSensitive).tree = (compile search defaults caseSensitive).tree := by
  obtain ⟨written, hne, hlength, h⟩ := exists_written search defaults
  obtain ⟨htree, htext⟩ := h caseSensitive
  refine ⟨written.map (List.map fun wording => wording.tree defaults caseSensitive), ?_, ?_, ?_,
    ?_, ?_⟩
  · rw [htree, List.map_map]
    rfl
  · rw [List.map_eq_nil_iff, ← List.length_eq_zero_iff, hlength, List.length_eq_zero_iff, groups,
      splitGroups_eq_nil_iff, tokenize, List.map_eq_nil_iff, tokens_eq_nil_iff]
  · intro hsingle
    obtain ⟨group, rfl, hgroup⟩ := List.map_eq_singleton_iff.1 hsingle
    exact hne (by rw [List.map_eq_nil_iff.1 hgroup])
  · intro group hgroup phrase hphrase
    obtain ⟨wordings, -, rfl⟩ := List.mem_map.1 hgroup
    obtain ⟨wording, -, rfl⟩ := List.mem_map.1 hphrase
    exact wording.isPhrase_tree defaults caseSensitive
  · rw [htext, tree_compile_queryText hne, htree]

end RecordQuery.Query
