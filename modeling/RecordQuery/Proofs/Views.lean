import RecordQuery.Proofs.Verdicts

/-!
# What a condition sees of a record

A condition looks at a record only through the texts of the fields that its leaves name
(`RecordQuery.Query.Tree.fieldNames`). Two records that give the same texts for these names
get the same verdict (`RecordQuery.Query.Tree.holds_congr`), and they need not even be of one
type: a JSON object and a map from names to texts are alike if their fields read alike. All
that is said here about kinds of records comes from that one fact and from what a record of
the kind answers for a name.

Nothing more is seen by a part of a condition than by the whole, so the same holds of every
condition inside it (`RecordQuery.Query.Tree.Within`).
-/

namespace RecordQuery

open RecordQuery.Json (Entries Value)

/-! ### What records of each kind answer -/

namespace Record

/-- An entry that was put is what its own key reads as, and nothing to any other key. -/
theorem fieldText_insertEntry (key : String) (value : Value) (entries : Entries) (name : String) :
    fieldText (Json.insertEntry key value entries : Entries) name =
      if key = name then value.text? else fieldText entries name := by
  rw [fieldText_entries, fieldText_entries]
  split
  · next h => rw [h, Json.field?_insertEntry_self, Option.bind_some]
  · next h => rw [Json.field?_insertEntry_of_ne (Ne.symm h)]

/-- A value that is no object has no field. -/
theorem fieldText_of_ne_object {value : Value} (h : ∀ entries, value ≠ .object entries)
    (name : String) : fieldText value name = none := by
  cases value with
  | object entries => exact absurd rfl (h entries)
  | _ => rfl

/-- The last text of a name, or else what there was before. -/
def lastText (name : String) (first : Option String) (texts : List (String × String)) :
    Option String :=
  texts.foldl (fun text field => if field.1 = name then some field.2 else text) first

/-- **Fields put into a record one after the other**, in whatever way a record of its type
takes a field, leave the last text of each name. -/
theorem fieldText_foldl {ρ : Type} [Record ρ] {put : ρ → String × String → ρ}
    (hput : ∀ record field name, fieldText (put record field) name =
      if field.1 = name then some field.2 else fieldText record name)
    (texts : List (String × String)) (record : ρ) (name : String) :
    fieldText (texts.foldl put record) name = lastText name (fieldText record name) texts := by
  induction texts generalizing record with
  | nil => rfl
  | cons field texts ih =>
    rw [List.foldl_cons, ih, hput, lastText, lastText, List.foldl_cons]

/-- The entries of a record whose fields are texts. -/
def textEntries (texts : List (String × String)) : Entries :=
  Json.entriesOf (texts.map fun field => (field.1, .string field.2))

theorem fieldText_textEntries (texts : List (String × String)) (name : String) :
    fieldText (textEntries texts) name = lastText name none texts := by
  have hput : ∀ (entries : Entries) (field : String × String) (name : String),
      fieldText (Json.insertEntry field.1 (.string field.2) entries : Entries) name =
        if field.1 = name then some field.2 else fieldText entries name :=
    fun entries field name => fieldText_insertEntry field.1 (.string field.2) entries name
  rw [textEntries, Json.entriesOf, List.foldl_map]
  exact fieldText_foldl hput texts ([] : Entries) name

theorem fieldText_hashMap (texts : List (String × String)) (name : String) :
    fieldText (Std.HashMap.ofList texts) name = lastText name none texts := by
  have hput : ∀ (map : Std.HashMap String String) (field : String × String) (name : String),
      fieldText (map.insert field.1 field.2) name =
        if field.1 = name then some field.2 else fieldText map name := by
    intro map field name
    simp [fieldText, Std.HashMap.getElem?_insert]
  have hfold := fieldText_foldl hput texts ∅ name
  have hempty : fieldText (∅ : Std.HashMap String String) name = none := by simp [fieldText]
  rw [hempty] at hfold
  exact Std.HashMap.ofList_equiv_foldl.getElem?_eq.trans hfold

theorem fieldText_treeMap (texts : List (String × String)) (name : String) :
    fieldText (Std.TreeMap.ofList texts) name = lastText name none texts := by
  have hput : ∀ (map : Std.TreeMap String String) (field : String × String) (name : String),
      fieldText (map.insert field.1 field.2) name =
        if field.1 = name then some field.2 else fieldText map name := by
    intro map field name
    simp [fieldText, Std.TreeMap.getElem?_insert]
  have hfold := fieldText_foldl hput texts ∅ name
  have hempty : fieldText (∅ : Std.TreeMap String String) name = none := by simp [fieldText]
  rw [hempty] at hfold
  exact Std.TreeMap.ofList_equiv_foldl.getElem?_eq.trans hfold

end Record

namespace Query

/-! ### The leaves of a condition -/

namespace Tree

mutual

/-- The leaves of a condition, from left to right. -/
def leaves : Tree → List Leaf
  | .all children => leavesOfEach children
  | .any children => leavesOfEach children
  | .negate child => leaves child
  | .test leaf => [leaf]

/-- The leaves of some conditions. -/
def leavesOfEach : List Tree → List Leaf
  | [] => []
  | child :: children => leaves child ++ leavesOfEach children

end

theorem leavesOfEach_eq_flatMap (children : List Tree) :
    leavesOfEach children = children.flatMap leaves := by
  induction children with
  | nil => rfl
  | cons child children ih => rw [leavesOfEach, ih, List.flatMap_cons]

theorem mem_leavesOfEach {children : List Tree} {leaf : Leaf} :
    leaf ∈ leavesOfEach children ↔ ∃ child ∈ children, leaf ∈ child.leaves := by
  rw [leavesOfEach_eq_flatMap, List.mem_flatMap]

/-- **The fields that a condition looks at**: those that some leaf of it names. -/
def fieldNames (tree : Tree) : List String :=
  tree.leaves.flatMap fun leaf => leaf.fields.names

/-- **A condition inside a condition**, the condition itself included. -/
inductive Within (part : Tree) : Tree → Prop
  /-- A condition is inside itself. -/
  | self : Within part part
  /-- What is inside one of some conditions is inside their conjunction. -/
  | all {children : List Tree} {child : Tree} (hchild : child ∈ children)
      (h : Within part child) : Within part (.all children)
  /-- What is inside one of some conditions is inside their disjunction. -/
  | any {children : List Tree} {child : Tree} (hchild : child ∈ children)
      (h : Within part child) : Within part (.any children)
  /-- What is inside a condition is inside its negation. -/
  | negate {child : Tree} (h : Within part child) : Within part (.negate child)

theorem Within.leaves_subset {part tree : Tree} (h : Within part tree) :
    part.leaves ⊆ tree.leaves := by
  induction h with
  | self => exact List.Subset.refl _
  | all hchild _ ih => exact fun leaf hleaf => mem_leavesOfEach.2 ⟨_, hchild, ih hleaf⟩
  | any hchild _ ih => exact fun leaf hleaf => mem_leavesOfEach.2 ⟨_, hchild, ih hleaf⟩
  | negate _ ih => exact ih

/-- A part looks at no other fields than the whole. -/
theorem Within.fieldNames_subset {part tree : Tree} (h : Within part tree) :
    part.fieldNames ⊆ tree.fieldNames := by
  intro name hname
  obtain ⟨leaf, hleaf, hmem⟩ := List.mem_flatMap.1 hname
  exact List.mem_flatMap.2 ⟨leaf, h.leaves_subset hleaf, hmem⟩

end Tree

/-! ### Verdicts -/

section Verdicts

variable {ρ σ : Type} [Record ρ] [Record σ] {record : ρ} {other : σ}

/-- A leaf holds alike of records that give the same texts for its fields. -/
theorem Leaf.holds_congr {leaf : Leaf}
    (h : ∀ name ∈ leaf.fields.names, Record.fieldText record name = Record.fieldText other name) :
    leaf.holds record = leaf.holds other := by
  rw [Bool.eq_iff_iff, Leaf.holds_iff, Leaf.holds_iff]
  refine exists_congr fun glob => and_congr_right' (exists_congr fun name => ?_)
  exact and_congr_right fun hname => by rw [h name hname]

namespace Tree

mutual

/-- What holds alike of two records at every leaf holds alike of them as a whole: by
induction on the condition, one case for each of its forms. -/
theorem holds_congr_leaves (tree : Tree)
    (h : ∀ leaf ∈ tree.leaves, leaf.holds record = leaf.holds other) :
    tree.holds record = tree.holds other := by
  cases tree with
  | all children =>
    rw [holds, holds]
    exact (holdsEach_congr_leaves children h).1
  | any children =>
    rw [holds, holds]
    exact (holdsEach_congr_leaves children h).2
  | negate child =>
    rw [holds_negate, holds_negate, holds_congr_leaves child h]
  | test leaf =>
    rw [holds_test, holds_test]
    exact h leaf (List.mem_singleton_self leaf)

/-- The same for the conditions of a conjunction and of a disjunction. -/
theorem holdsEach_congr_leaves (children : List Tree)
    (h : ∀ leaf ∈ leavesOfEach children, leaf.holds record = leaf.holds other) :
    holdsAll record children = holdsAll other children ∧
      holdsAny record children = holdsAny other children := by
  cases children with
  | nil => exact ⟨rfl, rfl⟩
  | cons child children =>
    have hchild := holds_congr_leaves child fun leaf hleaf => h leaf (List.mem_append_left _ hleaf)
    obtain ⟨hall, hany⟩ :=
      holdsEach_congr_leaves children fun leaf hleaf => h leaf (List.mem_append_right _ hleaf)
    rw [holdsAll, holdsAll, holdsAny, holdsAny, hchild, hall, hany]
    exact ⟨rfl, rfl⟩

end

/-- **A verdict depends only on the fields that are named.** -/
theorem holds_congr {tree : Tree}
    (h : ∀ name ∈ tree.fieldNames, Record.fieldText record name = Record.fieldText other name) :
    tree.holds record = tree.holds other :=
  tree.holds_congr_leaves fun leaf hleaf => leaf.holds_congr fun name hname =>
    h name (List.mem_flatMap.2 ⟨leaf, hleaf, hname⟩)

end Tree

end Verdicts

/-- A record with texts only has one verdict, however it is represented. -/
theorem Tree.holds_textRecord (tree : Tree) (texts : List (String × String)) :
    tree.holds (Value.object (Record.textEntries texts)) =
        tree.holds (Record.textEntries texts) ∧
      tree.holds (Std.HashMap.ofList texts) = tree.holds (Record.textEntries texts) ∧
      tree.holds (Std.TreeMap.ofList texts) = tree.holds (Record.textEntries texts) := by
  refine ⟨holds_congr fun name _ => rfl, holds_congr fun name _ => ?_,
    holds_congr fun name _ => ?_⟩
  · rw [Record.fieldText_hashMap, Record.fieldText_textEntries]
  · rw [Record.fieldText_treeMap, Record.fieldText_textEntries]

/-- **Verdicts see the named fields only.** Two records, of one type or of two, that give the
same text for every field that some leaf of a compiled query names get the same verdict, from
the query and from every condition inside it. So a record with texts only has one verdict as a
JSON value, as the entries of an object, as a hash map and as an ordered map; a field that no
leaf names can be set to anything; a null field is one that is not there; and a value that is
no object is as good as an empty one. -/
theorem verdict_of_named_fields (search : String) (defaults : FieldList) (options : Options) :
    let filter := Filter.new search defaults options
    (∀ {ρ σ : Type} [Record ρ] [Record σ] (record : ρ) (other : σ),
        (∀ name ∈ filter.tree.fieldNames,
          Record.fieldText record name = Record.fieldText other name) →
        filter.test record = filter.test other ∧
          ∀ part : Tree, part.Within filter.tree → part.holds record = part.holds other) ∧
      (∀ texts : List (String × String),
        filter.test (Value.object (Record.textEntries texts)) =
            filter.test (Record.textEntries texts) ∧
          filter.test (Std.HashMap.ofList texts) = filter.test (Record.textEntries texts) ∧
          filter.test (Std.TreeMap.ofList texts) = filter.test (Record.textEntries texts)) ∧
      (∀ (name : String) (value : Value) (entries : Entries), name ∉ filter.tree.fieldNames →
        filter.test (Json.insertEntry name value entries : Entries) = filter.test entries) ∧
      (∀ (name : String) (entries : Entries), Json.field? entries name = none →
        filter.test (Json.insertEntry name .null entries : Entries) = filter.test entries) ∧
      (∀ value : Value, (∀ entries, value ≠ .object entries) →
        filter.test value = filter.test (Value.object [])) := by
  intro filter
  refine ⟨fun record other h => ⟨Tree.holds_congr h, fun part hpart => ?_⟩,
    filter.tree.holds_textRecord, fun name value entries hname => ?_, fun name entries hnone => ?_,
    fun value hvalue => ?_⟩
  · exact Tree.holds_congr fun name hname => h name (hpart.fieldNames_subset hname)
  · refine Tree.holds_congr fun other hother => ?_
    rw [Record.fieldText_insertEntry, if_neg]
    rintro rfl
    exact hname hother
  · refine Tree.holds_congr fun other _ => ?_
    rw [Record.fieldText_insertEntry]
    split
    · next h => rw [← h, Record.fieldText_entries, hnone, Json.text?_null, Option.bind_none]
    · rfl
  · exact Tree.holds_congr fun name _ => Record.fieldText_of_ne_object hvalue name

/-- A JSON value, with a double, a null and a field that is not asked for. -/
def personValue : Value :=
  .object [("age", .number (.float ⟨false, 4503599627370496, -52⟩)), ("nick", .null),
    ("tall", .bool true)]

/-- Texts that read like that value where they are asked for. -/
def personTexts : List (String × String) :=
  [("city", "Oslo"), ("age", "2"), ("age", "1")]

/-- A JSON value and a hash map that differ in almost everything, and a negated part of the
query. -/
theorem verdict_of_personValue :
    (∀ name ∈ (Filter.new "age:1 -nick:x" ⟨["city"]⟩ ⟨false⟩).tree.fieldNames,
        Record.fieldText personValue name =
          Record.fieldText (Std.HashMap.ofList personTexts) name) ∧
      (Filter.new "age:1 -nick:x" ⟨["city"]⟩ ⟨false⟩).test (Std.HashMap.ofList personTexts) =
        true ∧
      "tall" ∉ (Filter.new "age:1 -nick:x" ⟨["city"]⟩ ⟨false⟩).tree.fieldNames ∧
      (Filter.new "age:1 -nick:x" ⟨["city"]⟩ ⟨false⟩).test
          (Json.insertEntry "tall" (.bool true) (Record.textEntries personTexts) : Entries) =
        true ∧
      Json.field? (Record.textEntries personTexts) "nick" = none ∧
      (Filter.new "age:1 -nick:x" ⟨["city"]⟩ ⟨false⟩).test
          (Json.insertEntry "nick" .null (Record.textEntries personTexts) : Entries) = true ∧
      (∀ entries, Value.bool true ≠ .object entries) ∧
      (Filter.new "age:1 -nick:x" ⟨["city"]⟩ ⟨false⟩).test (Value.bool true) = false := by
  obtain ⟨hcongr, -, hunnamed, hnull, hvalue⟩ :=
    verdict_of_named_fields "age:1 -nick:x" ⟨["city"]⟩ ⟨false⟩
  have hnames : (Filter.new "age:1 -nick:x" ⟨["city"]⟩ ⟨false⟩).tree.fieldNames =
      ["age", "nick"] := by decide +kernel
  have halike : ∀ name ∈ (Filter.new "age:1 -nick:x" ⟨["city"]⟩ ⟨false⟩).tree.fieldNames,
      Record.fieldText personValue name =
        Record.fieldText (Std.HashMap.ofList personTexts) name := by
    intro name hname
    rw [hnames] at hname
    rw [Record.fieldText_hashMap]
    rcases List.mem_cons.1 hname with rfl | hname
    · decide +kernel
    · obtain rfl := List.mem_singleton.1 hname
      decide +kernel
  have htall : "tall" ∉ (Filter.new "age:1 -nick:x" ⟨["city"]⟩ ⟨false⟩).tree.fieldNames := by
    rw [hnames]
    decide
  have hnick : Json.field? (Record.textEntries personTexts) "nick" = none := by
    rw [Json.field?, List.lookup_eq_none_iff]
    decide +kernel
  refine ⟨halike, (hcongr _ _ halike).1.symm.trans (by decide +kernel), htall,
    (hunnamed _ _ _ htall).trans (by decide +kernel), hnick,
    (hnull _ _ hnick).trans (by decide +kernel), fun entries => by simp,
    (hvalue _ fun entries => by simp).trans (by decide +kernel)⟩

end Query

end RecordQuery
