import RecordQuery.Proofs.Composition
import RecordQuery.Records

/-!
# What a verdict depends on

A leaf holds if one of its fields is there and the text of that field matches
(`RecordQuery.Query.Leaf.holds_iff`). A field that a record does not have never counts,
however a list comes to name it. So the default fields of a query may be exchanged for
others that name the same fields of a record
(`RecordQuery.Query.AgreeOn`), and the verdict on that record stays
(`RecordQuery.Query.test_congr`): a phrase with a scope does not see the default fields at
all, and a negation and the lists of a tree pass on what holds below them.

The names of all fields of some records are such other fields for each of the records,
next to its own names alone (`RecordQuery.Records.agreeOn_fieldNames`).
-/

namespace RecordQuery

namespace Query

/-! ### Leaves -/

section Leaves

variable {ρ : Type} [Record ρ] {record : ρ}

/-- **What a leaf asks for**: a field that is there, with a text that the glob matches. -/
theorem Leaf.holds_iff (leaf : Leaf) (record : ρ) :
    leaf.holds record = true ↔ ∃ glob, leaf.glob = some glob ∧ ∃ name ∈ leaf.fields.names,
      ∃ text, Record.fieldText record name = some text ∧ glob.isMatch text = true := by
  obtain ⟨fields, pattern, glob⟩ := leaf
  cases glob with
  | none => simp [Leaf.holds]
  | some glob => simp [Leaf.holds, Option.any_eq_true]

/-- The leaf of a phrase has its fields and its pattern, and a glob if the pattern can be
compiled. -/
theorem Phrase.leaf_eq (phrase : Phrase) (caseSensitive : Bool) :
    phrase.leaf caseSensitive =
      ⟨phrase.fields, phrase.pattern, (Glob.compile? phrase.pattern caseSensitive).toOption⟩ := by
  rw [Phrase.leaf, Leaf.compile?]
  cases Glob.compile? phrase.pattern caseSensitive <;> rfl

theorem Phrase.leaf_fields (phrase : Phrase) (caseSensitive : Bool) :
    (phrase.leaf caseSensitive).fields = phrase.fields := by
  rw [leaf_eq]

theorem Phrase.leaf_pattern (phrase : Phrase) (caseSensitive : Bool) :
    (phrase.leaf caseSensitive).pattern = phrase.pattern := by
  rw [leaf_eq]

/-- **What the leaf of a phrase asks for**: that its pattern can be compiled, and a field that is
there, with a text that the glob matches. -/
theorem Phrase.holds_leaf_iff (phrase : Phrase) (caseSensitive : Bool) (record : ρ) :
    (phrase.leaf caseSensitive).holds record = true ↔
      ∃ glob, Glob.compile? phrase.pattern caseSensitive = .ok glob ∧
        ∃ name ∈ phrase.fields.names, ∃ text, Record.fieldText record name = some text ∧
          glob.isMatch text = true := by
  rw [Leaf.holds_iff, leaf_eq]
  cases Glob.compile? phrase.pattern caseSensitive with
  | error refused => simp [Except.toOption]
  | ok glob => simp [Except.toOption]

/-- **Whether two field lists agree on a record**: they name the same of its fields. -/
def AgreeOn (record : ρ) (fields others : FieldList) : Prop :=
  ∀ name, Record.fieldText record name ≠ none → (name ∈ fields.names ↔ name ∈ others.names)

theorem AgreeOn.refl (record : ρ) (fields : FieldList) : AgreeOn record fields fields :=
  fun _ _ => Iff.rfl

/-- **The leaf of a phrase that holds of one record** holds of another, maybe with other fields,
if each of its fields that is there is among those and has the same text there. -/
theorem Phrase.holds_leaf_mono {σ : Type} [Record σ] {other : σ} {phrase wider : Phrase}
    (hpattern : phrase.pattern = wider.pattern)
    (hfields : ∀ name ∈ phrase.fields.names, ∀ text, Record.fieldText record name = some text →
      name ∈ wider.fields.names ∧ Record.fieldText other name = some text)
    (caseSensitive : Bool) (h : (phrase.leaf caseSensitive).holds record = true) :
    (wider.leaf caseSensitive).holds other = true := by
  rw [holds_leaf_iff] at h ⊢
  obtain ⟨glob, hglob, name, hname, text, htext, hmatch⟩ := h
  obtain ⟨hmem, hsame⟩ := hfields name hname text htext
  exact ⟨glob, hpattern ▸ hglob, name, hmem, text, hsame, hmatch⟩

/-- Phrases that differ only in fields that the record does not have hold alike. -/
theorem Phrase.holds_congr {phrase other : Phrase}
    (hfields : AgreeOn record phrase.fields other.fields)
    (hpattern : phrase.pattern = other.pattern)
    (hnegated : phrase.negated = other.negated) (caseSensitive : Bool) :
    (phrase.tree caseSensitive).holds record = (other.tree caseSensitive).holds record := by
  have hleaf : (phrase.leaf caseSensitive).holds record =
      (other.leaf caseSensitive).holds record := by
    rw [Bool.eq_iff_iff]
    constructor
    · refine holds_leaf_mono hpattern (fun name hname text htext => ?_) caseSensitive
      exact ⟨(hfields name (by simp [htext])).1 hname, htext⟩
    · refine holds_leaf_mono hpattern.symm (fun name hname text htext => ?_) caseSensitive
      exact ⟨(hfields name (by simp [htext])).2 hname, htext⟩
  rw [tree, tree, hnegated]
  split
  · rw [Tree.holds_negate, Tree.holds_negate, Tree.holds_test, Tree.holds_test, hleaf]
  · rw [Tree.holds_test, Tree.holds_test, hleaf]

end Leaves

/-! ### Queries -/

section Queries

variable {ρ : Type} [Record ρ] {record : ρ} {defaults others : FieldList}
  (h : AgreeOn record defaults others)
include h

/-- The fields of a token agree: they are those of its scope, or the default fields. -/
theorem agreeOn_scopeFields (unsigned : List Char) :
    AgreeOn record (Phrase.scopeFields unsigned defaults) (Phrase.scopeFields unsigned others) := by
  rw [Phrase.scopeFields, Phrase.scopeFields]
  cases scope? unsigned with
  | none => exact h
  | some found => exact .refl record _

theorem holds_parse_congr (token : String) (caseSensitive : Bool) :
    ((Phrase.parse token defaults).tree caseSensitive).holds record =
      ((Phrase.parse token others).tree caseSensitive).holds record := by
  rw [Phrase.parse, Phrase.parse]
  apply Phrase.holds_congr
  · exact agreeOn_scopeFields h _
  · rfl
  · rfl

/-- **A verdict does not change** with default fields that agree on the record. -/
theorem test_congr (search : String) (options : Options) :
    (Filter.new search defaults options).test record =
      (Filter.new search others options).test record := by
  simp only [test_new, holds_groupTree, holds_parse_congr h]

end Queries

end Query

/-! ### The names of all fields -/

namespace Records

open RecordQuery.Json (Entries)

theorem mem_fieldNames_iff {records : List Entries} {name : String} :
    name ∈ (fieldNames records).names ↔ ∃ record ∈ records, name ∈ record.map Prod.fst := by
  rw [fieldNames, List.mem_eraseDups, List.mem_flatMap]

/-- A field that is there has one of the names of the record. -/
theorem mem_names_of_fieldText {record : Entries} {name : String}
    (h : Record.fieldText record name ≠ none) : name ∈ record.map Prod.fst := by
  obtain ⟨text, htext⟩ := Option.ne_none_iff_exists'.1 h
  obtain ⟨value, hvalue, -⟩ := Option.bind_eq_some_iff.1 htext
  obtain ⟨before, after, rfl, -⟩ := List.lookup_eq_some_iff.1 hvalue
  simp

/-- **The names of all fields** of some records agree, on each of them, with its own. -/
theorem agreeOn_fieldNames {records : List Entries} {record : Entries} (h : record ∈ records) :
    Query.AgreeOn record (fieldNames records) (fieldNames [record]) := by
  intro name hname
  have hmem := mem_names_of_fieldText hname
  exact iff_of_true (mem_fieldNames_iff.2 ⟨record, h, hmem⟩)
    (mem_fieldNames_iff.2 ⟨record, List.mem_singleton_self record, hmem⟩)

end Records

end RecordQuery
