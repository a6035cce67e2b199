import RecordQuery.Proofs.Parts
import RecordQuery.Proofs.Views

/-!
# More fields and more data

A query without negated phrases that a record satisfies is still satisfied when more fields
are searched by default or when the record has more fields: a leaf asks for one field with a
text that matches, and that field is still there
(`RecordQuery.Query.Phrase.holds_leaf_mono`). A query of negated phrases only goes the
other way. Conjunctions and disjunctions keep either direction, so a query goes the way all of
its phrases go (`RecordQuery.Query.test_of_phrases`), and which way that is can be seen from
the first characters of its tokens.
-/

namespace RecordQuery.Query

open RecordQuery.Json (Entries Value)

/-! ### Signs -/

/-- A phrase is negated if its token starts with a minus sign. -/
theorem Phrase.negated_parse_iff (token : String) (defaults : FieldList) :
    (parse token defaults).negated = true ↔ token.toList.head? = some '-' :=
  splitSign_fst_iff

section Sign

variable {ρ : Type} [Record ρ] {token : String} (defaults : FieldList) (caseSensitive : Bool)
  (record : ρ)

theorem holds_parse_of_plain (h : token.toList.head? ≠ some '-') :
    ((Phrase.parse token defaults).tree caseSensitive).holds record =
      ((Phrase.parse token defaults).leaf caseSensitive).holds record := by
  rw [Phrase.tree, if_neg fun hnegated => h ((Phrase.negated_parse_iff token defaults).1 hnegated),
    Tree.holds_test]

theorem holds_parse_of_minus (h : token.toList.head? = some '-') :
    ((Phrase.parse token defaults).tree caseSensitive).holds record =
      !((Phrase.parse token defaults).leaf caseSensitive).holds record := by
  rw [Phrase.tree, if_pos ((Phrase.negated_parse_iff token defaults).2 h), Tree.holds_negate,
    Tree.holds_test]

end Sign

/-! ### One phrase -/

/-- **Whether a record extends another**, maybe of another type: it has every field of it, with
the same text. -/
def Extends {ρ σ : Type} [Record ρ] [Record σ] (wider : σ) (record : ρ) : Prop :=
  ∀ name text, Record.fieldText record name = some text → Record.fieldText wider name = some text

/-- Putting a value where a record has no text extends it. -/
theorem extends_insertEntry {entries : Entries} {key : String}
    (h : Record.fieldText entries key = none) (value : Value) :
    Extends (Json.insertEntry key value entries : Entries) entries := by
  intro name text htext
  rw [Record.fieldText_insertEntry, if_neg]
  · exact htext
  · rintro rfl
    exact absurd (h.symm.trans htext) (by simp)

section Widening

variable {ρ σ : Type} [Record ρ] [Record σ] {record : ρ} {wider : σ}
  {defaults others : FieldList}

/-- The fields of a token are among those that it has with more default fields. -/
theorem scopeFields_subset (hnames : defaults.names ⊆ others.names) (unsigned : List Char) :
    (Phrase.scopeFields unsigned defaults).names ⊆
      (Phrase.scopeFields unsigned others).names := by
  rw [Phrase.scopeFields, Phrase.scopeFields]
  cases scope? unsigned with
  | none => exact hnames
  | some found => exact List.Subset.refl _

variable (hnames : defaults.names ⊆ others.names) (htexts : Extends wider record)
include hnames htexts

/-- **The leaf of a token** that holds still does with more default fields and of more data. -/
theorem holds_leaf_parse_mono (token : String) (caseSensitive : Bool)
    (h : ((Phrase.parse token defaults).leaf caseSensitive).holds record = true) :
    ((Phrase.parse token others).leaf caseSensitive).holds wider = true := by
  -- the default fields have no part in the pattern
  have hpattern : (Phrase.parse token defaults).pattern = (Phrase.parse token others).pattern :=
    rfl
  refine Phrase.holds_leaf_mono hpattern (fun name hname text htext => ?_) caseSensitive h
  exact ⟨scopeFields_subset hnames _ hname, htexts name text htext⟩

/-- **A phrase without a sign** stays satisfied with more default fields and of more data. -/
theorem holds_parse_mono {token : String} (hplain : token.toList.head? ≠ some '-')
    (caseSensitive : Bool)
    (h : ((Phrase.parse token defaults).tree caseSensitive).holds record = true) :
    ((Phrase.parse token others).tree caseSensitive).holds wider = true := by
  rw [holds_parse_of_plain _ _ _ hplain] at h ⊢
  exact holds_leaf_parse_mono hnames htexts token caseSensitive h

/-- **A phrase with a sign** stays satisfied with fewer default fields and of less data. -/
theorem holds_parse_anti {token : String} (hminus : token.toList.head? = some '-')
    (caseSensitive : Bool)
    (h : ((Phrase.parse token others).tree caseSensitive).holds wider = true) :
    ((Phrase.parse token defaults).tree caseSensitive).holds record = true := by
  rw [holds_parse_of_minus _ _ _ hminus, Bool.not_eq_true'] at h ⊢
  -- a leaf that held of less would hold of more
  refine Bool.eq_false_iff.2 fun hholds => ?_
  rw [holds_leaf_parse_mono hnames htexts token caseSensitive hholds] at h
  exact Bool.noConfusion h

end Widening

/-! ### Queries -/

/-- **A query goes the way its phrases go**: if each of them that one record satisfies is
satisfied by another, with default fields of its own, then so is the query. -/
theorem test_of_phrases {ρ σ : Type} [Record ρ] [Record σ] {record : ρ} {other : σ}
    {search : String} {defaults others : FieldList} {options : Options}
    (h : ∀ token ∈ tokenize search, token ≠ groupSeparator →
      ((Phrase.parse token defaults).tree options.caseSensitive).holds record = true →
        ((Phrase.parse token others).tree options.caseSensitive).holds other = true)
    (htest : (Filter.new search defaults options).test record = true) :
    (Filter.new search others options).test other = true := by
  rw [test_new, List.any_eq_true] at htest ⊢
  obtain ⟨group, hgroup, hholds⟩ := htest
  refine ⟨group, hgroup, ?_⟩
  rw [holds_groupTree, List.all_eq_true] at hholds ⊢
  intro token htoken
  obtain ⟨hword, hne⟩ := mem_groups hgroup htoken
  exact h token hword hne (hholds token htoken)

/-- **More fields and more data.** Let some default fields be among others, and let one record
extend another, maybe of another type. If no token of a query starts with a minus sign, then
the query with the fewer default fields matches the record only if with the others it matches
the one that extends it. If all tokens but the separators start with one, it is the other way
round. -/
theorem verdict_widened (search : String) (options : Options) {defaults others : FieldList}
    (hnames : defaults.names ⊆ others.names) {ρ σ : Type} [Record ρ] [Record σ] {record : ρ}
    {wider : σ} (htexts : Extends wider record) :
    ((∀ token ∈ tokenize search, token.toList.head? ≠ some '-') →
        (Filter.new search defaults options).test record = true →
          (Filter.new search others options).test wider = true) ∧
      ((∀ token ∈ tokenize search, token ≠ groupSeparator → token.toList.head? = some '-') →
        (Filter.new search others options).test wider = true →
          (Filter.new search defaults options).test record = true) := by
  constructor
  · intro hplain
    refine test_of_phrases fun token htoken _ => ?_
    exact holds_parse_mono hnames htexts (hplain token htoken) options.caseSensitive
  · intro hminus
    refine test_of_phrases fun token htoken hne => ?_
    exact holds_parse_anti hnames htexts (hminus token htoken hne) options.caseSensitive

/-- A record of one text and one null. -/
def londonEntries : Entries :=
  [("city", .string "London"), ("name", .null)]

/-- The null is given a text and its field is searched as well: what was found by the city is
still found, and what is not excluded then was not excluded before. -/
theorem verdict_widened_named :
    FieldList.names ⟨["city"]⟩ ⊆ FieldList.names ⟨["name", "city", "name"]⟩ ∧
      Extends (Json.insertEntry "name" (.string "Ada") londonEntries : Entries)
        (Value.object londonEntries) ∧
      (∀ token ∈ tokenize "lon* city:\"n d\" | lon", token.toList.head? ≠ some '-') ∧
      (Filter.new "lon* city:\"n d\" | lon" ⟨["name", "city", "name"]⟩ ⟨false⟩).test
        (Json.insertEntry "name" (.string "Ada") londonEntries : Entries) = true ∧
      (∀ token ∈ tokenize "-ada | -x -name:\"y z\"", token ≠ groupSeparator →
        token.toList.head? = some '-') ∧
      (Filter.new "-ada | -x -name:\"y z\"" ⟨["city"]⟩ ⟨false⟩).test
        (Value.object londonEntries) = true := by
  have hnames : FieldList.names ⟨["city"]⟩ ⊆ FieldList.names ⟨["name", "city", "name"]⟩ := by
    simp
  have htexts : Extends (Json.insertEntry "name" (.string "Ada") londonEntries : Entries)
      (Value.object londonEntries) :=
    extends_insertEntry (by decide +kernel) _
  have hplain : ∀ token ∈ tokenize "lon* city:\"n d\" | lon", token.toList.head? ≠ some '-' := by
    decide +kernel
  have hminus : ∀ token ∈ tokenize "-ada | -x -name:\"y z\"", token ≠ groupSeparator →
      token.toList.head? = some '-' := by
    decide +kernel
  obtain ⟨hmore, -⟩ := verdict_widened "lon* city:\"n d\" | lon" ⟨false⟩ hnames htexts
  obtain ⟨-, hless⟩ := verdict_widened "-ada | -x -name:\"y z\"" ⟨false⟩ hnames htexts
  exact ⟨hnames, htexts, hplain, hmore hplain (by decide +kernel), hminus,
    hless hminus (by decide +kernel)⟩

end RecordQuery.Query
