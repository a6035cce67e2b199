import Mathlib.Data.List.Forall2
import Mathlib.Logic.Relation
import RecordQuery.Proofs.Verdicts

/-!
# Order and repetition

A conjunction asks whether all of its children hold and a disjunction whether one does, and a
leaf asks whether one of its fields matches. None of the three sees in which order its items
stand, or whether one of them is there twice.

One change of a condition (`RecordQuery.Query.Tree.Change`) permutes the children of a node or
the names of a leaf, or repeats one of them, in a single place at any depth. It keeps every
verdict (`RecordQuery.Query.Tree.Change.holds_eq`), and so does any number of changes, there and
back (`RecordQuery.Query.Tree.Rearranged`).

That queries are the same but for order and repetition is said of what they ask for, without a
word of conditions: every group of one has a counterpart in the other, with the same phrases up
to the names of their fields (`RecordQuery.Query.AskAlike`). Such queries compile to conditions
that are rearranged into one another (`RecordQuery.Query.rearranged_compile`). The step from
counterparts to changes is one about lists: if the items of two lists have counterparts in one
another, then the lists can be shuffled until the counterparts stand side by side
(`RecordQuery.Query.SameItems.exists_shuffled`).
-/

namespace RecordQuery.Query

open RecordQuery.Json (Value)
open Relation (EqvGen)

/-- A map that takes steps to steps takes what they generate to what these generate. -/
theorem eqvGen_map {α β : Type} {r : α → α → Prop} {s : β → β → Prop} {f : α → β}
    (hf : ∀ a b, r a b → s (f a) (f b)) {a b : α} (h : EqvGen r a b) :
    EqvGen s (f a) (f b) := by
  induction h with
  | rel a b h => exact .rel _ _ (hf a b h)
  | refl a => exact .refl _
  | symm a b _ ih => exact .symm _ _ ih
  | trans a b c _ _ ih ih' => exact .trans _ _ _ ih ih'

/-! ### Lists -/

section Lists

variable {α : Type}

/-- **One change of a list** in order or repetition. -/
inductive Shuffle : List α → List α → Prop
  /-- The items are permuted. -/
  | permute {items others : List α} (h : items.Perm others) : Shuffle items others
  /-- An item is repeated. -/
  | duplicate {items : List α} {item : α} (h : item ∈ items) : Shuffle items (item :: items)

/-- **Lists that differ in order and repetition only**: some number of changes, each made or
undone, leads from one to the other. -/
def Shuffled : List α → List α → Prop :=
  EqvGen Shuffle

theorem Shuffle.mem_iff {items others : List α} (h : Shuffle items others) (item : α) :
    item ∈ items ↔ item ∈ others := by
  cases h with
  | permute h => exact h.mem_iff
  | duplicate h =>
    rw [List.mem_cons]
    constructor
    · exact Or.inr
    · rintro (rfl | hmem)
      · exact h
      · exact hmem

/-- Items of a list may be put in front of it once more. -/
theorem shuffled_append {items others : List α} (h : others ⊆ items) :
    Shuffled items (others ++ items) := by
  induction others with
  | nil => exact .refl _
  | cons other others ih =>
    obtain ⟨hmem, hsub⟩ := List.cons_subset.1 h
    have hstep : Shuffle (others ++ items) (other :: (others ++ items)) :=
      .duplicate (List.mem_append_right _ hmem)
    exact .trans _ _ _ (ih hsub) (.rel _ _ hstep)

/-- **Lists with the same items** can be shuffled into one another: each takes up the items of
the other, and then they are permuted. -/
theorem shuffled_of_subset {items others : List α} (h : items ⊆ others) (h' : others ⊆ items) :
    Shuffled items others := by
  have hswap : Shuffle (others ++ items) (items ++ others) := .permute List.perm_append_comm
  have hback : Shuffled (items ++ others) others := .symm _ _ (shuffled_append h)
  exact .trans _ _ _ (shuffled_append h') (.trans _ _ _ (.rel _ _ hswap) hback)

section Counterparts

variable {β : Type} (r : α → β → Prop) (items : List α) (others : List β)

/-- Whether every item of a list has a counterpart in another. -/
def Covers : Prop :=
  ∀ item ∈ items, ∃ other ∈ others, r item other

/-- **Whether the items of two lists correspond**: every item of each has a counterpart in the
other. -/
def SameItems : Prop :=
  Covers r items others ∧ Covers (fun other item => r item other) others items

instance [∀ item other, Decidable (r item other)] : Decidable (Covers r items others) :=
  inferInstanceAs (Decidable (∀ item ∈ items, ∃ other ∈ others, r item other))

instance [∀ item other, Decidable (r item other)] : Decidable (SameItems r items others) :=
  inferInstanceAs (Decidable (Covers r items others ∧ Covers _ others items))

variable {r items others} {γ δ : Type} {s : γ → δ → Prop} {f : α → γ} {g : β → δ}

/-- Items with counterparts are taken to items with counterparts. -/
theorem Covers.map (h : Covers r items others)
    (hmap : ∀ item other, r item other → s (f item) (g other)) :
    Covers s (items.map f) (others.map g) := by
  intro image himage
  obtain ⟨item, hitem, rfl⟩ := List.mem_map.1 himage
  obtain ⟨other, hother, hr⟩ := h item hitem
  exact ⟨g other, List.mem_map_of_mem hother, hmap item other hr⟩

theorem SameItems.map (h : SameItems r items others)
    (hmap : ∀ item other, r item other → s (f item) (g other)) :
    SameItems s (items.map f) (others.map g) :=
  ⟨h.1.map hmap, h.2.map fun other item => hmap item other⟩

theorem covers_of_forall₂ (h : List.Forall₂ r items others) : Covers r items others := by
  induction h with
  | nil => exact fun item hitem => absurd hitem List.not_mem_nil
  | @cons item other items others hr _ ih =>
    refine List.forall_mem_cons.2 ⟨⟨other, List.mem_cons_self, hr⟩, fun item hitem => ?_⟩
    obtain ⟨other, hother, hr⟩ := ih item hitem
    exact ⟨other, List.mem_cons_of_mem _ hother, hr⟩

/-- Lists that correspond item by item have corresponding items. -/
theorem sameItems_of_forall₂ (h : List.Forall₂ r items others) : SameItems r items others :=
  ⟨covers_of_forall₂ h, covers_of_forall₂ h.flip⟩

end Counterparts

/-- **Counterparts side by side.** Lists whose items correspond can be shuffled until they
correspond item by item: every item takes its counterpart along, in front of the other list or
behind it. -/
theorem SameItems.exists_shuffled {r : α → α → Prop} {items others : List α}
    (h : SameItems r items others) :
    ∃ firsts seconds, Shuffled items firsts ∧ List.Forall₂ r firsts seconds ∧
      Shuffled seconds others := by
  obtain ⟨hitems, hothers⟩ := h
  choose! right hright using hitems
  choose! left hleft using hothers
  have hmap : others.map left ⊆ items := by
    intro item hitem
    obtain ⟨other, hother, rfl⟩ := List.mem_map.1 hitem
    exact (hleft other hother).1
  have hmap' : items.map right ⊆ others := by
    intro other hother
    obtain ⟨item, hitem, rfl⟩ := List.mem_map.1 hother
    exact (hright item hitem).1
  refine ⟨items ++ others.map left, items.map right ++ others, ?_, ?_, ?_⟩
  · exact shuffled_of_subset (List.subset_append_left _ _)
      (List.append_subset.2 ⟨List.Subset.refl _, hmap⟩)
  · refine List.rel_append ?_ ?_
    · rw [List.forall₂_map_right_iff, List.forall₂_same]
      exact fun item hitem => (hright item hitem).2
    · rw [List.forall₂_map_left_iff, List.forall₂_same]
      exact fun other hother => (hleft other hother).2
  · exact shuffled_of_subset (List.append_subset.2 ⟨hmap', List.Subset.refl _⟩)
      (List.subset_append_right _ _)

end Lists

/-! ### Conditions -/

namespace Tree

/-- Whether conditions are made from a list of children in this way: as a conjunction, or as a
disjunction. -/
def IsJunction (join : List Tree → Tree) : Prop :=
  join = .all ∨ join = .any

/-- **One change of a condition** in order or repetition. -/
inductive Change : Tree → Tree → Prop
  /-- The children of a conjunction or a disjunction change. -/
  | children {join : List Tree → Tree} (hjoin : IsJunction join) {children others : List Tree}
      (h : Shuffle children others) : Change (join children) (join others)
  /-- The field names of a leaf change. -/
  | names {names others : List String} (h : Shuffle names others) (pattern : String)
      (glob : Option Glob) :
      Change (.test ⟨⟨names⟩, pattern, glob⟩) (.test ⟨⟨others⟩, pattern, glob⟩)
  /-- One of the children changes. -/
  | inside {join : List Tree → Tree} (hjoin : IsJunction join) (before after : List Tree)
      {child other : Tree} (h : Change child other) :
      Change (join (before ++ child :: after)) (join (before ++ other :: after))
  /-- What is negated changes. -/
  | negate {child other : Tree} (h : Change child other) :
      Change (.negate child) (.negate other)

/-- **Conditions that differ in order and repetition only**, in any number of places. -/
def Rearranged : Tree → Tree → Prop :=
  EqvGen Change

section Holds

variable {ρ : Type} [Record ρ] {record : ρ} {join : List Tree → Tree} (hjoin : IsJunction join)
include hjoin

/-- A conjunction that holds, or a disjunction, still does with other children, if every verdict
on one of the children is one on some of the others, and the other way round. -/
theorem holds_of_sameItems {children others : List Tree}
    (h : SameItems (fun child other => child.holds record = other.holds record) children others)
    (hholds : (join children).holds record = true) : (join others).holds record = true := by
  obtain ⟨hchildren, hothers⟩ := h
  rcases hjoin with rfl | rfl
  · rw [holds_all, List.all_eq_true] at hholds ⊢
    intro other hother
    obtain ⟨child, hchild, heq⟩ := hothers other hother
    rw [← heq]
    exact hholds child hchild
  · rw [holds_any, List.any_eq_true] at hholds ⊢
    obtain ⟨child, hchild, htrue⟩ := hholds
    obtain ⟨other, hother, heq⟩ := hchildren child hchild
    exact ⟨other, hother, heq ▸ htrue⟩

theorem holds_eq_of_sameItems {children others : List Tree}
    (h : SameItems (fun child other => child.holds record = other.holds record) children others) :
    (join children).holds record = (join others).holds record := by
  have hback : SameItems (fun other child => other.holds record = child.holds record)
      others children := by
    simpa only [SameItems, eq_comm] using h.symm
  rw [Bool.eq_iff_iff]
  exact ⟨holds_of_sameItems hjoin h, holds_of_sameItems hjoin hback⟩

end Holds

/-- **One change keeps every verdict**: by induction on the place of the change. -/
theorem Change.holds_eq {tree other : Tree} (h : Change tree other) {ρ : Type} [Record ρ]
    (record : ρ) : tree.holds record = other.holds record := by
  induction h with
  | children hjoin h =>
    refine holds_eq_of_sameItems hjoin ⟨fun child hchild => ?_, fun other hother => ?_⟩
    · exact ⟨child, (h.mem_iff child).1 hchild, rfl⟩
    · exact ⟨other, (h.mem_iff other).2 hother, rfl⟩
  | names h pattern glob =>
    rw [holds_test, holds_test, Bool.eq_iff_iff, Leaf.holds_iff, Leaf.holds_iff]
    simp only [h.mem_iff]
  | inside hjoin before after h ih =>
    have hsame : ∀ children : List Tree, List.Forall₂
        (fun child other => child.holds record = other.holds record) children children :=
      fun children => List.forall₂_same.2 fun _ _ => rfl
    exact holds_eq_of_sameItems hjoin
      (sameItems_of_forall₂ (List.rel_append (hsame before) (.cons ih (hsame after))))
  | negate h ih => rw [holds_negate, holds_negate, ih]

/-- **Any number of changes keeps every verdict.** -/
theorem Rearranged.holds_eq {tree other : Tree} (h : tree.Rearranged other) {ρ : Type} [Record ρ]
    (record : ρ) : tree.holds record = other.holds record := by
  induction h with
  | rel tree other h => exact h.holds_eq record
  | refl tree => rfl
  | symm tree other _ ih => exact ih.symm
  | trans tree middle other _ _ ih ih' => exact ih.trans ih'

/-! ### Rearranging the parts of a condition -/

section Parts

variable {join : List Tree → Tree} (hjoin : IsJunction join)
include hjoin

/-- Children that are rearranged one by one rearrange the whole: by induction on the list, with
the children in front of it done already. -/
theorem rearranged_append {children others : List Tree}
    (h : List.Forall₂ Rearranged children others) (before : List Tree) :
    Rearranged (join (before ++ children)) (join (before ++ others)) := by
  induction h generalizing before with
  | nil => exact .refl _
  | @cons child other children others hchild _ ih =>
    have hfirst : Rearranged (join (before ++ child :: children))
        (join (before ++ other :: children)) :=
      eqvGen_map (f := fun part => join (before ++ part :: children))
        (fun _ _ hchange => .inside hjoin before children hchange) hchild
    have hothers := ih (before ++ [other])
    rw [List.append_assoc, List.append_assoc] at hothers
    exact .trans _ _ _ hfirst hothers

/-- **Children that correspond up to rearrangement** rearrange the whole. -/
theorem rearranged_of_sameItems {children others : List Tree}
    (h : SameItems Rearranged children others) :
    Rearranged (join children) (join others) := by
  have hshuffled : ∀ {first second : List Tree}, Shuffled first second →
      Rearranged (join first) (join second) :=
    eqvGen_map fun _ _ hshuffle => .children hjoin hshuffle
  obtain ⟨firsts, seconds, hfirsts, heach, hseconds⟩ := h.exists_shuffled
  exact .trans _ _ _ (hshuffled hfirsts)
    (.trans _ _ _ (rearranged_append hjoin heach []) (hshuffled hseconds))

end Parts

end Tree

/-! ### Queries -/

/-- **Whether two phrases ask for the same**: they have the same sign and the same pattern, and
the same fields up to order and repetition. -/
structure Phrase.AskAlike (phrase other : Phrase) : Prop where
  /-- Both exclude what they match, or none does. -/
  negated_eq : phrase.negated = other.negated
  /-- They look for the same glob. -/
  pattern_eq : phrase.pattern = other.pattern
  /-- The fields of the first are among those of the other. -/
  subset : phrase.fields.names ⊆ other.fields.names
  /-- The fields of the other are among those of the first. -/
  superset : other.fields.names ⊆ phrase.fields.names

theorem Phrase.askAlike_iff {phrase other : Phrase} : phrase.AskAlike other ↔
    phrase.negated = other.negated ∧ phrase.pattern = other.pattern ∧
      phrase.fields.names ⊆ other.fields.names ∧ other.fields.names ⊆ phrase.fields.names :=
  ⟨fun ⟨hnegated, hpattern, hsub, hsuper⟩ => ⟨hnegated, hpattern, hsub, hsuper⟩,
    fun ⟨hnegated, hpattern, hsub, hsuper⟩ => ⟨hnegated, hpattern, hsub, hsuper⟩⟩

instance (phrase other : Phrase) : Decidable (phrase.AskAlike other) :=
  decidable_of_iff _ Phrase.askAlike_iff.symm

/-- **Whether two queries ask for the same but for order and repetition**, each with default
fields of its own: of their groups, of the phrases in a group, and of the fields of a phrase,
be they those of its scope or the default fields. -/
def AskAlike (search : String) (defaults : FieldList) (other : String) (others : FieldList) :
    Prop :=
  SameItems (SameItems fun token word =>
    (Phrase.parse token defaults).AskAlike (Phrase.parse word others)) (groups search)
      (groups other)

instance (search : String) (defaults : FieldList) (other : String) (others : FieldList) :
    Decidable (AskAlike search defaults other others) :=
  inferInstanceAs (Decidable (SameItems _ (groups search) (groups other)))

/-- The conditions of phrases that ask for the same are rearranged into one another. -/
theorem Phrase.AskAlike.rearranged {phrase other : Phrase} (h : phrase.AskAlike other)
    (caseSensitive : Bool) :
    (phrase.tree caseSensitive).Rearranged (other.tree caseSensitive) := by
  have hleaf : Tree.Rearranged (.test (phrase.leaf caseSensitive))
      (.test (other.leaf caseSensitive)) := by
    rw [leaf_eq, leaf_eq, h.pattern_eq]
    exact eqvGen_map (f := fun names => Tree.test ⟨⟨names⟩, other.pattern, _⟩)
      (fun _ _ hshuffle => .names hshuffle _ _) (shuffled_of_subset h.subset h.superset)
  rw [tree, tree, h.negated_eq]
  split
  · exact eqvGen_map (fun _ _ hchange => .negate hchange) hleaf
  · exact hleaf

/-- **Queries that ask for the same** compile to conditions that are rearranged into one
another: the phrases of a group, and then the groups, correspond up to rearrangement. -/
theorem rearranged_compile {search other : String} {defaults others : FieldList}
    (h : AskAlike search defaults other others) (caseSensitive : Bool) :
    (compile search defaults caseSensitive).tree.Rearranged
      (compile other others caseSensitive).tree := by
  refine Tree.rearranged_of_sameItems (.inr rfl) (h.map fun group words hgroup => ?_)
  refine Tree.rearranged_of_sameItems (.inl rfl) (hgroup.map fun token word hphrase => ?_)
  exact hphrase.rearranged caseSensitive

/-- **Order and repetition change no verdict.** Let one condition come from another, of any
depth, by changes in order or repetition, made or undone in any number of places: the children
of a conjunction or a disjunction are permuted or one of them is repeated, or the names of a
leaf. Then the same records of any type satisfy the two. And let two queries, each with default
fields of its own, ask for the same but for the order and the repetition of groups, of the
phrases in a group, and of the names in a scope or among the default fields. Then the same
records match them, whether case counts or not. -/
theorem verdict_rearranged :
    (∀ {tree other : Tree}, tree.Rearranged other →
        ∀ {ρ : Type} [Record ρ] (record : ρ), tree.holds record = other.holds record) ∧
      ∀ {search other : String} {defaults others : FieldList},
        AskAlike search defaults other others →
          ∀ (options : Options) {ρ : Type} [Record ρ] (record : ρ),
            (Filter.new search defaults options).test record =
              (Filter.new other others options).test record := by
  constructor
  · intro tree other h ρ _ record
    exact h.holds_eq record
  · intro search other defaults others h options ρ _ record
    exact (rearranged_compile h options.caseSensitive).holds_eq record

/-- A leaf that looks for a name. -/
def adaTest (names : List String) : Tree :=
  .test ⟨⟨names⟩, "ada", (Glob.compile? "ada" false).toOption⟩

/-- A condition with a negation and empty nodes in it. -/
def tidyTree : Tree :=
  .any [.all [adaTest ["name", "nick"], .negate (.any [.any []])], .any []]

/-- The same condition with a name, a child of the inner and a child of the outer disjunction
repeated, and with the children of the conjunction in another order. -/
def untidyTree : Tree :=
  .any [.any [], .all [.negate (.any [.any [], .any []]), adaTest ["nick", "name", "nick"]],
    .any []]

/-- A tree with changes at all depths, and two queries that repeat and permute a group, phrases,
the names of a scope and the default fields. -/
theorem verdict_rearranged_untidy :
    tidyTree.Rearranged untidyTree ∧
      untidyTree.holds (Value.object [("nick", .string "Ada")]) = true ∧
      AskAlike "a b,c:\"x y\" | -d" ⟨["f", "g"]⟩ "-d | c|b|c:\"x y\" a a | -d"
        ⟨["g", "f", "g"]⟩ ∧
      (Filter.new "-d | c|b|c:\"x y\" a a | -d" ⟨["g", "f", "g"]⟩ ⟨true⟩).test
        (Value.object [("c", .string "x y"), ("g", .string "da")]) = true := by
  have hinside : ∀ {child other : Tree}, child.Change other →
      Tree.Rearranged (.any [child, .any []]) (.any [other, .any []]) :=
    fun h => .rel _ _ (.inside (.inr rfl) [] [.any []] h)
  have hname : Tree.Change (adaTest ["name", "nick"]) (adaTest ["nick", "name", "nick"]) :=
    .names (.duplicate (by decide)) _ _
  have hnegated : Tree.Change (.negate (.any [.any []])) (.negate (.any [.any [], .any []])) :=
    .negate (.children (.inr rfl) (.duplicate List.mem_cons_self))
  have htidy : tidyTree.Rearranged untidyTree := by
    refine .trans _ _ _ (hinside (.inside (.inl rfl) [] _ hname)) ?_
    refine .trans _ _ _ (hinside (.inside (.inl rfl) [_] [] hnegated)) ?_
    refine .trans _ _ _ (hinside (.children (.inl rfl) (.permute (.swap _ _ _)))) ?_
    exact .rel _ _ (.children (.inr rfl) (.duplicate (by simp)))
  have halike : AskAlike "a b,c:\"x y\" | -d" ⟨["f", "g"]⟩ "-d | c|b|c:\"x y\" a a | -d"
      ⟨["g", "f", "g"]⟩ := by
    decide +kernel
  obtain ⟨htree, hquery⟩ := verdict_rearranged
  exact ⟨htidy, (htree htidy _).symm.trans (by decide +kernel), halike,
    (hquery halike ⟨true⟩ _).symm.trans (by decide +kernel)⟩

end RecordQuery.Query
