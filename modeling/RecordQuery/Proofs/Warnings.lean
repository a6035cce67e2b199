import RecordQuery.Proofs.Parts
import RecordQuery.Proofs.Verdicts
import RecordQuery.Proofs.Wildcards

/-!
# What the warnings of a query say

Compiling a query warns about an empty group at the place of the group, and about a token at
the place of its group, its place in the group and the place of the check that finds something
(`RecordQuery.Query.Arises`). What a check finds is a matter of the parts of the token
(`RecordQuery.Query.Complaint`). The warnings are those of all places, in the order of the
places and with none left out (`RecordQuery.Query.mem_notes_iff`): a list of entries put
together item by item is in order if the entries of each item are, and it has the entries of
every item (`RecordQuery.Query.underPlaces`).

What is warned about can be seen in the condition the query compiles to. An empty group holds
of every record, the leaf of an empty pattern of the records with one of its fields, the leaf of
a refused pattern of none, and without a stray bar the parts of a phrase lose nothing but their
quotation marks (`RecordQuery.Query.warnings_exact`).
-/

namespace RecordQuery.Query

/-! ### Entries by place -/

section Places

variable {α β : Type} {entries : α → Nat → List (List Nat × β)} {items : List α}

/-- The entries of some items one behind the other, with the place of its item in front of the
place of each. -/
def underPlaces (entries : α → Nat → List (List Nat × β)) (items : List α) :
    List (List Nat × β) :=
  items.zipIdx.flatMap fun item =>
    (entries item.1 item.2).map fun entry => (item.2 :: entry.1, entry.2)

theorem mem_underPlaces_iff {place : List Nat} {b : β} :
    (place, b) ∈ underPlaces entries items ↔
      ∃ i item rest, items[i]? = some item ∧ (rest, b) ∈ entries item i ∧ place = i :: rest := by
  rw [underPlaces, List.mem_flatMap]
  constructor
  · rintro ⟨⟨item, i⟩, hitem, h⟩
    obtain ⟨⟨rest, b⟩, hentry, heq⟩ := List.mem_map.1 h
    obtain ⟨rfl, rfl⟩ := Prod.mk.inj heq
    exact ⟨i, item, rest, List.mk_mem_zipIdx_iff_getElem?.1 hitem, hentry, rfl⟩
  · rintro ⟨i, item, rest, hitem, hentry, rfl⟩
    exact ⟨(item, i), List.mk_mem_zipIdx_iff_getElem?.2 hitem,
      List.mem_map.2 ⟨(rest, b), hentry, rfl⟩⟩

theorem pairwise_zipIdx (items : List α) :
    items.zipIdx.Pairwise fun item later => item.2 < later.2 := by
  rw [← List.pairwise_map, List.zipIdx_map_snd]
  exact List.pairwise_lt_range'

/-- **Entries stay in order** if those of each item are. -/
theorem pairwise_underPlaces
    (h : ∀ item i, (entries item i).Pairwise fun entry later => entry.1 < later.1) :
    (underPlaces entries items).Pairwise fun entry later => entry.1 < later.1 := by
  rw [underPlaces, List.pairwise_flatMap]
  constructor
  · -- the places below one item start alike
    intro item _
    rw [List.pairwise_map]
    exact (h item.1 item.2).imp fun hlt => List.cons_lt_cons_iff.2 (.inr ⟨rfl, hlt⟩)
  · -- those below two items differ in the first number
    refine (pairwise_zipIdx items).imp fun hlt x hx y hy => ?_
    obtain ⟨entry, -, rfl⟩ := List.mem_map.1 hx
    obtain ⟨later, -, rfl⟩ := List.mem_map.1 hy
    exact List.cons_lt_cons_iff.2 (.inl hlt)

theorem map_snd_underPlaces :
    (underPlaces entries items).map Prod.snd =
      items.zipIdx.flatMap fun item => (entries item.1 item.2).map Prod.snd := by
  rw [underPlaces, List.map_flatMap]
  simp only [List.map_map, Function.comp_def]

/-- Where the entries of an item do not depend on its place, places do not count. -/
theorem map_snd_underPlaces_const (entries : α → List (List Nat × β)) (items : List α) :
    (underPlaces (fun item _ => entries item) items).map Prod.snd =
      items.flatMap fun item => (entries item).map Prod.snd := by
  rw [map_snd_underPlaces, ← List.zipIdx_map_fst 0 items, List.flatMap_map, List.zipIdx_map_fst]

end Places

/-! ### What is warned about -/

/-- The pattern of some parts is empty if their body has quotation marks and bars only. -/
theorem Parts.pattern_eq_empty_iff {parts : Parts} :
    parts.pattern = "" ↔ ∀ c ∈ parts.body, c = '"' ∨ c = '|' := by
  rw [pattern, String.ofList_eq_empty_iff, List.filter_eq_nil_iff]
  refine forall₂_congr fun c _ => ?_
  rw [decide_eq_true_iff, not_and_or, not_not, not_not]

/-- **What is wrong with a token**, by the place of the check that finds it. -/
inductive Complaint (caseSensitive : Bool) (token : String) : Nat → Warning → Prop
  /-- It has an odd number of quotation marks. -/
  | quotes (hodd : token.toList.count '"' % 2 = 1) :
    Complaint caseSensitive token 0 (.unbalancedQuotes token)
  /-- There is a bar behind its sign and its scope. -/
  | bar {parts : Parts} (hparts : parts.Divide token.toList) (hbar : '|' ∈ parts.body) :
    Complaint caseSensitive token 1 (.strayPipe token)
  /-- There is nothing behind its sign and its scope but quotation marks and bars. -/
  | nothing {parts : Parts} (hparts : parts.Divide token.toList)
    (hnothing : ∀ c ∈ parts.body, c = '"' ∨ c = '|') :
    Complaint caseSensitive token 2 (.emptyPattern token)
  /-- Its pattern cannot be compiled. -/
  | refused {parts : Parts} {refused : Glob.Oversized} (hparts : parts.Divide token.toList)
    (hrefused : Glob.compile? parts.pattern caseSensitive = .error refused) :
    Complaint caseSensitive token 3 (.invalidPattern parts.pattern refused.reason)

/-- **Where a warning arises**: about a group without tokens, or about a token. -/
inductive Arises (caseSensitive : Bool) (groups : List (List String)) : List Nat → Warning → Prop
  /-- A group is empty. -/
  | emptyGroup {i : Nat} (hgroup : groups[i]? = some []) :
    Arises caseSensitive groups [i] (.emptyGroup i)
  /-- Something is wrong with a token. -/
  | token {i j k : Nat} {group : List String} {token : String} {warning : Warning}
    (hgroup : groups[i]? = some group) (htoken : group[j]? = some token)
    (h : Complaint caseSensitive token k warning) :
    Arises caseSensitive groups [i, j, k] warning

/-! ### The warnings by place -/

section Notes

variable (caseSensitive : Bool)

/-- What each of the four checks finds in a token. -/
def checks (token : String) : List (Option Warning) :=
  let body := Phrase.body (Phrase.splitSign token.toList).2
  [if token.toList.count '"' % 2 = 1 then some (.unbalancedQuotes token) else none,
    if '|' ∈ body then some (.strayPipe token) else none,
    if (Phrase.patternOf body).isEmpty then some (.emptyPattern token) else none,
    match Glob.compile? (Phrase.patternOf body) caseSensitive with
    | .ok _ => none
    | .error refused => some (.invalidPattern refused.pattern refused.reason)]

/-- The warnings about a token, each at the place of its check. -/
def tokenNotes (token : String) : List (List Nat × Warning) :=
  underPlaces (fun found _ => found.toList.map fun warning => ([], warning))
    (checks caseSensitive token)

/-- The warnings about a group, by place. -/
def groupNotes (group : List String) (index : Nat) : List (List Nat × Warning) :=
  if group.isEmpty then [([], .emptyGroup index)]
  else underPlaces (fun token _ => tokenNotes caseSensitive token) group

/-- **The warnings about a query**, by place. -/
def notes (search : String) : List (List Nat × Warning) :=
  underPlaces (groupNotes caseSensitive) (groups search)

/-- The notes about a token are its warnings. -/
theorem map_snd_tokenNotes (defaults : FieldList) (token : String) :
    (tokenNotes caseSensitive token).map Prod.snd =
      tokenWarnings defaults caseSensitive token := by
  rw [tokenNotes, map_snd_underPlaces_const, tokenWarnings, Phrase.warnings, Phrase.refusal, checks]
  simp only [List.map_map, Function.comp_def, List.map_id', Phrase.parse, List.flatMap_cons,
    List.flatMap_nil, List.append_nil, List.append_assoc, apply_ite Option.toList,
    Option.toList_some, Option.toList_none]
  cases Glob.compile? (Phrase.patternOf (Phrase.body (Phrase.splitSign token.toList).2))
    caseSensitive <;> rfl

theorem map_snd_groupNotes (defaults : FieldList) (group : List String) (index : Nat) :
    (groupNotes caseSensitive group index).map Prod.snd =
      groupWarnings defaults caseSensitive group index := by
  rw [groupNotes, groupWarnings]
  split
  · rfl
  · rw [map_snd_underPlaces_const]
    exact List.flatMap_congr fun token _ => map_snd_tokenNotes caseSensitive defaults token

/-- **The notes are the warnings.** -/
theorem map_snd_notes (defaults : FieldList) (search : String) :
    (notes caseSensitive search).map Prod.snd =
      (compile search defaults caseSensitive).warnings := by
  rw [notes, map_snd_underPlaces, compile]
  simp only [map_snd_groupNotes caseSensitive defaults]

variable {caseSensitive}

/-- **What the checks find** is what is wrong with the token. -/
theorem getElem?_checks_iff {token : String} {k : Nat} {warning : Warning} :
    (checks caseSensitive token)[k]? = some (some warning) ↔
      Complaint caseSensitive token k warning := by
  -- all checks look at one division of the token, which is the only one
  obtain ⟨parts, hparts⟩ := Parts.exists_divide token.toList
  simp only [checks, hparts.body_eq, Parts.patternOf_body, String.isEmpty_iff,
    Parts.pattern_eq_empty_iff]
  constructor
  · intro h
    rcases k with _ | _ | _ | _ | k
    · obtain ⟨hodd, rfl⟩ : token.toList.count '"' % 2 = 1 ∧ .unbalancedQuotes token = warning := by
        simpa using h
      exact .quotes hodd
    · obtain ⟨hbar, rfl⟩ : '|' ∈ parts.body ∧ .strayPipe token = warning := by simpa using h
      exact .bar hparts hbar
    · obtain ⟨hnothing, rfl⟩ :
          (∀ c ∈ parts.body, c = '"' ∨ c = '|') ∧ .emptyPattern token = warning := by
        simpa using h
      exact .nothing hparts hnothing
    · cases hcompile : Glob.compile? parts.pattern caseSensitive with
      | ok glob => simp [hcompile] at h
      | error refused =>
        obtain rfl : .invalidPattern refused.pattern refused.reason = warning := by
          simpa [hcompile] using h
        rw [Glob.pattern_of_refused hcompile]
        exact .refused hparts hcompile
    · simp at h
  · intro h
    cases h with
    | quotes hodd => exact congrArg some (if_pos hodd)
    | bar hother hbar =>
      obtain rfl := hother.unique hparts
      exact congrArg some (if_pos hbar)
    | nothing hother hnothing =>
      obtain rfl := hother.unique hparts
      exact congrArg some (if_pos hnothing)
    | refused hother hrefused =>
      obtain rfl := hother.unique hparts
      simp [hrefused, Glob.pattern_of_refused hrefused]

/-- The notes about a token are what is wrong with it. -/
theorem mem_tokenNotes_iff {token : String} {place : List Nat} {warning : Warning} :
    (place, warning) ∈ tokenNotes caseSensitive token ↔
      ∃ k, Complaint caseSensitive token k warning ∧ place = [k] := by
  rw [tokenNotes, mem_underPlaces_iff]
  constructor
  · rintro ⟨k, found, rest, hfound, hnote, rfl⟩
    obtain ⟨other, hother, heq⟩ := List.mem_map.1 hnote
    obtain ⟨rfl, rfl⟩ := Prod.mk.inj heq
    obtain rfl := Option.mem_toList.1 hother
    exact ⟨k, getElem?_checks_iff.1 hfound, rfl⟩
  · rintro ⟨k, h, rfl⟩
    exact ⟨k, some warning, [], getElem?_checks_iff.2 h, List.mem_singleton_self _, rfl⟩

/-- **The notes are what there is to warn about**, each at its place. -/
theorem mem_notes_iff {search : String} {place : List Nat} {warning : Warning} :
    (place, warning) ∈ notes caseSensitive search ↔
      Arises caseSensitive (groups search) place warning := by
  rw [notes, mem_underPlaces_iff]
  constructor
  · rintro ⟨i, group, rest, hgroup, hnote, rfl⟩
    rw [groupNotes] at hnote
    split at hnote
    · next hempty =>
      obtain ⟨rfl, rfl⟩ := Prod.mk.inj (List.mem_singleton.1 hnote)
      rw [List.isEmpty_iff.1 hempty] at hgroup
      exact .emptyGroup hgroup
    · obtain ⟨j, token, rest, htoken, hbelow, rfl⟩ := mem_underPlaces_iff.1 hnote
      obtain ⟨k, h, rfl⟩ := mem_tokenNotes_iff.1 hbelow
      exact .token hgroup htoken h
  · intro h
    cases h with
    | emptyGroup hgroup => exact ⟨_, [], [], hgroup, List.mem_singleton_self _, rfl⟩
    | @token i j k group token _ hgroup htoken h =>
      have hne : ¬group.isEmpty = true := fun hempty => by
        rw [List.isEmpty_iff.1 hempty] at htoken
        exact absurd htoken (by simp)
      refine ⟨i, group, [j, k], hgroup, ?_, rfl⟩
      rw [groupNotes, if_neg hne]
      exact mem_underPlaces_iff.2
        ⟨j, token, [k], htoken, mem_tokenNotes_iff.2 ⟨k, h, rfl⟩, rfl⟩

/-- **The notes are in order.** -/
theorem pairwise_notes (search : String) :
    (notes caseSensitive search).Pairwise fun note later => note.1 < later.1 := by
  refine pairwise_underPlaces fun group index => ?_
  rw [groupNotes]
  split
  · exact List.pairwise_singleton _ _
  · refine pairwise_underPlaces fun token _ => pairwise_underPlaces fun found _ => ?_
    cases found with
    | none => exact .nil
    | some warning => exact List.pairwise_singleton _ _

/-- A query is warned about what arises somewhere in it. -/
theorem mem_warnings_iff_arises {search : String} {defaults : FieldList} {warning : Warning} :
    warning ∈ (compile search defaults caseSensitive).warnings ↔
      ∃ place, Arises caseSensitive (groups search) place warning := by
  rw [← map_snd_notes, List.mem_map]
  constructor
  · rintro ⟨⟨place, warning⟩, hnote, rfl⟩
    exact ⟨place, mem_notes_iff.1 hnote⟩
  · rintro ⟨place, h⟩
    exact ⟨(place, warning), mem_notes_iff.2 h, rfl⟩

end Notes

/-! ### What follows from a warning -/

section Warned

variable {search token : String} {defaults : FieldList} {caseSensitive : Bool} {parts : Parts}

theorem getElem?_of_emptyGroup {i : Nat}
    (h : .emptyGroup i ∈ (compile search defaults caseSensitive).warnings) :
    (groups search)[i]? = some [] := by
  obtain ⟨place, harises⟩ := mem_warnings_iff_arises.1 h
  cases harises with
  | emptyGroup hgroup => exact hgroup
  | token _ _ hcomplaint => cases hcomplaint

theorem pattern_of_emptyPattern
    (h : .emptyPattern token ∈ (compile search defaults caseSensitive).warnings)
    (hparts : parts.Divide token.toList) : parts.pattern = "" := by
  obtain ⟨place, harises⟩ := mem_warnings_iff_arises.1 h
  cases harises with
  | token _ _ hcomplaint =>
    cases hcomplaint with
    | nothing hother hnothing =>
      obtain rfl := hother.unique hparts
      exact Parts.pattern_eq_empty_iff.2 hnothing

theorem refused_of_invalidPattern {pattern reason : String}
    (h : .invalidPattern pattern reason ∈ (compile search defaults caseSensitive).warnings) :
    ∃ refused, Glob.compile? pattern caseSensitive = .error refused := by
  obtain ⟨place, harises⟩ := mem_warnings_iff_arises.1 h
  cases harises with
  | token _ _ hcomplaint =>
    cases hcomplaint with
    | refused _ hrefused => exact ⟨_, hrefused⟩

theorem bar_notMem_of_strayPipe {i j : Nat} {group : List String}
    (h : .strayPipe token ∉ (compile search defaults caseSensitive).warnings)
    (hgroup : (groups search)[i]? = some group) (htoken : group[j]? = some token)
    (hparts : parts.Divide token.toList) : '|' ∉ parts.body := fun hbar =>
  h (mem_warnings_iff_arises.2 ⟨[i, j, 1], .token hgroup htoken (.bar hparts hbar)⟩)

end Warned

/-! ### The condition -/

section Condition

variable {search : String}

/-- **Whether a leaf stands in a condition** at the place of a group and that of a token in it,
negated or not. -/
def LeafAt (tree : Tree) (i j : Nat) (negated : Bool) (leaf : Leaf) : Prop :=
  ∃ groups children, tree = .any groups ∧ groups[i]? = some (.all children) ∧
    children[j]? = some (if negated then .negate (.test leaf) else .test leaf)

/-- The leaf of a phrase stands where the phrase does. -/
theorem leafAt_compile (defaults : FieldList) (caseSensitive : Bool) {group : List String}
    {token : String} {i j : Nat} (hgroup : (groups search)[i]? = some group)
    (htoken : group[j]? = some token) :
    LeafAt (compile search defaults caseSensitive).tree i j (Phrase.parse token defaults).negated
      ((Phrase.parse token defaults).leaf caseSensitive) := by
  refine ⟨(groups search).map (groupTree defaults caseSensitive),
    group.map fun token => (Phrase.parse token defaults).tree caseSensitive, rfl, ?_, ?_⟩
  · rw [List.getElem?_map, hgroup]
    rfl
  · rw [List.getElem?_map, htoken]
    rfl

/-- **An empty group** holds of every record, and so does a query that has one. -/
theorem holds_of_emptyGroup {defaults : FieldList} {caseSensitive : Bool} {i : Nat}
    (hgroup : (groups search)[i]? = some []) {ρ : Type} [Record ρ] (record : ρ) :
    (compile search defaults caseSensitive).tree.holds record = true := by
  rw [compile, Tree.holds_any, List.any_map, List.any_eq_true]
  exact ⟨[], List.mem_of_getElem? hgroup, rfl⟩

end Condition

/-! ### Leaves that are warned about -/

section Leaves

variable {ρ : Type} [Record ρ] {phrase : Phrase} {caseSensitive : Bool}

/-- **An empty pattern** is found in every text, so its leaf asks for the fields only. -/
theorem Phrase.holds_leaf_of_empty (hpattern : phrase.pattern = "") (record : ρ) :
    (phrase.leaf caseSensitive).holds record = true ↔
      ∃ name ∈ phrase.fields.names, Record.fieldText record name ≠ none := by
  obtain ⟨glob, hglob⟩ := @Glob.exists_compile? "" caseSensitive (Nat.zero_le _)
  have hall : ∀ text, glob.isMatch text = true := fun text =>
    (Glob.isMatch_iff_split hglob text).2 ⟨[], [], text.toList, rfl, fun _ => rfl, .done⟩
  rw [holds_leaf_iff, hpattern, hglob]
  simp [hall, Option.ne_none_iff_exists']

/-- **A refused pattern** is found nowhere. -/
theorem Phrase.holds_leaf_of_refused {refused : Glob.Oversized}
    (hrefused : Glob.compile? phrase.pattern caseSensitive = .error refused) (record : ρ) :
    (phrase.leaf caseSensitive).holds record = false := by
  rw [leaf_eq, hrefused]
  rfl

/-- A field of an object has a text if it is there and is not null. -/
theorem fieldText_ne_none_iff (entries : Json.Entries) (name : String) :
    Record.fieldText entries name ≠ none ↔
      ∃ value, Json.field? entries name = some value ∧ value ≠ .null := by
  have hnull : ∀ value : Json.Value, value.text? = none ↔ value = .null := by
    intro value
    cases value <;> simp [Json.Value.text?]
  rw [Record.fieldText_entries, Ne, Option.bind_eq_none_iff]
  simp [hnull]

end Leaves

/-- **Without a bar** behind the sign and the scope of a token, its parts lose nothing but
quotation marks. -/
theorem Parts.Divide.filter_eq {parts : Parts} {token : List Char} (h : parts.Divide token)
    (hbar : '|' ∉ parts.body) :
    token.filter (· ≠ '"') =
      signText parts.negated ++ (scopeText parts.scope ++ parts.pattern.toList) := by
  have hfront : (signText parts.negated ++ scopeText parts.scope).filter (· ≠ '"') =
      signText parts.negated ++ scopeText parts.scope :=
    List.filter_eq_self.2 fun c hc => by
      have hne : c ≠ '"' := fun heq => quote_notMem_front parts.negated h.isScope (heq ▸ hc)
      exact decide_eq_true hne
  have hbody : parts.body.filter (· ≠ '"') = parts.pattern.toList := by
    rw [Parts.pattern, String.toList_ofList]
    refine List.filter_congr fun c hc => ?_
    have hne : c ≠ '|' := fun heq => hbar (heq ▸ hc)
    simp [hne]
  rw [← h.text_eq, Parts.text, ← List.append_assoc, List.filter_append, hfront, hbody,
    List.append_assoc]

/-! ### Warnings and what they say -/

/-- **The warnings about a query** are exactly what there is to warn about, in the order of the
places: group by group, token by token and check by check. What they say holds of the condition.
With an empty group every record satisfies it. Each token has its leaf in the condition, with the
fields and the pattern of the parts of the token, and negated if the token has a sign. The leaf of
an empty pattern holds of the records with one of its fields, which for the entries of an object
means that one of them is there and is not null, and the leaf of a refused pattern holds of none.
Without a warning about a bar, the sign, the scope and the pattern are the token without its
quotation marks. -/
theorem warnings_exact (search : String) (defaults : FieldList) (caseSensitive : Bool) :
    (∃ noted : List (List Nat × Warning),
        noted.map Prod.snd = (compile search defaults caseSensitive).warnings ∧
        (noted.Pairwise fun note later => note.1 < later.1) ∧
        ∀ place warning,
          (place, warning) ∈ noted ↔ Arises caseSensitive (groups search) place warning) ∧
      (∀ i, .emptyGroup i ∈ (compile search defaults caseSensitive).warnings →
        ∀ {ρ : Type} [Record ρ] (record : ρ),
          (compile search defaults caseSensitive).tree.holds record = true) ∧
      ∀ {i j : Nat} {group : List String} {token : String},
        (groups search)[i]? = some group → group[j]? = some token →
        ∃ (parts : Parts) (leaf : Leaf), parts.Divide token.toList ∧
          LeafAt (compile search defaults caseSensitive).tree i j parts.negated leaf ∧
          leaf.fields = parts.fields defaults ∧ leaf.pattern = parts.pattern ∧
          (.emptyPattern token ∈ (compile search defaults caseSensitive).warnings →
            (∀ {ρ : Type} [Record ρ] (record : ρ), leaf.holds record = true ↔
              ∃ name ∈ leaf.fields.names, Record.fieldText record name ≠ none) ∧
            ∀ entries : Json.Entries, leaf.holds entries = true ↔
              ∃ name ∈ leaf.fields.names, ∃ value, Json.field? entries name = some value ∧
                value ≠ .null) ∧
          (∀ reason, .invalidPattern leaf.pattern reason ∈
              (compile search defaults caseSensitive).warnings →
            ∀ {ρ : Type} [Record ρ] (record : ρ), leaf.holds record = false) ∧
          (.strayPipe token ∉ (compile search defaults caseSensitive).warnings →
            signText parts.negated ++ (scopeText parts.scope ++ leaf.pattern.toList) =
              token.toList.filter (· ≠ '"')) := by
  refine ⟨⟨notes caseSensitive search, map_snd_notes caseSensitive defaults search,
    pairwise_notes search, fun _ _ => mem_notes_iff⟩,
    fun i hwarning ρ _ => holds_of_emptyGroup (getElem?_of_emptyGroup hwarning), ?_⟩
  intro i j group token hgroup htoken
  obtain ⟨parts, hparts⟩ := Parts.exists_divide token.toList
  have hleaf := leafAt_compile defaults caseSensitive hgroup htoken
  have hparse := hparts.parse_eq defaults
  -- from here on the phrase is known by its parts only
  generalize Phrase.parse token defaults = phrase at hleaf hparse
  have hfields : (phrase.leaf caseSensitive).fields = parts.fields defaults := by
    rw [Phrase.leaf_fields, hparse]
  have hpattern : phrase.pattern = parts.pattern := by rw [hparse]
  have hnegated : phrase.negated = parts.negated := by rw [hparse]
  refine ⟨parts, phrase.leaf caseSensitive, hparts, hnegated ▸ hleaf, hfields, ?_, ?_, ?_, ?_⟩
  · rw [Phrase.leaf_pattern, hpattern]
  · intro hwarning
    have hempty := hpattern.trans (pattern_of_emptyPattern hwarning hparts)
    rw [Phrase.leaf_fields]
    refine ⟨fun record => Phrase.holds_leaf_of_empty hempty record, fun entries => ?_⟩
    rw [Phrase.holds_leaf_of_empty hempty]
    simp only [fieldText_ne_none_iff]
  · intro reason hwarning ρ _ record
    rw [Phrase.leaf_pattern] at hwarning
    obtain ⟨refused, hrefused⟩ := refused_of_invalidPattern hwarning
    exact Phrase.holds_leaf_of_refused hrefused record
  · intro hwarning
    rw [Phrase.leaf_pattern, hpattern,
      hparts.filter_eq (bar_notMem_of_strayPipe hwarning hgroup htoken hparts)]

/-- An empty group in front of a token without a pattern and one with two faults. -/
def laxQuery : String := "| -a|b:\"\" c|\"d"

/-- A query of stars only. -/
def starQuery (n : Nat) : String := String.ofList (List.replicate n '*')

section Stars

variable {n : Nat}

theorem eq_star_of_mem {c : Char} (h : c ∈ (starQuery n).toList) : c = '*' := by
  rw [starQuery, String.toList_ofList] at h
  exact List.eq_of_mem_replicate h

/-- **Too many stars** are refused. -/
theorem starQuery_refused (hn : 14980 ≤ n) (caseSensitive : Bool) :
    ∃ refused, Glob.compile? (starQuery n) caseSensitive = .error refused := by
  have hwild : ∀ c ∈ List.replicate n '*', Glob.isWildcard c = true := fun c hc => by
    rw [List.eq_of_mem_replicate hc]
    rfl
  have hcount : (starQuery n).toList.countP Glob.isWildcard = n := by
    rw [starQuery, String.toList_ofList, List.countP_eq_length.2 hwild, List.length_replicate]
  refine ⟨⟨starQuery n⟩, dif_neg ?_⟩
  rw [Glob.compiledSize, hcount, Glob.wildcardSize, Glob.sizeLimit]
  omega

/-- The stars are one token, and all of it is the pattern. -/
theorem starQuery_read (hn : 0 < n) : groups (starQuery n) = [[starQuery n]] ∧
    Parts.Divide ⟨false, none, (starQuery n).toList⟩ (starQuery n).toList ∧
    Parts.pattern ⟨false, none, (starQuery n).toList⟩ = starQuery n := by
  have hnone : ∀ c, c ≠ '*' → c ∉ (starQuery n).toList := fun c hc hmem => hc (eq_star_of_mem hmem)
  refine ⟨groups_of_word ⟨?_, fun c hc => ?_⟩ (hnone _ (by decide)) ?_, ?_, ?_⟩
  · rw [starQuery, String.toList_ofList, Ne, List.replicate_eq_nil_iff]
    omega
  · rw [eq_star_of_mem hc]
    decide
  · intro hbar
    refine hnone '|' (by decide) ?_
    rw [hbar]
    exact List.mem_singleton_self _
  · exact Parts.divide_plain (fun h => hnone _ (by decide) (List.mem_of_head? h))
      (hnone _ (by decide))
  · rw [Parts.pattern, List.filter_eq_self.2, String.ofList_toList]
    intro c hc
    rw [eq_star_of_mem hc]
    decide

theorem invalidPattern_starQuery (hn : 14980 ≤ n) (defaults : FieldList) (caseSensitive : Bool) :
    ∃ reason, .invalidPattern (starQuery n) reason ∈
      (compile (starQuery n) defaults caseSensitive).warnings := by
  obtain ⟨hread, hdivide, hpattern⟩ := @starQuery_read n (by omega)
  obtain ⟨refused, hrefused⟩ := starQuery_refused hn caseSensitive
  have hcomplaint := Complaint.refused hdivide (hpattern.symm ▸ hrefused)
  rw [hpattern] at hcomplaint
  refine ⟨refused.reason, mem_warnings_iff_arises.2 ⟨[0, 0, 3], ?_⟩⟩
  rw [hread]
  exact .token rfl rfl hcomplaint

end Stars

/-- The four warnings of one query and the fifth of another, and what they say. -/
theorem warnings_exact_lax :
    (compile laxQuery ⟨["f"]⟩ true).warnings =
        [.emptyGroup 0, .emptyPattern "-a|b:\"\"", .unbalancedQuotes "c|\"d",
          .strayPipe "c|\"d"] ∧
      (compile laxQuery ⟨["f"]⟩ true).tree.holds ([] : Json.Entries) = true ∧
      (∃ leaf, LeafAt (compile laxQuery ⟨["f"]⟩ true).tree 1 0 true leaf ∧
        leaf.holds ([("a", .null)] : Json.Entries) = false ∧
        leaf.holds ([("b", .bool false)] : Json.Entries) = true ∧
        signText true ++ (scopeText (some ['a', '|', 'b']) ++ leaf.pattern.toList) =
          "-a|b:\"\"".toList.filter (· ≠ '"')) ∧
      (∃ reason, .invalidPattern (starQuery 30000) reason ∈
        (compile (starQuery 30000) ⟨["f"]⟩ true).warnings) ∧
      ∃ leaf, LeafAt (compile (starQuery 30000) ⟨["f"]⟩ true).tree 0 0 false leaf ∧
        leaf.pattern = starQuery 30000 ∧ leaf.holds ([("f", .string "")] : Json.Entries) = false := by
  obtain ⟨-, hgroup, htoken⟩ := warnings_exact laxQuery ⟨["f"]⟩ true
  have hwarnings : (compile laxQuery ⟨["f"]⟩ true).warnings =
      [.emptyGroup 0, .emptyPattern "-a|b:\"\"", .unbalancedQuotes "c|\"d",
        .strayPipe "c|\"d"] := by decide +kernel
  have hgroups : groups laxQuery = [[], ["-a|b:\"\"", "c|\"d"]] := by decide +kernel
  rw [hwarnings] at hgroup htoken
  rw [hgroups] at htoken
  obtain ⟨parts, leaf, hparts, hleaf, hfields, -, hempty, -, hbar⟩ :=
    @htoken 1 0 ["-a|b:\"\"", "c|\"d"] "-a|b:\"\"" rfl rfl
  have hscope : IsScope (some ['a', '|', 'b']) :=
    isScope_some.2 ⟨by simp, List.all_eq_true.1 (by decide)⟩
  obtain rfl := hparts.unique (Parts.divide_scope true hscope "\"\"".toList)
  have hnames : leaf.fields = ⟨["a", "b"]⟩ := hfields.trans (by decide +kernel)
  obtain ⟨-, hholds⟩ := hempty (by decide +kernel)
  rw [hnames] at hholds
  -- the stars are too many to compute with: what is known of them comes from the lemmas
  obtain ⟨hread, hdivide, hpattern⟩ := @starQuery_read 30000 (by decide)
  obtain ⟨reason, hwarned⟩ := @invalidPattern_starQuery 30000 (by decide) ⟨["f"]⟩ true
  obtain ⟨-, -, hstars⟩ := warnings_exact (starQuery 30000) ⟨["f"]⟩ true
  rw [hread] at hstars
  obtain ⟨others, stars, hothers, hat, -, hstar, -, hnever, -⟩ :=
    @hstars 0 0 [starQuery 30000] (starQuery 30000) rfl rfl
  obtain rfl := hothers.unique hdivide
  rw [hpattern] at hstar
  rw [hstar] at hnever
  refine ⟨hwarnings, hgroup 0 (by decide +kernel) _, ⟨leaf, hleaf, ?_, ?_, hbar (by decide +kernel)⟩,
    ⟨reason, hwarned⟩, stars, hat, hstar, hnever reason hwarned _⟩
  · rw [Bool.eq_false_iff, Ne, hholds]
    rintro ⟨name, hname, value, hvalue, hne⟩
    rcases List.mem_cons.1 hname with rfl | hname
    · exact hne (Option.some.inj hvalue).symm
    · obtain rfl := List.mem_singleton.1 hname
      exact Option.some_ne_none value hvalue.symm
  · rw [hholds]
    exact ⟨"b", by simp, .bool false, rfl, by simp⟩

end RecordQuery.Query
