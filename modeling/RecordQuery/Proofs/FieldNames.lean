import Mathlib.Data.List.Induction
import Mathlib.Data.Prod.Lex
import RecordQuery.Proofs.Verdicts
import Std.Data.HashSet.Lemmas

/-!
# The names of all fields, first seen first

The names of the fields of some records are gathered in one pass over the records and, within a
record, over its fields. A name goes to the end of the list when it is seen for the first time, and
a set says which names those are (`RecordQuery.Records.Gathered`). The set and the list hold the
same names at every moment, so the set may be forgotten: what is left is the list of all names less
its repetitions (`RecordQuery.Records.names_gathered`).

The list is in the order of the places where its names are first seen
(`RecordQuery.Records.firstPlace`), compared record by record and then field by field. That they
are different names is a part of this order, as no place is in front of itself. Both the fields of
one record and the records themselves are taken one at a time from the end: what is behind a name
does not move the place where it is first seen, and a name that is new is behind all others. For
the records this is a law of its own, which tells the names of two lists of records behind one
another from those of the two lists (`RecordQuery.Records.names_append`).
-/

namespace RecordQuery.Records

open RecordQuery.Json (Entries)

/-! ### Names without repetitions -/

/-- **One name more** goes to the end, unless it was there. -/
theorem eraseDups_concat (names : List String) (name : String) :
    (names ++ [name]).eraseDups =
      if name ∈ names then names.eraseDups else names.eraseDups ++ [name] := by
  rw [List.eraseDups_append]
  split
  · next h => simp [List.removeAll, h]
  · next h => simp [List.removeAll, h, List.eraseDups_cons]

/-- Names may be left away before or after the repetitions. -/
theorem eraseDups_filter (keep : String → Bool) (names : List String) :
    (names.filter keep).eraseDups = names.eraseDups.filter keep := by
  induction names using List.reverseRecOn with
  | nil => rfl
  | append_singleton names name ih =>
    rw [List.filter_append, eraseDups_concat, apply_ite (List.filter keep), List.filter_append,
      ← ih]
    cases hkeep : keep name with
    | false => simp [hkeep]
    | true =>
      -- a name that is kept was there before exactly if it was among those kept
      have hmem : name ∈ names.filter keep ↔ name ∈ names := by simp [hkeep]
      simp only [List.filter_singleton, hkeep, cond_true, eraseDups_concat, hmem]

/-- **What is left is in the order of the first places.** -/
theorem pairwise_eraseDups (names : List String) :
    names.eraseDups.Pairwise fun x y => names.idxOf x < names.idxOf y := by
  induction names using List.reverseRecOn with
  | nil => exact .nil
  | append_singleton names name ih =>
    have hkeep : ∀ x ∈ names.eraseDups, (names ++ [name]).idxOf x = names.idxOf x :=
      fun x hx => List.idxOf_append_of_mem (List.mem_eraseDups.1 hx)
    have hfront : names.eraseDups.Pairwise fun x y =>
        (names ++ [name]).idxOf x < (names ++ [name]).idxOf y := by
      refine ih.imp_of_mem fun hx hy hlt => ?_
      rwa [hkeep _ hx, hkeep _ hy]
    rw [eraseDups_concat]
    split
    · exact hfront
    · next hnew =>
      refine List.pairwise_append.2 ⟨hfront, List.pairwise_singleton _ _, fun x hx y hy => ?_⟩
      obtain rfl := List.mem_singleton.1 hy
      rw [hkeep x hx, List.idxOf_append, if_neg hnew]
      exact Nat.lt_add_left _ (List.idxOf_lt_length_of_mem (List.mem_eraseDups.1 hx))

/-! ### The pass -/

/-- What the pass holds: the names seen so far, as a set and in order. -/
structure Gathered where
  /-- The names as a set. -/
  seen : Std.HashSet String
  /-- The names in the order in which they were seen. -/
  names : List String

namespace Gathered

/-- Nothing is seen yet. -/
def start : Gathered := ⟨∅, []⟩

/-- **One step**: a name that is not in the set goes into it and to the end of the list. -/
def see (state : Gathered) (name : String) : Gathered :=
  if name ∈ state.seen then state else ⟨state.seen.insert name, state.names ++ [name]⟩

/-- The pass over one record. -/
def seeRecord (state : Gathered) (record : Entries) : Gathered :=
  (record.map Prod.fst).foldl see state

/-- The state is that behind some names. -/
structure IsBehind (state : Gathered) (names : List String) : Prop where
  /-- The set has these names. -/
  mem_seen_iff : ∀ name, name ∈ state.seen ↔ name ∈ names
  /-- The list has each of them once. -/
  names_eq : state.names = names.eraseDups

theorem isBehind_start : start.IsBehind [] :=
  ⟨fun _ => iff_of_false Std.HashSet.not_mem_empty List.not_mem_nil, rfl⟩

variable {state : Gathered} {names : List String}

/-- **A step keeps the two together**: the state is that behind the names with one more. -/
theorem IsBehind.see (h : state.IsBehind names) (name : String) :
    (state.see name).IsBehind (names ++ [name]) := by
  rw [Gathered.see]
  split
  · next hseen =>
    have hmem := (h.mem_seen_iff name).1 hseen
    refine ⟨fun other => ?_, ?_⟩
    · rw [h.mem_seen_iff, List.mem_append, List.mem_singleton]
      exact ⟨.inl, fun hother => hother.elim id fun heq => heq ▸ hmem⟩
    · rw [eraseDups_concat, if_pos hmem, h.names_eq]
  · next hnew =>
    have hnot := mt (h.mem_seen_iff name).2 hnew
    refine ⟨fun other => ?_, ?_⟩
    · rw [Std.HashSet.mem_insert, beq_iff_eq, h.mem_seen_iff, List.mem_append, List.mem_singleton,
        or_comm, eq_comm]
    · rw [eraseDups_concat, if_neg hnot, h.names_eq]

theorem IsBehind.seeAll (h : state.IsBehind names) (others : List String) :
    (others.foldl Gathered.see state).IsBehind (names ++ others) := by
  induction others generalizing state names with
  | nil => rwa [List.append_nil]
  | cons name others ih => simpa using ih (h.see name)

end Gathered

/-- **The pass gathers the names of all fields.** -/
theorem names_gathered (records : List Entries) :
    (records.foldl Gathered.seeRecord .start).names = (fieldNames records).names := by
  -- where one record ends and the next one starts does not matter to the pass
  have hflat : records.foldl Gathered.seeRecord .start =
      (records.flatMap fun record => record.map Prod.fst).foldl Gathered.see .start :=
    List.foldl_flatMap.symm
  rw [hflat]
  exact (Gathered.isBehind_start.seeAll _).names_eq

/-! ### Records behind one another -/

/-- **Records behind others** add the names that the others do not have. -/
theorem names_append (records others : List Entries) :
    (fieldNames (records ++ others)).names =
      (fieldNames records).names ++
        (fieldNames others).names.filter (· ∉ (fieldNames records).names) := by
  simp only [fieldNames, List.flatMap_append, List.eraseDups_append, List.removeAll,
    eraseDups_filter, List.mem_eraseDups]
  congr 2
  funext name
  simp

/-! ### The places of names -/

/-- Whether a record has a field of some name. -/
def hasName (name : String) (record : Entries) : Bool :=
  decide (name ∈ record.map Prod.fst)

/-- **Where a name is first seen**: the number of the first record that has it, and the number
of the name among those of this record. -/
def firstPlace (records : List Entries) (name : String) : Nat ×ₗ Nat :=
  toLex (records.findIdx (hasName name),
    (((records.find? (hasName name)).getD []).map Prod.fst).idxOf name)

theorem exists_hasName_iff {records : List Entries} {name : String} :
    (∃ record ∈ records, hasName name record = true) ↔ name ∈ (fieldNames records).names := by
  simp only [hasName, decide_eq_true_eq, mem_fieldNames_iff]

theorem findIdx_lt {records : List Entries} {name : String}
    (h : name ∈ (fieldNames records).names) :
    records.findIdx (hasName name) < records.length :=
  List.findIdx_lt_length.2 (exists_hasName_iff.2 h)

/-- Records behind those with the name do not matter. -/
theorem firstPlace_append {records : List Entries} {name : String}
    (h : name ∈ (fieldNames records).names) (others : List Entries) :
    firstPlace (records ++ others) name = firstPlace records name := by
  obtain ⟨record, hfind⟩ := Option.isSome_iff_exists.1
    (List.find?_isSome.2 (exists_hasName_iff.2 h))
  rw [firstPlace, firstPlace, List.findIdx_append, if_pos (findIdx_lt h), List.find?_append,
    hfind, Option.some_or]

/-- A name that is new is first seen in the record behind. -/
theorem firstPlace_concat {records : List Entries} {record : Entries} {name : String}
    (hnew : name ∉ (fieldNames records).names) (h : name ∈ record.map Prod.fst) :
    firstPlace (records ++ [record]) name =
      toLex (records.length, (record.map Prod.fst).idxOf name) := by
  have hnone : ∀ other ∈ records, hasName name other = false := fun other hother =>
    Bool.eq_false_iff.2 fun hhas => hnew (exists_hasName_iff.1 ⟨other, hother, hhas⟩)
  have hhas : hasName name record = true := decide_eq_true h
  have hindex : (records ++ [record]).findIdx (hasName name) = records.length := by
    rw [List.findIdx_append, List.findIdx_eq_length.2 hnone, if_neg (lt_irrefl _),
      List.findIdx_singleton, hhas, if_pos rfl, Nat.zero_add]
  have hfind : (records ++ [record]).find? (hasName name) = some record := by
    rw [List.find?_append, List.find?_eq_none.2 fun other hother => by simp [hnone other hother],
      Option.none_or, List.find?_singleton, if_pos hhas]
  rw [firstPlace, hindex, hfind, Option.getD_some]

/-- **The names are in the order of the places where they are first seen.** -/
theorem pairwise_names (records : List Entries) :
    (fieldNames records).names.Pairwise fun x y =>
      firstPlace records x < firstPlace records y := by
  induction records using List.reverseRecOn with
  | nil => exact .nil
  | append_singleton records record ih =>
    have hplace : ∀ name ∈
        (fieldNames [record]).names.filter (· ∉ (fieldNames records).names),
        firstPlace (records ++ [record]) name =
          toLex (records.length, (record.map Prod.fst).idxOf name) := by
      intro name hname
      obtain ⟨hmem, hnew⟩ := List.mem_filter.1 hname
      exact firstPlace_concat (of_decide_eq_true hnew) (by simpa [mem_fieldNames_iff] using hmem)
    rw [names_append]
    refine List.pairwise_append.2 ⟨?_, ?_, fun x hx y hy => ?_⟩
    -- names of the records in front stay where they are
    · refine ih.imp_of_mem fun hx hy hlt => ?_
      rwa [firstPlace_append hx, firstPlace_append hy]
    -- new names are in the order of the fields of the last record
    · have hlast : (fieldNames [record]).names = (record.map Prod.fst).eraseDups := by
        rw [fieldNames, List.flatMap_singleton]
      have hnames : (fieldNames [record]).names.Pairwise fun x y =>
          (record.map Prod.fst).idxOf x < (record.map Prod.fst).idxOf y :=
        hlast ▸ pairwise_eraseDups _
      refine (hnames.filter _).imp_of_mem fun hx hy hlt => ?_
      rw [hplace _ hx, hplace _ hy, Prod.Lex.toLex_lt_toLex]
      exact .inr ⟨rfl, hlt⟩
    -- and they are behind all the others
    · rw [firstPlace_append hx, hplace y hy, firstPlace, Prod.Lex.toLex_lt_toLex]
      exact .inl (findIdx_lt hx)

/-- **The names of all fields are the union of the names**, each one once and in the order of the
places where they are first seen, as the pass gathers them; and records behind others add, behind
the names of the others and in their own order, the names that the others do not have. -/
theorem fieldNames_union :
    (∀ records : List Entries,
      (fieldNames records).names = (records.foldl Gathered.seeRecord .start).names ∧
        (fieldNames records).names.Nodup ∧
        (∀ name, name ∈ (fieldNames records).names ↔
          ∃ record ∈ records, name ∈ record.map Prod.fst) ∧
        (fieldNames records).names.Pairwise fun x y =>
          firstPlace records x < firstPlace records y) ∧
      ∀ records others : List Entries,
        (fieldNames (records ++ others)).names =
          (fieldNames records).names ++
            (fieldNames others).names.filter (· ∉ (fieldNames records).names) := by
  refine ⟨fun records => ⟨(names_gathered records).symm, ?_, fun name => mem_fieldNames_iff,
    pairwise_names records⟩, names_append⟩
  -- no place is in front of itself
  refine (pairwise_names records).imp fun hlt heq => ?_
  rw [heq] at hlt
  exact lt_irrefl _ hlt

end RecordQuery.Records
