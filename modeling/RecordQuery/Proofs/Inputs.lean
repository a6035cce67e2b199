import RecordQuery.Command.Run
import RecordQuery.Proofs.Verdicts

/-!
# What a command reads

A filter command loads its files one after the other, up to the first that cannot be
loaded. This file says what comes of it without following the loop: every file gives
records or an error (`RecordQuery.Command.loads`), the first error among these is the
error of the command, and without one the records of all files stand one behind the other
(`RecordQuery.Command.loadRecords_eq`). Standard input is the one file that a command can
use up.

The records that a command finds are then those of its files, put together, whichever way
the files are divided (`RecordQuery.Command.found_append`). This is not plain where the
default fields are the names of the fields of all records that were read: another file
adds names and so changes every leaf without a scope. But an added name is one that the
records read before do not have, and a field that is not there never matches.
-/

namespace RecordQuery.Command

open RecordQuery.Json (Entries)
open RecordQuery.Query (AgreeOn FieldList Filter Options)

/-! ### Loading files -/

/-- **What loading each of some files gives**, in their order. -/
def loads (reading : Reading) (input : Except Files.Fault String) (names : List String) :
    List (Except Records.Error (List Entries)) :=
  (names.zip (sourceTexts reading input names)).map fun source => Records.load source.1 source.2

/-- The error of the first file that could not be loaded. -/
def firstError (parts : List (Except Records.Error (List Entries))) : Option Records.Error :=
  parts.findSome? fun part =>
    match part with
    | .error error => some error
    | .ok _ => none

/-- The records of the files that could be loaded. -/
def loadedRecords (parts : List (Except Records.Error (List Entries))) : List Entries :=
  parts.flatMap fun part => part.toOption.getD []

/-- The records of all files, or the first error. -/
def gather (parts : List (Except Records.Error (List Entries))) :
    Except Records.Error (List Entries) :=
  match firstError parts with
  | some error => .error error
  | none => .ok (loadedRecords parts)

@[simp] theorem gather_cons_ok (records : List Entries)
    (parts : List (Except Records.Error (List Entries))) :
    gather (.ok records :: parts) = (gather parts).map (records ++ ·) := by
  have herror : firstError (.ok records :: parts) = firstError parts := rfl
  rw [gather, gather, herror]
  cases firstError parts <;> rfl

theorem gather_append (parts others : List (Except Records.Error (List Entries))) :
    gather (parts ++ others) = do return (← gather parts) ++ (← gather others) := by
  induction parts with
  | nil =>
    rw [List.nil_append]
    cases gather others <;> rfl
  | cons part parts ih =>
    cases part with
    | error error => rfl
    | ok records =>
      rw [List.cons_append, gather_cons_ok, ih, gather_cons_ok]
      cases gather parts with
      | error error => rfl
      | ok first =>
        cases gather others with
        | error error => rfl
        | ok second => exact congrArg Except.ok (List.append_assoc _ _ _).symm

theorem loadEach_eq (sources : List (String × Except Files.Fault String)) :
    (loadEach sources).2 = gather (sources.map fun source => Records.load source.1 source.2) := by
  induction sources with
  | nil => rfl
  | cons source sources ih =>
    obtain ⟨name, text⟩ := source
    rw [loadEach, List.map_cons]
    cases Records.load name text with
    | error error => rfl
    | ok records => rw [gather_cons_ok, ← ih]

/-- **What a command reads**: the records of all its files, or the first error. -/
theorem loadRecords_eq (reading : Reading) (input : Except Files.Fault String)
    (request : FilterRequest) :
    (loadRecords reading input request).2 = gather (loads reading input request.sources) :=
  loadEach_eq _

/-! ### What an error names -/

section Path

variable {source : String} {error : Records.Error}

theorem path_of_record {index : Nat} {value : Json.Value}
    (h : Records.record source index value = .error error) : error.path = source := by
  rw [Records.record.eq_def] at h
  split at h
  · exact absurd h (by simp)
  · obtain rfl := Except.error.inj h
    rfl

theorem path_of_ofValues {index : Nat} {values : List Json.Value}
    (h : Records.ofValues source index values = .error error) : error.path = source := by
  induction values generalizing index with
  | nil => exact absurd h (by simp [Records.ofValues])
  | cons value values ih =>
    rw [Records.ofValues] at h
    split at h
    · next hrecord =>
      obtain rfl := Except.error.inj h
      exact path_of_record hrecord
    · split at h
      · next hothers =>
        obtain rfl := Except.error.inj h
        exact ih hothers
      · exact absurd h (by simp)

theorem path_of_ofLines {line index : Nat} {lines : List (List Char)}
    (h : Records.ofLines source line index lines = .error error) : error.path = source := by
  induction lines generalizing line index with
  | nil => exact absurd h (by simp [Records.ofLines])
  | cons text lines ih =>
    rw [Records.ofLines] at h
    split at h
    · exact ih h
    · split at h
      · obtain rfl := Except.error.inj h
        rfl
      · split at h
        · next hrecord =>
          obtain rfl := Except.error.inj h
          exact path_of_record hrecord
        · split at h
          · next hothers =>
            obtain rfl := Except.error.inj h
            exact ih hothers
          · exact absurd h (by simp)

/-- **The error of a file names the file.** -/
theorem path_of_load {text : Except Files.Fault String}
    (h : Records.load source text = .error error) : error.path = source := by
  cases text with
  | error fault =>
    obtain rfl := Except.error.inj h
    rfl
  | ok text =>
    change Records.parse text source = .error error at h
    rw [Records.parse] at h
    split at h
    · split at h
      · exact path_of_ofValues h
      · obtain rfl := Except.error.inj h
        rfl
    · exact path_of_ofLines h

theorem path_mem_of_firstError {reading : Reading} {input : Except Files.Fault String}
    {names : List String} (h : firstError (loads reading input names) = some error) :
    error.path ∈ names := by
  obtain ⟨part, hpart, herror⟩ := List.exists_of_findSome?_eq_some h
  obtain ⟨⟨name, text⟩, hsource, rfl⟩ := List.mem_map.1 hpart
  split at herror
  · next hload =>
    obtain rfl := Option.some.inj herror
    rw [path_of_load hload]
    exact (List.of_mem_zip hsource).1
  · exact absurd herror (by simp)

/-- The error of a profile names its file. -/
theorem path_of_loadConfig {reading : Reading} {invocation : Invocation} {error : Config.Error}
    (h : loadConfig reading invocation = .error error) :
    invocation.config = some error.path := by
  rw [loadConfig] at h
  split at h
  · next path hpath =>
    rw [hpath]
    rw [Config.load.eq_def] at h
    split at h
    · obtain rfl := Except.error.inj h
      rfl
    · split at h
      · exact absurd h (by simp)
      · obtain rfl := Except.error.inj h
        rfl
  · exact absurd h (by simp)

end Path

/-! ### Dividing the files -/

/-- What is left of standard input behind some files. -/
def inputAfter (names : List String) (input : Except Files.Fault String) :
    Except Files.Fault String :=
  if inputName ∈ names then .ok "" else input

theorem length_sourceTexts (reading : Reading) (input : Except Files.Fault String)
    (names : List String) : (sourceTexts reading input names).length = names.length := by
  induction names generalizing input with
  | nil => rfl
  | cons name names ih =>
    rw [sourceTexts]
    split <;> rw [List.length_cons, ih, List.length_cons]

theorem sourceTexts_append (reading : Reading) (input : Except Files.Fault String)
    (names others : List String) :
    sourceTexts reading input (names ++ others) =
      sourceTexts reading input names ++ sourceTexts reading (inputAfter names input) others := by
  induction names generalizing input with
  | nil => rfl
  | cons name names ih =>
    rw [List.cons_append, sourceTexts, sourceTexts]
    split
    · next hname =>
      have hafter : inputAfter names (.ok "") = inputAfter (name :: names) input := by
        rw [inputAfter, inputAfter, ite_self, if_pos (List.mem_cons.2 (.inl hname.symm))]
      rw [ih, hafter, List.cons_append]
    · next hname =>
      have hafter : inputAfter names input = inputAfter (name :: names) input := by
        simp only [inputAfter, List.mem_cons, Ne.symm hname, false_or]
      rw [ih, hafter, List.cons_append]

theorem loads_append (reading : Reading) (input : Except Files.Fault String)
    (names others : List String) :
    loads reading input (names ++ others) =
      loads reading input names ++ loads reading (inputAfter names input) others := by
  rw [loads, sourceTexts_append, List.zip_append (length_sourceTexts _ _ _).symm, List.map_append]
  rfl

/-! ### What is found -/

/-- **The records that a filter command finds**, or why its files cannot be read. -/
def found (config : Config) (reading : Reading) (input : Except Files.Fault String)
    (request : FilterRequest) : Except Records.Error (List Entries) :=
  (loadRecords reading input request).2.map fun records =>
    (filterOf config request records).select records

/-- **The records that are read do not couple**: the verdict on each is that of the command
on this record alone. -/
theorem test_filterOf (config : Config) (request : FilterRequest) {records : List Entries}
    {record : Entries} (h : record ∈ records) :
    (filterOf config request records).test record =
      (filterOf config request [record]).test record := by
  apply Query.test_congr
  unfold effectiveFields
  cases request.fields with
  | some spec => exact .refl record _
  | none =>
    cases config.defaultFields? with
    | some fields => exact .refl record _
    | none => exact Records.agreeOn_fieldNames h

theorem select_filterOf (config : Config) (request : FilterRequest) {records others : List Entries}
    (h : records ⊆ others) :
    (filterOf config request others).select records =
      (filterOf config request records).select records := by
  refine List.filter_congr fun record hrecord => ?_
  rw [test_filterOf config request (h hrecord), test_filterOf config request hrecord]

theorem select_append (config : Config) (request : FilterRequest) (records others : List Entries) :
    (filterOf config request (records ++ others)).select (records ++ others) =
      (filterOf config request records).select records ++
        (filterOf config request others).select others := by
  rw [Filter.select, List.filter_append, ← Filter.select, ← Filter.select,
    select_filterOf config request (List.subset_append_left _ _),
    select_filterOf config request (List.subset_append_right _ _)]

/-- **What is found in some files** followed by others is what is found in these followed by
what is found in the others. -/
theorem found_append (config : Config) (reading : Reading) (input : Except Files.Fault String)
    (request : FilterRequest) {files others : List String} (hfiles : files ≠ [])
    (hothers : others ≠ []) :
    found config reading input { request with files := files ++ others } = do
      return (← found config reading input { request with files := files }) ++
        (← found config reading (inputAfter files input) { request with files := others }) := by
  have hsources : ∀ {names : List String}, names ≠ [] →
      ({ request with files := names } : FilterRequest).sources = names := by
    intro names hne
    rw [FilterRequest.sources, if_neg (by simpa using hne)]
  simp only [found, loadRecords_eq, hsources hfiles, hsources hothers,
    hsources (List.append_ne_nil_of_left_ne_nil hfiles others), loads_append, gather_append]
  cases gather (loads reading input files) with
  | error error => rfl
  | ok first =>
    cases gather (loads reading (inputAfter files input) others) with
    | error error => rfl
    | ok second => exact congrArg Except.ok (select_append config request first second)

/-- **Records do not couple.** With the names of all fields of some records as default
fields, the verdict on each of them is the one with its own names alone. So what a command
selects from records behind one another is what it selects from the first and then what it
selects from the others, whether its default fields are its own, those of the profile or
these names; and likewise for the files in which the records are, where standard input is
used up by the files that read it first. -/
theorem selection_uncoupled :
    (∀ (search : String) (options : Options) (records : List Entries), ∀ record ∈ records,
        (Filter.new search (Records.fieldNames records) options).test record =
          (Filter.new search (Records.fieldNames [record]) options).test record) ∧
      (∀ (config : Config) (request : FilterRequest) (records others : List Entries),
        (filterOf config request (records ++ others)).select (records ++ others) =
          (filterOf config request records).select records ++
            (filterOf config request others).select others) ∧
      (∀ (config : Config) (reading : Reading) (input : Except Files.Fault String)
          (request : FilterRequest) (files others : List String), files ≠ [] → others ≠ [] →
        found config reading input { request with files := files ++ others } = do
          return (← found config reading input { request with files := files }) ++
            (← found config reading (inputAfter files input) { request with files := others })) :=
  ⟨fun search options _ _ h => Query.test_congr (Records.agreeOn_fieldNames h) search options,
    select_append,
    fun config reading input request _ _ => found_append config reading input request⟩

/-- A command whose phrases have no scope, one of them negated. -/
def mixedRequest (files : List String) : FilterRequest :=
  ⟨"c -x", files, none, false, false, none⟩

/-- A file in each of the two formats. -/
def mixedReading (name : String) : Except Files.Fault String :=
  if name = "p" then .ok "\x7b\"a\":\"C\"\x7d" else .ok "[\x7bb:'c'\x7d]"

/-- The two records have no field in common, and standard input is named on both sides of
the division. -/
theorem selection_uncoupled_mixed :
    [("a", .string "C")] ∈ ([[("a", .string "C")], [("b", .string "x")]] : List Entries) ∧
      (Filter.new "c -x" (Records.fieldNames [[("a", .string "C")], [("b", .string "x")]])
        ⟨false⟩).test ([("a", .string "C")] : Entries) = true ∧
      ["p", "-"] ≠ [] ∧ ["-", "q"] ≠ [] ∧
      found .default mixedReading (.ok "\x7b\"b\":\"x c\"\x7d")
          (mixedRequest (["p", "-"] ++ ["-", "q"])) = (do
        return (← found .default mixedReading (.ok "\x7b\"b\":\"x c\"\x7d")
            (mixedRequest ["p", "-"])) ++
          (← found .default mixedReading (.ok "") (mixedRequest ["-", "q"]))) ∧
      (found .default mixedReading (.ok "\x7b\"b\":\"x c\"\x7d")
        (mixedRequest (["p", "-"] ++ ["-", "q"]))).map List.length = .ok 2 := by
  obtain ⟨hrecord, -, hfiles⟩ := selection_uncoupled
  have hmem : [("a", .string "C")] ∈
      ([[("a", .string "C")], [("b", .string "x")]] : List Entries) := List.mem_cons_self
  exact ⟨hmem, (hrecord "c -x" ⟨false⟩ _ _ hmem).trans (by decide +kernel), by simp, by simp,
    hfiles .default mixedReading _ (mixedRequest []) _ _ (by simp) (by simp), by decide +kernel⟩

end RecordQuery.Command
