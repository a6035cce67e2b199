import RecordQuery.Proofs.Proper
import RecordQuery.Proofs.Rows
import RecordQuery.Proofs.Runs
import RecordQuery.Proofs.Writing

/-!
# Reports on a search

A search has one answer, the records that match, in the order in which they were read, and four
forms of report on it. Each form says what it can of this answer (`RecordQuery.Report.Says`): the
records themselves and their number, or the number alone, or a table with one row for each
record. What is printed is the report with a line feed at its end, and a file that it is written
to reads as the report (`RecordQuery.Command.reports_agree`).

Which records match depends on the default fields, and the table on its columns. Both are the
names that the command gives, or else the configured ones if there are any, or else what the
search falls back to (`RecordQuery.Command.InForce`).

What a JSON report says is what is read back from it. Its values are proper, those of the records
because they were read themselves.
-/

namespace RecordQuery

open RecordQuery.Json (Entries Number Value)
open RecordQuery.Query (FieldList Filter)

namespace Json

/-! ### Depth of an object -/

theorem entriesDepth_le {entries : Entries} {most : Nat} (h : ∀ e ∈ entries, e.2.depth ≤ most) :
    entriesDepth entries ≤ most := by
  induction entries with
  | nil => exact Nat.zero_le _
  | cons e entries ih =>
    obtain ⟨hfirst, hrest⟩ := List.forall_mem_cons.1 h
    exact Nat.max_le.2 ⟨hfirst, ih hrest⟩

/-- An object is one deeper than the deepest value that was put in it. -/
theorem depth_ofEntries_le {entries : Entries} {most : Nat}
    (h : ∀ e ∈ entries, e.2.depth ≤ most) : (Value.ofEntries entries).depth ≤ most + 1 :=
  Nat.succ_le_succ (entriesDepth_le fun e he => h e (mem_of_mem_entriesOf he))

end Json

namespace Report

/-! ### JSON reports -/

/-- **A report under its title is read back**, whatever numbers are in it. -/
theorem readRelaxed_titled (title : String) {entries : Entries}
    (h : ∀ e ∈ entries, e.2.Proper Number.Fits) :
    Json.readRelaxed (titled title entries) =
      .ok (.object [(title, .object (Json.entriesOf entries))]) :=
  Json.readRelaxed_pretty (.ofEntries (List.forall_mem_singleton.2 (.ofEntries h)))

/-- The strict reader reads it back if no double is in it. -/
theorem read_titled (title : String) {entries : Entries}
    (h : ∀ e ∈ entries, e.2.Proper Number.FitsInteger) (hdepth : ∀ e ∈ entries, e.2.depth ≤ 125) :
    Json.read (titled title entries) =
      .ok (.object [(title, .object (Json.entriesOf entries))]) :=
  Json.read_pretty (.ofEntries (List.forall_mem_singleton.2 (.ofEntries h)))
    (Json.depth_ofEntries_le (List.forall_mem_singleton.2 (Json.depth_ofEntries_le hdepth)))

/-- Names are a proper value. -/
theorem proper_namesJson {valid : Number → Prop} (names : List String) :
    (namesJson names).Proper valid := by
  refine .array fun item hitem => ?_
  obtain ⟨name, -, rfl⟩ := List.mem_map.1 hitem
  exact .string name

theorem depth_namesJson (names : List String) : (namesJson names).depth = 1 := by
  have hitems : Json.itemsDepth (names.map .string) = 0 := by
    induction names with
    | nil => rfl
    | cons name names ih => rw [List.map_cons, Json.itemsDepth, ih]; rfl
  rw [namesJson, Value.depth, hitems]

/-- The parts that every report on matches has are proper. -/
theorem proper_sourceEntries {valid : Number → Prop} (source : Source) {count : Nat}
    (h : valid (.integer count)) : ∀ e ∈ sourceEntries source count, e.2.Proper valid :=
  List.forall_mem_cons.2 ⟨.string _, List.forall_mem_cons.2 ⟨proper_namesJson _,
    List.forall_mem_cons.2 ⟨proper_namesJson _, List.forall_mem_singleton.2 (.number h)⟩⟩⟩

/-- The entries of a JSON report on a search that only counts. -/
theorem field?_countEntries (source : Source) (count : Nat) :
    Json.field? (Json.entriesOf (sourceEntries source count)) "matches" =
        some (.number (.integer count)) ∧
      Json.field? (Json.entriesOf (sourceEntries source count)) "records" = none := by
  rw [Json.field?_entriesOf, Json.field?_entriesOf]
  exact ⟨rfl, rfl⟩

/-- The entries of a JSON report on a search that shows its records as well. -/
theorem field?_matchesEntries (source : Source) (count : Nat) (records : Value) :
    Json.field? (Json.entriesOf (sourceEntries source count ++ [("records", records)]))
        "matches" = some (.number (.integer count)) ∧
      Json.field? (Json.entriesOf (sourceEntries source count ++ [("records", records)]))
        "records" = some records := by
  rw [Json.field?_entriesOf, Json.field?_entriesOf]
  exact ⟨rfl, rfl⟩

/-! ### What a report says -/

open RecordQuery.Command (Format)

/-- The first line of a report for people: how many records match, in bold if colors are on. -/
def label (color : Bool) (count : Nat) : String :=
  if color then "\x1b[1m" ++ labelLine count ++ "\x1b[0m" else labelLine count

theorem bold_matchedLabel (color : Bool) (count : Nat) :
    bold color (matchedLabel count) = label color count := by
  rw [bold, matchedLabel_eq, label]

/-- **A table of records**: framed, with the names of the columns at its head and a line for
each record in their order. -/
def IsTable (columns : List String) (found : List Entries) (text : String) : Prop :=
  ∃ widths head rows,
    text = String.ofList (Text.join ['\n'] (framed widths head rows)) ∧
      widths.length = columns.length ∧ Table.ShowsRow widths columns head ∧
        List.Forall₂ (ShowsRecord widths ⟨columns⟩) found rows

/-- What is read back from a JSON report on a search: the number of matches, and the records or
no entry for them. -/
def IsSearch (value : Value) (count : Nat) (records : Option Value) : Prop :=
  ∃ entries : Entries, value = .object [("search", .object entries)] ∧
    Json.field? entries "matches" = some (.number (.integer count)) ∧
    Json.field? entries "records" = records

/-- **What a report says** of the records that were found, by its form and by whether only
their number was asked for. A JSON report is read back, the number alone by the strict reader as
well; 64 bits hold the number, since no more records are ever read. As a text, the number of the
records is always said, and then in words that there is none, or in a table, if it has a column,
what they are. -/
def Says (color : Bool) (columns : List String) (found : List Entries) :
    Format → Bool → String → Prop
  | .json, false, report => found.length < Decimal.wordLimit →
    ∃ value, Json.readRelaxed report = .ok value ∧
      IsSearch value found.length (some (.array (found.map .object)))
  | .json, true, report => found.length < Decimal.wordLimit →
    ∃ value, Json.readRelaxed report = .ok value ∧ Json.read report = .ok value ∧
      IsSearch value found.length none
  | .text, true, report => report = toString found.length ++ "\n"
  | .text, false, report => ∃ body, report = label color found.length ++ "\n" ++ body ∧
    (found = [] → body = "No matching records found.\n") ∧
    (found ≠ [] → columns ≠ [] →
      ∃ table, body = "\n" ++ table ++ "\n" ∧ IsTable columns found table)

theorem fitsInteger_count {count : Nat} (h : count < Decimal.wordLimit) :
    Number.FitsInteger (.integer count) :=
  ⟨⟨by omega, by omega⟩, _, rfl⟩

theorem says_countJson (color : Bool) (columns : List String) (source : Source)
    (found : List Entries) :
    Says color columns found .json true (countJson source found.length) := by
  intro hcount
  have hproper := proper_sourceEntries source (fitsInteger_count hcount)
  have hdepth : ∀ e ∈ sourceEntries source found.length, e.2.depth ≤ 125 := by
    simp [sourceEntries, depth_namesJson, Value.depth]
  exact ⟨_, readRelaxed_titled "search" (proper_sourceEntries source (fitsInteger_count hcount).1),
    read_titled "search" hproper hdepth, _, rfl, field?_countEntries source found.length⟩

theorem says_matchesJson (color : Bool) (columns : List String) (source : Source)
    {found : List Entries} (h : ∀ entries ∈ found, (Value.object entries).Proper Number.Fits) :
    Says color columns found .json false (matchesJson source found) := by
  intro hcount
  refine ⟨_, readRelaxed_titled "search" (List.forall_mem_append.2
    ⟨proper_sourceEntries source (fitsInteger_count hcount).1, List.forall_mem_singleton.2 ?_⟩),
    _, rfl, field?_matchesEntries source found.length _⟩
  refine .array fun item hitem => ?_
  obtain ⟨entries, hentries, rfl⟩ := List.mem_map.1 hitem
  exact h entries hentries

/-- **The table of a report** is one of its records. -/
theorem isTable_text {columns : FieldList} (hcolumns : columns.names ≠ []) (found : List Entries) :
    IsTable columns.names found (table columns found).text := by
  refine ⟨(table columns found).widths,
    Table.rowLines (table columns found).widths columns.names,
    found.map (recordLine columns found), ?_, length_widths_table columns found,
    showsRow_head hcolumns found, ?_⟩
  · rw [Table.text, lines_table hcolumns]
  · rw [List.forall₂_map_right_iff, List.forall₂_same]
    exact fun record hrecord => showsRecord_recordLine hcolumns hrecord

/-- A report for people says how many records match, and shows them in a table. -/
theorem says_matchesText (color : Bool) (columns : FieldList) (found : List Entries) :
    Says color columns.names found .text false (matchesText color columns found) := by
  refine ⟨_, by rw [matchesText, bold_matchedLabel], ?_, fun hne hcolumns => ?_⟩
  · rintro rfl
    rfl
  · have hempty : found.isEmpty = false := by simpa using hne
    exact ⟨(table columns found).text, by rw [hempty]; rfl, isTable_text hcolumns found⟩

end Report

/-! ### Runs of a search -/

namespace Command

/-- **Which names are in force**: those that a command gives, or else the configured ones if
there are any, or else others. -/
inductive InForce (given : Option String) (configured others : List String) :
    List String → Prop
  /-- The command gives names. -/
  | given {text : String} (h : given = some text) :
      InForce given configured others (FieldList.parse text).names
  /-- The command gives none, and some are configured. -/
  | configured (h : given = none) (hne : configured ≠ []) :
      InForce given configured others configured
  /-- Neither gives any. -/
  | others (h : given = none) (hempty : configured = []) :
      InForce given configured others others

/-- The default fields of a command are the names in force. -/
theorem inForce_effectiveFields (config : Config) (fields : Option String)
    (fallback : FieldList) :
    InForce fields config.filter.defaultFields fallback.names
      (effectiveFields config fields fallback).names := by
  cases fields with
  | some text => exact .given rfl
  | none =>
    rw [effectiveFields, Config.defaultFields?]
    cases hconfigured : config.filter.defaultFields with
    | nil => exact .others rfl rfl
    | cons name names => exact .configured rfl (List.cons_ne_nil name names)

/-- The columns of a command are the names in force. -/
theorem inForce_effectiveColumns (config : Config) (columns : Option String) (filter : Filter) :
    InForce columns config.output.columns filter.defaultFields.names
      (effectiveColumns config columns filter).names := by
  cases columns with
  | some text => exact .given rfl
  | none =>
    rw [effectiveColumns, Config.columns?]
    cases hconfigured : config.output.columns with
    | nil => exact .others rfl rfl
    | cons name names => exact .configured rfl (List.cons_ne_nil name names)

/-- The report of each form says what was found, if it was read. -/
theorem says_filterReport (config : Config) (color : Bool) (invocation : Invocation)
    (request : FilterRequest) (filter : Filter) {found : List Entries}
    (h : ∀ entries ∈ found, (Value.object entries).Proper Number.Fits) :
    Report.Says color (effectiveColumns config request.columns filter).names found
      invocation.format request.count
      (filterReport config color invocation request filter found) := by
  rw [filterReport]
  cases invocation.format with
  | json =>
    cases request.count with
    | false => exact Report.says_matchesJson _ _ _ h
    | true => exact Report.says_countJson _ _ _ _
  | text =>
    cases request.count with
    | false => exact Report.says_matchesText _ _ _
    | true => rfl

section Runs

variable {σ : Type} [Storage σ] {files : σ} {input : Except Files.Fault String}
  {invocation : Invocation} {request : FilterRequest} {colored : Bool}

/-- A search that succeeds has loaded its profile and all of its files. -/
theorem loaded_of_exitStatus (hrequest : invocation.request = .filter request)
    (h : (run files input invocation colored).exitStatus = 0) :
    (∃ config, loadConfig (Storage.read files) invocation = .ok config) ∧
      firstError (loads (Storage.read files) input request.sources) = none := by
  -- what cannot be loaded is the failure of the run
  rw [Outcome.exitStatus_eq_zero_iff] at h
  have hresult := result_answer (Storage.read files) input (invocation.color.isOn colored)
    invocation
  rw [hrequest] at hresult
  cases hconfig : loadConfig (Storage.read files) invocation with
  | error error =>
    rw [hconfig] at hresult
    rw [(run_of_error hresult).failure_eq] at h
    exact absurd h (by simp)
  | ok config =>
    rw [hconfig] at hresult
    dsimp only at hresult
    rw [result_answerFilter, gather] at hresult
    cases hfirst : firstError (loads (Storage.read files) input request.sources) with
    | some error =>
      rw [hfirst] at hresult
      rw [(run_of_error hresult).failure_eq] at h
      exact absurd h (by simp)
    | none => exact ⟨⟨config, rfl⟩, rfl⟩

/-- **A report is written as it is.** The file that is named, if any, decides whether the run
succeeds, and reads as the report then. -/
theorem written_of_isReport [LawfulStorage σ] {outcome : Outcome σ} {reply : Reply}
    {path : Option String} (h : outcome.IsReport reply path files) :
    (path = none → outcome.exitStatus = 0 ∧ outcome.files = files) ∧
      ∀ name, path = some name →
        (∀ written, Storage.write files name reply.report = .ok written →
          outcome.exitStatus = 0 ∧ outcome.files = written ∧
            Storage.read written name = .ok reply.report) ∧
        ∀ fault, Storage.write files name reply.report = .error fault →
          outcome.failure = some (.output name fault) ∧ outcome.files = files := by
  have hwritten := h.written
  refine ⟨?_, ?_⟩
  · rintro rfl
    exact ⟨(Outcome.exitStatus_eq_zero_iff _).2 hwritten.1, hwritten.2⟩
  · rintro name rfl
    refine ⟨fun written hwrite => ?_, fun fault hwrite => ?_⟩
    · simp only [hwrite] at hwritten
      exact ⟨(Outcome.exitStatus_eq_zero_iff _).2 hwritten.1, hwritten.2,
        LawfulStorage.read_write hwrite⟩
    · simp only [hwrite] at hwritten
      exact hwritten

/-- **All forms of report agree.** Let a search succeed. Then its profile and its files are
loaded, and default fields and columns are in force. With the records that match in the order in
which they were read, the search in any form, for the records or for their number, has a report
that says just these: all of them with their number, or their number, or a table of them.
Whatever goes to the log, the search in that form prints this report, with a line feed added
unless it ends in one, and a file that it is written to reads as the report. -/
theorem reports_agree [LawfulStorage σ] (hrequest : invocation.request = .filter request)
    (hsuccess : (run files input invocation colored).exitStatus = 0) :
    ∃ config records fields columns,
      loadConfig (Storage.read files) invocation = .ok config ∧
      firstError (loads (Storage.read files) input request.sources) = none ∧
      records = loadedRecords (loads (Storage.read files) input request.sources) ∧
      InForce request.fields config.filter.defaultFields (Records.fieldNames records).names
        fields ∧
      InForce request.columns config.output.columns fields columns ∧
      ∀ (format : Format) (count : Bool), ∃ report,
        Report.Says (invocation.color.isOn colored) columns
          (records.filter fun record =>
            (Query.compile request.query ⟨fields⟩
              (request.caseSensitive || config.filter.caseSensitive)).tree.holds record)
          format count report ∧
        ∀ (quiet : Bool) (verbose : Nat), ∃ outcome,
          outcome = run files input
            { invocation with
              format := format
              quiet := quiet
              verbose := verbose
              request := .filter { request with count := count } } colored ∧
          outcome.output =
            (if report.toList.getLast? = some '\n' then report else report ++ "\n") ∧
          (invocation.output = none → outcome.exitStatus = 0 ∧ outcome.files = files) ∧
          ∀ path, invocation.output = some path →
            (∀ written, Storage.write files path report = .ok written →
              outcome.exitStatus = 0 ∧ outcome.files = written ∧
                Storage.read written path = .ok report) ∧
            ∀ fault, Storage.write files path report = .error fault →
              outcome.failure = some (.output path fault) ∧ outcome.files = files := by
  obtain ⟨⟨config, hconfig⟩, hfirst⟩ := loaded_of_exitStatus hrequest hsuccess
  let records := loadedRecords (loads (Storage.read files) input request.sources)
  let filter := filterOf config request records
  refine ⟨config, records, filter.defaultFields.names,
    (effectiveColumns config request.columns filter).names, hconfig, hfirst, rfl,
    inForce_effectiveFields config request.fields (Records.fieldNames records),
    inForce_effectiveColumns config request.columns filter, fun format count => ?_⟩
  -- nothing that is loaded depends on the form, so the search in it finds the same records
  let formed : Invocation := { invocation with format := format }
  let counted : FilterRequest := { request with count := count }
  have hproper : ∀ entries ∈ filter.select records, (Value.object entries).Proper Number.Fits :=
    fun entries hentries => proper_of_mem_loadedRecords (List.mem_of_mem_filter hentries)
  refine ⟨_, says_filterReport config (invocation.color.isOn colored) formed counted filter hproper,
    fun quiet verbose => ?_⟩
  let asked : Invocation :=
    { formed with
      quiet := quiet
      verbose := verbose
      request := .filter counted }
  have hloaded : loadConfig (Storage.read files) asked = .ok config := hconfig
  have hgather : gather (loads (Storage.read files) input counted.sources) = .ok records := by
    rw [gather]
    exact hfirst ▸ rfl
  have hreport := run_of_ok (result_of_filter hloaded (asked.color.isOn colored) rfl hgather)
  exact ⟨_, rfl, hreport.output_eq, written_of_isReport hreport⟩

/-- A working directory with a profile and two files of records. -/
def reportFiles : Files :=
  ((Files.empty.put ["q"] "[\x7ba:'X2',b:1\x7d]").put ["p"]
    "\x7b\"a\":\"x1\"\x7d\n\x7b\"a\":\"y\"\x7d\n").put ["c"]
      "[filter]\ndefault_fields = [\"a\"]\n"

/-- A search in two files, whose report replaces one of them. -/
def reportInvocation (format : Format) (quiet : Bool) (verbose : Nat) (count : Bool) : Invocation :=
  ⟨some "c", format, some "./q", .never, verbose, quiet,
    .filter ⟨"x?", ["p", "q"], none, false, count, some "a"⟩⟩

/-- Two of three records match, and the number of them is all that is in the file then. -/
theorem reports_agree_replaced :
    (reportInvocation .json false 0 false).request =
        .filter ⟨"x?", ["p", "q"], none, false, false, some "a"⟩ ∧
      (run reportFiles (.ok "") (reportInvocation .json false 0 false)).exitStatus = 0 ∧
      (run reportFiles (.ok "") (reportInvocation .text true 3 true)).output = "2\n" ∧
      (run reportFiles (.ok "") (reportInvocation .text true 3 true)).files.read "./q" =
        .ok "2\n" := by
  have hsuccess : (run reportFiles (.ok "") (reportInvocation .json false 0 false)).exitStatus =
      0 := by decide +kernel
  have hcount : (run reportFiles (.ok "") (reportInvocation .text true 3 true)).output = "2\n" := by
    decide +kernel
  obtain ⟨config, records, fields, columns, -, -, -, -, -, hreports⟩ :=
    reports_agree rfl hsuccess
  obtain ⟨report, hsays, hruns⟩ := hreports .text true
  obtain ⟨outcome, rfl, hprinted, -, hfile⟩ := hruns true 3
  have hcounted : report = toString _ ++ "\n" := hsays
  -- a number with a line feed is printed as it is, so the report is what is known to be printed
  have hlast : report.toList.getLast? = some '\n' := by
    rw [hcounted, String.toList_append]
    exact List.getLast?_concat
  rw [if_pos hlast] at hprinted
  have hreport : report = "2\n" := hprinted.symm.trans hcount
  have hwrite : (reportFiles.write "./q" "2\n").isOk = true := by decide +kernel
  obtain ⟨written, hwritten⟩ : ∃ written, reportFiles.write "./q" "2\n" = .ok written := by
    cases h : reportFiles.write "./q" "2\n" with
    | ok written => exact ⟨written, rfl⟩
    | error fault =>
      rw [h] at hwrite
      exact absurd hwrite Bool.false_ne_true
  obtain ⟨-, hfiles, hread⟩ := (hfile "./q" rfl).1 written (hreport ▸ hwritten)
  refine ⟨rfl, hsuccess, hcount, ?_⟩
  rw [hreport] at hread
  exact (congrArg (Files.read · "./q") hfiles).trans hread

end Runs

end Command

end RecordQuery
