import RecordQuery.Command.Invocation
import RecordQuery.Config
import RecordQuery.Report

/-!
# Running a command

An invocation is answered from what can be read (`RecordQuery.Command.answer`): the
profile first, then every file of records in order, and only then is the query
compiled and the report made. So a failure to read anything leaves no report at all,
and nothing is printed or written. With a report, the warnings about the query go to
the error output, the report to the output, and then to a file if one is named
(`RecordQuery.Command.run`), whose failure no longer changes what was printed.

A run takes from outside the files, in any storage, what standard input has, and whether
reports are colored where the invocation leaves it open.
-/

namespace RecordQuery.Command

open RecordQuery.Json (Entries)
open RecordQuery.Query (FieldList Filter Options)

/-- Why a command fails. -/
inductive Failure
  /-- The profile cannot be loaded. -/
  | config (error : Config.Error)
  /-- Records cannot be read. -/
  | records (error : Records.Error)
  /-- The report cannot be written to its file. -/
  | output (path : String) (fault : Files.Fault)
deriving DecidableEq

/-- The messages of a failure, from what was done to what went wrong. -/
def Failure.messages : Failure → List String
  | .config error => ["Failed to load config", error.message]
  | .records error => [error.message]
  | .output path fault => ["Failed to write output file '" ++ path ++ "'", fault.message]

/-- What a command has to say. -/
structure Reply where
  /-- What goes to the error output. -/
  warnings : String
  /-- What goes to the output. -/
  report : String
deriving DecidableEq

/-- What becomes of an invocation before anything is printed or written. -/
structure Answer where
  /-- The lines of the log, of all levels. -/
  log : List Log.Entry
  /-- What there is to say, or why there is nothing. -/
  result : Except Failure Reply

/-! ### Reading -/

/-- What reading a named file gives. -/
abbrev Reading := String → Except Files.Fault String

/-- The texts of some files. Standard input is used up by its first reading. -/
def sourceTexts (reading : Reading) (input : Except Files.Fault String) :
    List String → List (Except Files.Fault String)
  | [] => []
  | name :: names =>
    if name = inputName then input :: sourceTexts reading (.ok "") names
    else reading name :: sourceTexts reading input names

/-- The records of some files, or the first failure; and what is logged on the way. -/
def loadEach : List (String × Except Files.Fault String) →
    List Log.Entry × Except Records.Error (List Entries)
  | [] => ([], .ok [])
  | (name, text) :: sources =>
    match Records.load name text with
    | .error error => ([], .error error)
    | .ok records =>
      let line : Log.Entry := ⟨.debug, s!"loaded {records.length} record(s) from " ++ name⟩
      let others := loadEach sources
      (line :: others.1, others.2.map (records ++ ·))

/-- The records that a filter command reads, and what is logged on the way. -/
def loadRecords (reading : Reading) (input : Except Files.Fault String)
    (request : FilterRequest) : List Log.Entry × Except Records.Error (List Entries) :=
  loadEach (request.sources.zip (sourceTexts reading input request.sources))

/-! ### Filters -/

/-- The default fields of a command: those it names, or else the configured ones, or
else a fallback. -/
def effectiveFields (config : Config) (fields : Option String) (fallback : FieldList) :
    FieldList :=
  match fields with
  | some spec => .parse spec
  | none => config.defaultFields?.getD fallback

/-- The options of a command: case counts if the command or the profile says so. -/
def effectiveOptions (config : Config) (caseSensitive : Bool) : Options :=
  ⟨caseSensitive || config.options.caseSensitive⟩

/-- The columns of a table: those that the command names, or else the configured ones,
or else the default fields. -/
def effectiveColumns (config : Config) (columns : Option String) (filter : Filter) : FieldList :=
  match columns with
  | some spec => .parse spec
  | none => config.columns?.getD filter.defaultFields

/-! ### Reports -/

/-- The report of a filter command on the records that match. -/
def filterReport (config : Config) (color : Bool) (invocation : Invocation)
    (request : FilterRequest) (filter : Filter) (found : List Entries) : String :=
  let source : Report.Source := ⟨request.query, request.sources, filter.defaultFields⟩
  match invocation.format, request.count with
  | .text, false =>
    Report.matchesText color (effectiveColumns config request.columns filter) found
  | .text, true => Report.countText found.length
  | .json, false => Report.matchesJson source found
  | .json, true => Report.countJson source found.length

/-- The filter of a filter command on the records that were read. -/
def filterOf (config : Config) (request : FilterRequest) (records : List Entries) : Filter :=
  .new request.query (effectiveFields config request.fields (Records.fieldNames records))
    (effectiveOptions config request.caseSensitive)

/-- What compiling the query of a filter leaves in the log. -/
def filterLog (filter : Filter) : List Log.Entry :=
  Query.compileLog filter.search filter.defaultFields filter.options.caseSensitive

/-- Answers a filter command. -/
def answerFilter (config : Config) (reading : Reading) (input : Except Files.Fault String)
    (color : Bool) (invocation : Invocation) (request : FilterRequest) : Answer :=
  match loadRecords reading input request with
  | (log, .error error) => ⟨log, .error (.records error)⟩
  | (log, .ok records) =>
    let filter := filterOf config request records
    let found := filter.select records
    let fieldLine : Log.Entry := ⟨.info, "default fields: " ++ filter.defaultFields.text⟩
    let matchLine : Log.Entry :=
      ⟨.info, s!"{found.length} of {records.length} record(s) matched"⟩
    ⟨log ++ filterLog filter ++ [fieldLine, matchLine],
      .ok ⟨if invocation.quiet then "" else Report.warningLines color filter,
        filterReport config color invocation request filter found⟩⟩

/-- Answers an explain command. -/
def answerExplain (config : Config) (color : Bool) (invocation : Invocation)
    (request : ExplainRequest) : Answer :=
  let filter := Filter.new request.query (effectiveFields config request.fields .empty)
    (effectiveOptions config request.caseSensitive)
  let report := match invocation.format with
    | .text => Report.explainText color filter
    | .json => Report.explainJson filter
  ⟨filterLog filter, .ok ⟨"", report⟩⟩

/-- The profile of an invocation. -/
def loadConfig (reading : Reading) (invocation : Invocation) : Except Config.Error Config :=
  match invocation.config with
  | some path => Config.load path (reading path)
  | none => .ok .default

/-- What loading the profile leaves in the log. -/
def configLog (config : Config) (invocation : Invocation) : List Log.Entry :=
  ⟨.info, "config profile: " ++ config.profileName⟩ ::
    invocation.config.toList.map fun path => ⟨.info, "config file: " ++ path⟩

/-- **Answers an invocation** from what can be read, given whether reports are colored. -/
def answer (reading : Reading) (input : Except Files.Fault String) (color : Bool)
    (invocation : Invocation) : Answer :=
  match loadConfig reading invocation with
  | .error error => ⟨[], .error (.config error)⟩
  | .ok config =>
    let rest := match invocation.request with
      | .filter request => answerFilter config reading input color invocation request
      | .explain request => answerExplain config color invocation request
    ⟨configLog config invocation ++ rest.log, rest.result⟩

/-! ### Runs -/

/-- A report as it is printed: it ends in a line feed. -/
def printed (report : String) : String :=
  if report.toList.getLast? = some '\n' then report else report ++ "\n"

/-- What a run leaves behind. -/
structure Outcome (σ : Type := Files) where
  /-- Why it failed, if it did. -/
  failure : Option Failure
  /-- What it printed on the output. -/
  output : String
  /-- What it printed on the error output. -/
  errorOutput : String
  /-- The lines of its log. -/
  log : List Log.Entry
  /-- The files after it. -/
  files : σ

section Run

variable {σ : Type}

/-- The status that a run ends with. -/
def Outcome.exitStatus (outcome : Outcome σ) : Nat :=
  if outcome.failure.isSome then 1 else 0

/-- **Runs an invocation** on some files. -/
def run [Storage σ] (files : σ) (input : Except Files.Fault String) (invocation : Invocation)
    (colored : Bool := false) : Outcome σ :=
  let answer := answer (Storage.read files) input (invocation.color.isOn colored) invocation
  let log := Log.keep invocation.logLevel answer.log
  match answer.result with
  | .error failure => ⟨some failure, "", "", log, files⟩
  | .ok reply =>
    match invocation.output with
    | none => ⟨none, printed reply.report, reply.warnings, log, files⟩
    | some path =>
      match Storage.write files path reply.report with
      | .ok written => ⟨none, printed reply.report, reply.warnings, log, written⟩
      -- the report has been printed by then
      | .error fault =>
        ⟨some (.output path fault), printed reply.report, reply.warnings, log, files⟩

end Run

end RecordQuery.Command
