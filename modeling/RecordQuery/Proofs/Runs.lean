import RecordQuery.Proofs.Inputs

/-!
# What a run leaves behind

A run reads the profile and the files of records, warns about the query, prints its report
and writes it to a file. This file takes these actions one after the other
(`RecordQuery.Command.perform`), each in the world that those before it have left: a file is
read as it is then, standard input is used up, what is printed stays printed. Nothing is
assumed of the storage that the files are in. The outcome of a run is what the actions leave
(`RecordQuery.Command.leaves_run`), and it is one of two:

* a **refusal** (`RecordQuery.Command.Outcome.IsRefusal`): the profile, or else the first
  file that cannot be loaded, is the failure, and nothing was printed or written;
* a **report** (`RecordQuery.Command.Outcome.IsReport`): all of it is printed, whether it can
  then be written to a file or not.

Reading changes nothing but what is left of standard input
(`RecordQuery.Command.loadFiles_apply`), so a failure to read, however late, leaves the
world as it was; and what is written can no longer be read, so it does not matter which file
it replaces. Whatever fails, the failure names a file of the invocation
(`RecordQuery.Command.names_of_failure`).
-/

namespace RecordQuery.Command

open RecordQuery.Json (Entries)
open RecordQuery.Query (FieldList Filter)

/-! ### Actions -/

/-- What the actions of a run read and change. -/
structure World (σ : Type) where
  /-- The files. -/
  files : σ
  /-- What is left of standard input. -/
  input : Except Files.Fault String
  /-- What was printed on the output. -/
  output : String
  /-- What was printed on the error output. -/
  errorOutput : String

/-- An action may fail, and what it has changed by then stays. -/
abbrev Action (σ α : Type) := ExceptT Failure (StateM (World σ)) α

section Actions

variable {σ : Type}

/-- The value of a result, or a failure. -/
def orFail {ε α : Type} (failure : ε → Failure) : Except ε α → Action σ α
  | .ok value => return value
  | .error error => throw (failure error)

/-- Reads a file as it is. -/
def readFile [Storage σ] (path : String) : Action σ (Except Files.Fault String) := do
  return Storage.read (← get).files path

/-- Reads what is left of standard input. -/
def readInput : Action σ (Except Files.Fault String) :=
  modifyGet fun world => (world.input, { world with input := .ok "" })

/-- Loads the profile. -/
def loadProfile [Storage σ] (invocation : Invocation) : Action σ Config := do
  match invocation.config with
  | none => return .default
  | some path => orFail .config (Config.load path (← readFile path))

/-- Loads a file of records. -/
def loadFile [Storage σ] (name : String) : Action σ (List Entries) := do
  let text ← if name = inputName then readInput else readFile name
  orFail .records (Records.load name text)

/-- Loads files of records, one after the other. -/
def loadFiles [Storage σ] : List String → Action σ (List Entries)
  | [] => return []
  | name :: names => do
    let records ← loadFile name
    return records ++ (← loadFiles names)

/-- Prints on the output. -/
def print (text : String) : Action σ Unit :=
  modify fun world => { world with output := world.output ++ text }

/-- Prints on the error output. -/
def warn (text : String) : Action σ Unit :=
  modify fun world => { world with errorOutput := world.errorOutput ++ text }

/-- Writes a file. -/
def writeFile [Storage σ] (path text : String) : Action σ Unit := do
  let files ← orFail (.output path) (Storage.write (← get).files path text)
  modify fun world => { world with files := files }

/-- The report of an explain command. -/
def explainReport (config : Config) (color : Bool) (invocation : Invocation)
    (request : ExplainRequest) : String :=
  let filter := Filter.new request.query (effectiveFields config request.fields .empty)
    (effectiveOptions config request.caseSensitive)
  match invocation.format with
  | .text => Report.explainText color filter
  | .json => Report.explainJson filter

/-- Prints the warnings about a query, unless it is to be quiet. -/
def printWarnings (color : Bool) (invocation : Invocation) (filter : Filter) : Action σ Unit :=
  if invocation.quiet then return () else warn (Report.warningLines color filter)

/-- Reads the files of a filter command, and makes its report. -/
def makeFilterReport [Storage σ] (config : Config) (color : Bool) (invocation : Invocation)
    (request : FilterRequest) : Action σ String := do
  let records ← loadFiles request.sources
  let filter := filterOf config request records
  printWarnings color invocation filter
  return filterReport config color invocation request filter (filter.select records)

/-- Reads what a command needs, and makes its report. -/
def makeReport [Storage σ] (color : Bool) (invocation : Invocation) : Action σ String := do
  let config ← loadProfile invocation
  match invocation.request with
  | .filter request => makeFilterReport config color invocation request
  | .explain request => return explainReport config color invocation request

/-- Prints a report, with a line feed behind it. -/
def printReport (report : String) : Action σ Unit := do
  print report
  if report.toList.getLast? ≠ some '\n' then print "\n"

/-- **The actions of a run**, one after the other, given whether reports are colored. -/
def perform [Storage σ] (color : Bool) (invocation : Invocation) : Action σ Unit := do
  let report ← makeReport color invocation
  printReport report
  match invocation.output with
  | none => return ()
  | some path => writeFile path report

/-! ### What each action changes -/

theorem bind_apply {α β : Type} (action : Action σ α) (next : α → Action σ β) (world : World σ) :
    (action >>= next) world =
      match action world with
      | (.ok value, later) => next value later
      | (.error failure, later) => (.error failure, later) := by
  change StateT.bind action (ExceptT.bindCont next) world = _
  rw [StateT.bind]
  rcases action world with ⟨failure | value, later⟩ <;> rfl

theorem orFail_apply {ε α : Type} (failure : ε → Failure) (result : Except ε α)
    (world : World σ) :
    orFail failure result world = (result.mapError failure, world) := by
  cases result <;> rfl

/-- Loading the profile changes nothing. -/
theorem loadProfile_apply [Storage σ] (invocation : Invocation) (world : World σ) :
    loadProfile invocation world =
      ((loadConfig (Storage.read world.files) invocation).mapError .config, world) := by
  rw [loadProfile, loadConfig]
  cases invocation.config with
  | none => rfl
  | some path => exact (bind_apply (readFile path) _ world).trans (orFail_apply _ _ world)

/-- Loading a file gives what the first of `loads` says, and leaves standard input to the
others. -/
theorem loadFile_apply [Storage σ] (name : String) (names : List String) (world : World σ) :
    ∃ text rest, loads (Storage.read world.files) world.input (name :: names) =
        Records.load name text :: loads (Storage.read world.files) rest names ∧
      loadFile name world =
        ((Records.load name text).mapError .records, { world with input := rest }) := by
  rw [loads, sourceTexts, loadFile]
  split
  · refine ⟨world.input, .ok "", rfl, ?_⟩
    exact (bind_apply readInput _ world).trans (orFail_apply _ _ _)
  · refine ⟨Storage.read world.files name, world.input, rfl, ?_⟩
    exact (bind_apply (readFile name) _ world).trans (orFail_apply _ _ _)

/-- **Loading files** gives their records or the first error, and changes nothing but what is
left of standard input. -/
theorem loadFiles_apply [Storage σ] (names : List String) (world : World σ) :
    ∃ rest, loadFiles names world =
      ((gather (loads (Storage.read world.files) world.input names)).mapError .records,
        { world with input := rest }) := by
  induction names generalizing world with
  | nil => exact ⟨world.input, rfl⟩
  | cons name names ih =>
    obtain ⟨text, rest, hloads, hload⟩ := loadFile_apply name names world
    obtain ⟨left, hothers⟩ := ih { world with input := rest }
    rw [hloads, loadFiles, bind_apply, hload]
    cases Records.load name text with
    | error error => exact ⟨rest, rfl⟩
    | ok records =>
      refine ⟨left, (bind_apply (loadFiles names) _ _).trans ?_⟩
      rw [hothers, gather_cons_ok]
      cases gather (loads (Storage.read world.files) rest names) <;> rfl

/-- The warnings that are printed about a query. -/
def warnings (color : Bool) (invocation : Invocation) (filter : Filter) : String :=
  if invocation.quiet then "" else Report.warningLines color filter

theorem printWarnings_apply (color : Bool) (invocation : Invocation) (filter : Filter)
    (world : World σ) :
    printWarnings color invocation filter world =
      (.ok (),
        { world with errorOutput := world.errorOutput ++ warnings color invocation filter }) := by
  rw [printWarnings, warnings]
  split
  · rw [String.append_empty]
    rfl
  · rfl

theorem printReport_apply (report : String) (world : World σ) :
    printReport report world =
      (.ok (), { world with output := world.output ++ printed report }) := by
  rw [printReport, printed, ite_not]
  split
  · rfl
  · rw [← String.append_assoc]
    rfl

theorem writeFile_apply [Storage σ] (path text : String) (world : World σ) :
    writeFile path text world =
      match Storage.write world.files path text with
      | .ok files => (.ok (), { world with files := files })
      | .error fault => (.error (.output path fault), world) := by
  refine (bind_apply (orFail (.output path) (Storage.write world.files path text)) _ world).trans ?_
  rw [orFail_apply]
  cases Storage.write world.files path text <;> rfl

end Actions

/-! ### What there is to say -/

/-- What a filter command has to say about the records that it has read. -/
def filterReply (config : Config) (color : Bool) (invocation : Invocation)
    (request : FilterRequest) (records : List Entries) : Reply :=
  let filter := filterOf config request records
  ⟨warnings color invocation filter,
    filterReport config color invocation request filter (filter.select records)⟩

/-- What an explain command has to say: it has no warnings. -/
def explainReply (config : Config) (color : Bool) (invocation : Invocation)
    (request : ExplainRequest) : Reply :=
  ⟨"", explainReport config color invocation request⟩

theorem result_answerFilter (config : Config) (reading : Reading)
    (input : Except Files.Fault String) (color : Bool) (invocation : Invocation)
    (request : FilterRequest) :
    (answerFilter config reading input color invocation request).result =
      ((gather (loads reading input request.sources)).mapError .records).map
        (filterReply config color invocation request) := by
  rw [← loadRecords_eq, answerFilter]
  rcases loadRecords reading input request with ⟨log, error | records⟩ <;> rfl

/-- What an invocation has to say, or why there is nothing. -/
theorem result_answer (reading : Reading) (input : Except Files.Fault String) (color : Bool)
    (invocation : Invocation) :
    (answer reading input color invocation).result =
      match loadConfig reading invocation with
      | .error error => .error (.config error)
      | .ok config =>
        match invocation.request with
        | .filter request => (answerFilter config reading input color invocation request).result
        | .explain request => .ok (explainReply config color invocation request) := by
  rw [answer]
  cases loadConfig reading invocation with
  | error error => rfl
  | ok config => cases invocation.request <;> rfl

section Result

variable {reading : Reading} {input : Except Files.Fault String} {invocation : Invocation}
  {config : Config} (hconfig : loadConfig reading invocation = .ok config) (color : Bool)
include hconfig

/-- A filter command whose profile and files are loaded has its reply to say. -/
theorem result_of_filter {request : FilterRequest}
    (hrequest : invocation.request = .filter request) {records : List Entries}
    (hrecords : gather (loads reading input request.sources) = .ok records) :
    (answer reading input color invocation).result =
      .ok (filterReply config color invocation request records) := by
  rw [result_answer, hconfig, hrequest]
  dsimp only
  rw [result_answerFilter, hrecords]
  rfl

/-- An explain command whose profile is loaded has its reply to say. -/
theorem result_of_explain {request : ExplainRequest}
    (hrequest : invocation.request = .explain request) :
    (answer reading input color invocation).result =
      .ok (explainReply config color invocation request) := by
  rw [result_answer, hconfig, hrequest]

end Result

section Actions

variable {σ : Type}

/-- What is left when there is a reply, or none: only a reply prints its warnings. -/
def World.answered (world : World σ) (rest : Except Files.Fault String) :
    Except Failure Reply → Except Failure String × World σ
  | .error failure => (.error failure, { world with input := rest })
  | .ok reply => (.ok reply.report,
      { world with input := rest, errorOutput := world.errorOutput ++ reply.warnings })

theorem makeFilterReport_apply [Storage σ] (config : Config) (color : Bool)
    (invocation : Invocation) (request : FilterRequest) (world : World σ) :
    ∃ rest, makeFilterReport config color invocation request world = world.answered rest
      (answerFilter config (Storage.read world.files) world.input color invocation
        request).result := by
  obtain ⟨rest, hload⟩ := loadFiles_apply request.sources world
  refine ⟨rest, ?_⟩
  rw [makeFilterReport, bind_apply, hload, result_answerFilter]
  cases gather (loads (Storage.read world.files) world.input request.sources) with
  | error error => rfl
  | ok records =>
    refine (bind_apply (printWarnings color invocation _) _ _).trans ?_
    rw [printWarnings_apply]
    rfl

/-- **Making a report** changes nothing but what is left of standard input, and prints only
the warnings of a report that is made. -/
theorem makeReport_apply [Storage σ] (color : Bool) (invocation : Invocation) (world : World σ) :
    ∃ rest, makeReport color invocation world = world.answered rest
      (answer (Storage.read world.files) world.input color invocation).result := by
  rw [makeReport, bind_apply, loadProfile_apply, result_answer]
  cases loadConfig (Storage.read world.files) invocation with
  | error error => exact ⟨world.input, rfl⟩
  | ok config =>
    cases invocation.request with
    | filter request => exact makeFilterReport_apply config color invocation request world
    | explain request =>
      refine ⟨world.input, ?_⟩
      simp only [Except.mapError, World.answered, explainReply, String.append_empty]
      rfl

end Actions

/-! ### The outcome of a run -/

namespace Outcome

variable {σ : Type}

/-- A run succeeds if it has no failure. -/
theorem exitStatus_eq_zero_iff (outcome : Outcome σ) :
    outcome.exitStatus = 0 ↔ outcome.failure = none := by
  rw [exitStatus]
  cases outcome.failure <;> simp

/-- **A refusal**: a failure, with nothing printed and the files as they were. -/
structure IsRefusal (outcome : Outcome σ) (failure : Failure) (files : σ) : Prop where
  failure_eq : outcome.failure = some failure
  output_eq : outcome.output = ""
  errorOutput_eq : outcome.errorOutput = ""
  files_eq : outcome.files = files

/-- **A report**: all of it is printed, with its warnings. Writing it to the file that is
named, if any, can fail then, and leaves the files as they were. -/
structure IsReport [Storage σ] (outcome : Outcome σ) (reply : Reply) (path : Option String)
    (files : σ) : Prop where
  output_eq : outcome.output = printed reply.report
  errorOutput_eq : outcome.errorOutput = reply.warnings
  written :
    match path with
    | none => outcome.failure = none ∧ outcome.files = files
    | some path =>
      match Storage.write files path reply.report with
      | .ok written => outcome.failure = none ∧ outcome.files = written
      | .error fault => outcome.failure = some (.output path fault) ∧ outcome.files = files

/-- An outcome is what actions leave, its log apart. -/
structure Leaves (outcome : Outcome σ) (left : Except Failure Unit × World σ) : Prop where
  failure_eq : outcome.failure.elim (.ok ()) .error = left.1
  output_eq : outcome.output = left.2.output
  errorOutput_eq : outcome.errorOutput = left.2.errorOutput
  files_eq : outcome.files = left.2.files

end Outcome

section Run

variable {σ : Type} [Storage σ] {files : σ} {input : Except Files.Fault String}
  {invocation : Invocation} {colored : Bool}

theorem run_of_error {failure : Failure}
    (h : (answer (Storage.read files) input (invocation.color.isOn colored) invocation).result =
      .error failure) :
    (run files input invocation colored).IsRefusal failure files := by
  rw [run, h]
  exact ⟨rfl, rfl, rfl, rfl⟩

theorem run_of_ok {reply : Reply}
    (h : (answer (Storage.read files) input (invocation.color.isOn colored) invocation).result =
      .ok reply) :
    (run files input invocation colored).IsReport reply invocation.output files := by
  rw [run, h]
  cases invocation.output with
  | none => exact ⟨rfl, rfl, rfl, rfl⟩
  | some path =>
    dsimp only
    cases hwrite : Storage.write files path reply.report with
    | error fault => exact ⟨rfl, rfl, by simp only [hwrite, and_self]⟩
    | ok written => exact ⟨rfl, rfl, by simp only [hwrite, and_self]⟩

/-- What a run prints does not depend on the file that its report is written to. -/
theorem output_run_update (path : Option String) :
    (run files input { invocation with output := path } colored).output =
      (run files input invocation colored).output := by
  have hanswer : answer (Storage.read files) input (invocation.color.isOn colored)
      { invocation with output := path } =
        answer (Storage.read files) input (invocation.color.isOn colored) invocation := rfl
  cases hresult : (answer (Storage.read files) input (invocation.color.isOn colored)
      invocation).result with
  | error failure =>
    rw [(run_of_error (hanswer ▸ hresult)).output_eq, (run_of_error hresult).output_eq]
  | ok reply => rw [(run_of_ok (hanswer ▸ hresult)).output_eq, (run_of_ok hresult).output_eq]

/-- **The outcome of a run** is what its actions leave. -/
theorem leaves_run (files : σ) (input : Except Files.Fault String) (invocation : Invocation)
    (colored : Bool) :
    (run files input invocation colored).Leaves
      (perform (invocation.color.isOn colored) invocation ⟨files, input, "", ""⟩) := by
  obtain ⟨rest, hmake⟩ :=
    makeReport_apply (invocation.color.isOn colored) invocation ⟨files, input, "", ""⟩
  rw [perform, bind_apply, hmake, run]
  cases (answer (Storage.read files) input (invocation.color.isOn colored) invocation).result with
  | error failure => exact ⟨rfl, rfl, rfl, rfl⟩
  | ok reply =>
    simp only [World.answered, bind_apply, printReport_apply, String.empty_append]
    cases invocation.output with
    | none => exact ⟨rfl, rfl, rfl, rfl⟩
    | some path =>
      simp only [writeFile_apply]
      cases Storage.write files path reply.report with
      | error fault => exact ⟨rfl, rfl, rfl, rfl⟩
      | ok written => exact ⟨rfl, rfl, rfl, rfl⟩

/-- **A run fails as a whole.** Its outcome is what its actions leave, each of them taken in
the world that those before it have left. A profile that cannot be loaded, or else the first
file of records that cannot be, makes it a refusal, however many files were loaded before.
Otherwise it is a report, and what is printed does not depend on the file, if any, that it is
written to. -/
theorem run_atomic (files : σ) (input : Except Files.Fault String) (invocation : Invocation)
    (colored : Bool) :
    (run files input invocation colored).Leaves
        (perform (invocation.color.isOn colored) invocation ⟨files, input, "", ""⟩) ∧
      (match loadConfig (Storage.read files) invocation with
        | .error error => (run files input invocation colored).IsRefusal (.config error) files
        | .ok config =>
          match invocation.request with
          | .filter request =>
            match firstError (loads (Storage.read files) input request.sources) with
            | some error =>
              (run files input invocation colored).IsRefusal (.records error) files
            | none => (run files input invocation colored).IsReport
                (filterReply config (invocation.color.isOn colored) invocation request
                  (loadedRecords (loads (Storage.read files) input request.sources)))
                invocation.output files
          | .explain request => (run files input invocation colored).IsReport
              (explainReply config (invocation.color.isOn colored) invocation request)
              invocation.output files) ∧
      ∀ path, (run files input { invocation with output := path } colored).output =
        (run files input invocation colored).output := by
  have hresult := result_answer (Storage.read files) input (invocation.color.isOn colored)
    invocation
  refine ⟨leaves_run files input invocation colored, ?_, output_run_update⟩
  cases hconfig : loadConfig (Storage.read files) invocation with
  | error error =>
    rw [hconfig] at hresult
    exact run_of_error hresult
  | ok config =>
    cases hrequest : invocation.request with
    | explain request =>
      rw [hconfig, hrequest] at hresult
      exact run_of_ok hresult
    | filter request =>
      rw [hconfig, hrequest] at hresult
      dsimp only at hresult ⊢
      rw [result_answerFilter, gather] at hresult
      cases hfirst : firstError (loads (Storage.read files) input request.sources) with
      | some error =>
        rw [hfirst] at hresult
        exact run_of_error hresult
      | none =>
        rw [hfirst] at hresult
        exact run_of_ok hresult

/-! ### What a failure names -/

/-- **What a failure names**: the file of the profile, a file of records, or the file that the
report was to be written to. -/
def Failure.Names (failure : Failure) (invocation : Invocation) : Prop :=
  match failure with
  | .config error => invocation.config = some error.path
  | .records error =>
    ∃ request, invocation.request = .filter request ∧ error.path ∈ request.sources
  | .output path _ => invocation.output = some path

theorem names_of_answer {reading : Reading} {color : Bool} {failure : Failure}
    (h : (answer reading input color invocation).result = .error failure) :
    failure.Names invocation := by
  rw [result_answer] at h
  cases hconfig : loadConfig reading invocation with
  | error error =>
    rw [hconfig] at h
    obtain rfl := Except.error.inj h
    exact path_of_loadConfig hconfig
  | ok config =>
    rw [hconfig] at h
    cases hrequest : invocation.request with
    | explain request =>
      rw [hrequest] at h
      exact absurd h (by simp)
    | filter request =>
      rw [hrequest] at h
      dsimp only at h
      rw [result_answerFilter, gather] at h
      cases hfirst : firstError (loads reading input request.sources) with
      | none =>
        rw [hfirst] at h
        exact absurd h (by simp [Except.mapError, Except.map])
      | some error =>
        rw [hfirst] at h
        obtain rfl := Except.error.inj h
        exact ⟨request, hrequest, path_mem_of_firstError hfirst⟩

/-- **A failure names a file of the invocation**, whatever fails. -/
theorem names_of_failure {failure : Failure}
    (h : (run files input invocation colored).failure = some failure) :
    failure.Names invocation := by
  cases hresult : (answer (Storage.read files) input (invocation.color.isOn colored)
      invocation).result with
  | error other =>
    rw [(run_of_error hresult).failure_eq] at h
    obtain rfl := Option.some.inj h
    exact names_of_answer hresult
  | ok reply =>
    have hwritten := (run_of_ok hresult).written
    split at hwritten
    · rw [hwritten.1] at h
      exact absurd h (by simp)
    · next path hpath =>
      split at hwritten
      · rw [hwritten.1] at h
        exact absurd h (by simp)
      · rw [hwritten.1] at h
        obtain rfl := Option.some.inj h
        exact hpath

end Run

end RecordQuery.Command
