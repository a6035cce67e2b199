import RecordQuery.Log

/-!
# Invocations

What a command line asks for: a command, which either filters records by a query or
explains one, and the settings that all commands share.
-/

namespace RecordQuery.Command

/-- The form of a report. -/
inductive Format
  | text
  | json
deriving DecidableEq

/-- When reports are colored. -/
inductive ColorMode
  /-- If the terminal and the environment are for it. -/
  | auto
  | always
  | never
deriving DecidableEq

/-- Whether reports are colored, given whether they are where that is left open. -/
def ColorMode.isOn (colored : Bool) : ColorMode → Bool
  | .auto => colored
  | .always => true
  | .never => false

/-- The name of standard input among the files. -/
def inputName : String := "-"

/-- What a filter command asks for. -/
structure FilterRequest where
  /-- The query. -/
  query : String
  /-- The names of the files with the records; none stands for standard input. -/
  files : List String
  /-- The fields of phrases without a scope. -/
  fields : Option String
  /-- Whether case counts. -/
  caseSensitive : Bool
  /-- Whether only the number of records is asked for. -/
  count : Bool
  /-- The columns of the table. -/
  columns : Option String
deriving DecidableEq

/-- What an explain command asks for. -/
structure ExplainRequest where
  /-- The query. -/
  query : String
  /-- The fields of phrases without a scope. -/
  fields : Option String
  /-- Whether case counts. -/
  caseSensitive : Bool
deriving DecidableEq

/-- A command. -/
inductive Request
  | filter (request : FilterRequest)
  | explain (request : ExplainRequest)
deriving DecidableEq

/-- A command with its settings. -/
structure Invocation where
  /-- The file of the profile. -/
  config : Option String
  /-- The form of the report. -/
  format : Format
  /-- The file that the report is also written to. -/
  output : Option String
  /-- When reports are colored. -/
  color : ColorMode
  /-- How often more log lines were asked for. -/
  verbose : Nat
  /-- Whether only errors are shown. -/
  quiet : Bool
  /-- The command. -/
  request : Request
deriving DecidableEq

/-- The level of the log: warnings, and one level more for each time it was asked for,
unless only errors are shown. -/
def Invocation.logLevel (invocation : Invocation) : Log.Level :=
  if invocation.quiet then .error
  else match invocation.verbose with
    | 0 => .warn
    | 1 => .info
    | 2 => .debug
    | _ => .trace

/-- The files of a filter command, standard input if it names none. -/
def FilterRequest.sources (request : FilterRequest) : List String :=
  if request.files.isEmpty then [inputName] else request.files

end RecordQuery.Command
