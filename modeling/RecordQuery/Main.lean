import RecordQuery.Command.Arguments
import RecordQuery.Command.Run

/-!
# The program

Reads the files that the command line names, answers the invocation, and prints and
writes what the answer says.
-/

namespace RecordQuery.Main

open RecordQuery.Command (Invocation Reading Usage)

/-- The cause of a failure of the operating system. -/
def faultOf : IO.Error → Files.Fault
  | .inappropriateType .. => .notADirectory
  | .illegalOperation .. => .isADirectory
  | .invalidArgument .. => .nulInName
  | .resourceExhausted .. => .nameTooLong
  | .noFileOrDirectory .. => .notFound
  | error => .other (toString error)

/-- Runs an action that may fail. -/
def attempt {α : Type} (action : IO α) : IO (Except Files.Fault α) := do
  try
    return .ok (← action)
  catch error => return .error (faultOf error)

/-- Reads a file as a text. -/
def readNamed (path : String) : IO (Except Files.Fault String) := do
  match ← attempt (IO.FS.readBinFile path) with
  | .ok bytes => return (Files.Content.ofBytes bytes).read
  | .error fault => return .error fault

/-- Reads standard input as a text. -/
def readInput : IO (Except Files.Fault String) := do
  let input ← IO.getStdin
  match ← attempt input.readBinToEnd with
  | .ok bytes => return (Files.Content.ofBytes bytes).read
  | .error fault => return .error fault

/-- The names of the files that an invocation reads. -/
def namesOf (invocation : Invocation) : List String :=
  let sources := match invocation.request with
    | .filter request => request.sources
    | .explain _ => []
  invocation.config.toList ++ sources.filter fun name => name != Command.inputName

/-- Whether an invocation reads standard input. -/
def readsInput (invocation : Invocation) : Bool :=
  match invocation.request with
  | .filter request => request.sources.contains Command.inputName
  | .explain _ => false

/-- Reads the files that an invocation names. -/
def readNames (names : List String) : IO Reading := do
  let texts ← names.mapM fun name => return (name, ← readNamed name)
  return fun name => (texts.lookup name).getD (.error .notFound)

/-- Whether the environment asks for colors, or else the output is a terminal and the
environment has nothing against them. -/
def isColored : IO Bool := do
  if (← IO.getEnv "CLICOLOR_FORCE").getD "0" != "0" then return true
  if (← IO.getEnv "NO_COLOR").isSome then return false
  if (← IO.getEnv "CLICOLOR").getD "1" == "0" then return false
  (← IO.getStdout).isTty

/-- Prints the messages of a failure. -/
def printFailure (failure : Command.Failure) : IO UInt32 := do
  IO.eprintln ("Error: " ++ Text.joinStrings "\n\nCaused by:\n    " failure.messages)
  return 1

/-- Runs an invocation. -/
def runInvocation (invocation : Invocation) : IO UInt32 := do
  let reading ← readNames (namesOf invocation)
  let input ← if readsInput invocation then readInput else pure (.ok "")
  let color := invocation.color.isOn (← isColored)
  let answer := Command.answer reading input color invocation
  for entry in Log.keep invocation.logLevel answer.log do
    IO.eprintln entry.text
  match answer.result with
  | .error failure => printFailure failure
  | .ok reply =>
    IO.eprint reply.warnings
    IO.print (Command.printed reply.report)
    match invocation.output with
    | none => return 0
    | some path =>
      match ← attempt (IO.FS.writeFile path reply.report) with
      | .ok _ => return 0
      | .error fault => printFailure (.output path fault)

/-- How the program is used. -/
def usageText : String :=
  "usage: smart-search [OPTIONS] filter QUERY [FILES]\n" ++
    "       smart-search [OPTIONS] explain QUERY\n"

/-- Says how the program is used. -/
def printUsage (usage : Usage) : IO UInt32 := do
  if usage.exitStatus = 0 then IO.print usageText else IO.eprint usageText
  return usage.exitStatus.toUInt32

end RecordQuery.Main

/-- Reads the command line and runs what it asks for. -/
def main (arguments : List String) : IO UInt32 := do
  let environment ← IO.getEnv "SMART_SEARCH_CONFIG"
  match RecordQuery.Command.parse environment arguments with
  | .ok invocation => RecordQuery.Main.runInvocation invocation
  | .error usage => RecordQuery.Main.printUsage usage
