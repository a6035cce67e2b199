import RecordQuery.Command.Invocation

/-!
# Reading the command line

Arguments are taken one by one. The shared options may stand before the command and
behind it; what stands behind it wins. An option is written out behind two dashes or
as a letter behind one, and letters may be put together; its value follows it as the
next argument, behind an equals sign, or directly behind the letter. Two dashes alone
end the options.

The query may start with a dash. As long as it has not been given, an argument with an
unknown option in it is no fault but a value: of the option that waits for one, or
else the query.

The values of an option, and the names of files, are looked at only when the next
option or another kind of argument comes (`RecordQuery.Command.Scan.settle`). Which
of several faults is reported depends on this order.
-/

namespace RecordQuery.Command

/-- Why a command line gives no invocation. Help and version are asked for, all else
is a fault. -/
inductive Usage
  | displayHelp
  | displayVersion
  /-- Nothing was given at all. -/
  | displayHelpOnMissing
  | missingSubcommand
  | missingRequired
  | unknownArgument
  | invalidValue
  | repeatedArgument
  | tooManyValues
  | invalidSubcommand
deriving DecidableEq

/-- The status that the program ends with. -/
def Usage.exitStatus : Usage → Nat
  | .displayHelp => 0
  | .displayVersion => 0
  | _ => 2

/-! ### Options -/

/-- A part of the command line with options of its own. -/
inductive Level
  /-- Before the command. -/
  | root
  /-- Behind the filter command. -/
  | filter
  /-- Behind the explain command. -/
  | explain
deriving DecidableEq

/-- An option. -/
inductive Switch
  | config
  | format
  | output
  | color
  | verbose
  | quiet
  | fields
  | caseSensitive
  | count
  | columns
  | help
  | version
deriving DecidableEq

/-- Whether an option has a value. -/
def Switch.takesValue : Switch → Bool
  | .config | .format | .output | .color | .fields | .columns => true
  | .verbose | .quiet | .caseSensitive | .count | .help | .version => false

/-- Whether an option is known at a level. -/
def Level.knows : Level → Switch → Bool
  | level, .version => level == .root
  | level, .fields => level != .root
  | level, .caseSensitive => level != .root
  | level, .count => level == .filter
  | level, .columns => level == .filter
  | _, _ => true

/-- The options by their long names. -/
def longNames : List (String × Switch) :=
  [("config", .config), ("format", .format), ("output", .output), ("color", .color),
    ("verbose", .verbose), ("quiet", .quiet), ("fields", .fields),
    ("case-sensitive", .caseSensitive), ("count", .count), ("columns", .columns),
    ("help", .help), ("version", .version)]

/-- The options by their letters. -/
def letters : List (Char × Switch) :=
  [('c', .config), ('F', .format), ('o', .output), ('v', .verbose), ('q', .quiet),
    ('f', .fields), ('h', .help), ('V', .version)]

/-- The option with a long name. -/
def Level.long? (level : Level) (name : String) : Option Switch :=
  (longNames.lookup name).filter level.knows

/-- The option with a letter. -/
def Level.letter? (level : Level) (letter : Char) : Option Switch :=
  (letters.lookup letter).filter level.knows

/-- The commands by their names. -/
def commandNames : List (String × Level) :=
  [("filter", .filter), ("explain", .explain)]

/-- The name of the command that shows help. -/
def helpName : String := "help"

/-! ### What was given -/

/-- What was given at a level. -/
structure Given where
  config : Option String
  format : Option Format
  output : Option String
  color : Option ColorMode
  verbose : Nat
  quiet : Bool
  fields : Option String
  caseSensitive : Bool
  count : Bool
  columns : Option String
  query : Option String
  files : List String

/-- Nothing was given. -/
def Given.nothing : Given :=
  ⟨none, none, none, none, 0, false, none, false, false, none, none, []⟩

/-- A format by its name. -/
def format? (name : String) : Option Format :=
  if name = "text" then some .text else if name = "json" then some .json else none

/-- A color mode by its name. -/
def colorMode? (name : String) : Option ColorMode :=
  if name = "auto" then some .auto
  else if name = "always" then some .always
  else if name = "never" then some .never
  else none

/-- A path: any text but the empty one. -/
def path? (text : String) : Option String :=
  if text.isEmpty then none else some text

/-- The value of an option that may be given once. -/
def once {α : Type} (read : String → Option α) (earlier : Option α) (value : Option String) :
    Except Usage (Option α) :=
  match value with
  | none => .error .invalidValue
  | some text =>
    if earlier.isSome then .error .repeatedArgument
    else match read text with
      | some value => .ok (some value)
      | none => .error .invalidValue

/-- A flag that may be given once. -/
def flagOnce (earlier : Bool) : Except Usage Bool :=
  if earlier then .error .repeatedArgument else .ok true

/-- The most that repetitions are counted. -/
def countLimit : Nat := 255

/-- Notes an option with its value. -/
def Given.note (given : Given) (switch : Switch) (value : Option String) : Except Usage Given := do
  match switch with
  | .config => return { given with config := ← once path? given.config value }
  | .format => return { given with format := ← once format? given.format value }
  | .output => return { given with output := ← once path? given.output value }
  | .color => return { given with color := ← once colorMode? given.color value }
  | .fields => return { given with fields := ← once some given.fields value }
  | .columns => return { given with columns := ← once some given.columns value }
  | .verbose => return { given with verbose := min (given.verbose + 1) countLimit }
  | .quiet => return { given with quiet := ← flagOnce given.quiet }
  | .caseSensitive => return { given with caseSensitive := ← flagOnce given.caseSensitive }
  | .count => return { given with count := ← flagOnce given.count }
  | .help => throw .displayHelp
  | .version => throw .displayVersion

/-- Notes the names of files. -/
def Given.noteFiles (given : Given) (files : List String) : Except Usage Given :=
  if files.any String.isEmpty then .error .invalidValue
  else .ok { given with files := given.files ++ files }

/-- Whether anything was given. -/
def Given.isExplicit (given : Given) : Bool :=
  given.config.isSome || given.format.isSome || given.output.isSome || given.color.isSome ||
    given.verbose != 0 || given.quiet

/-! ### The scan -/

/-- What has been taken and not yet looked at. -/
inductive Pending
  /-- Nothing. -/
  | nothing
  /-- An option, with its value unless it still waits for it. -/
  | option (switch : Switch) (value : Option String)
  /-- The names of files. -/
  | files (names : List String)

/-- A state of the scan of a level. -/
structure Scan where
  /-- What was given. -/
  given : Given
  /-- What has been taken and not yet looked at. -/
  pending : Pending
  /-- Whether the options have ended. -/
  trailing : Bool

namespace Scan

/-- Nothing taken. -/
def start : Scan :=
  ⟨.nothing, .nothing, false⟩

/-- Whether an option waits for its value. -/
def isWaiting (scan : Scan) : Bool :=
  match scan.pending with
  | .option _ none => true
  | _ => false

/-- **Looks at what is pending.** -/
def settle (scan : Scan) : Except Usage Scan := do
  match scan.pending with
  | .nothing => return scan
  | .option switch value =>
    return { scan with given := ← scan.given.note switch value, pending := .nothing }
  | .files names => return { scan with given := ← scan.given.noteFiles names, pending := .nothing }

/-- Takes an option without looking for its value elsewhere. -/
def note (scan : Scan) (switch : Switch) (value : Option String) : Except Usage Scan := do
  let scan ← scan.settle
  return { scan with given := ← scan.given.note switch value }

/-- Takes an option whose value, if it has one, is yet to come. -/
def begin (scan : Scan) (switch : Switch) : Except Usage Scan := do
  if switch.takesValue then
    let scan ← scan.settle
    return { scan with pending := .option switch none }
  else scan.note switch none

/-- Whether the next argument that is no option is the query. -/
def expectsQuery (scan : Scan) (level : Level) : Bool :=
  level != .root && scan.given.query.isNone

/-- Takes an option by its long name, or nothing if the argument is a value. -/
def long (level : Level) (scan : Scan) (name : String) (value : Option String) :
    Except Usage (Option Scan) := do
  match level.long? name with
  | some switch =>
    match value with
    | none => return some (← scan.begin switch)
    | some _ =>
      if switch.takesValue then return some (← scan.note switch value)
      else throw .tooManyValues
  | none => if scan.expectsQuery level then return none else throw .unknownArgument

/-- Takes options by their letters. The rest of the letters behind an option with a
value is its value, less an equals sign. -/
def cluster (level : Level) (scan : Scan) : List Char → Except Usage Scan
  | [] => .ok scan
  | letter :: rest =>
    match level.letter? letter with
    | none => .error .unknownArgument
    | some switch =>
      if switch.takesValue then
        match rest with
        | [] => scan.begin switch
        | '=' :: value => scan.note switch (some (String.ofList value))
        | value => scan.note switch (some (String.ofList value))
      else match scan.note switch none with
        | .ok scan => cluster level scan rest
        | .error usage => .error usage

/-- Takes the options in an argument, or nothing if it is a value. -/
def options (level : Level) (scan : Scan) (argument : String) : Except Usage (Option Scan) := do
  match argument.toList with
  | '-' :: '-' :: name =>
    let value := match name.dropWhile (· != '=') with
      | _ :: value => some (String.ofList value)
      | [] => none
    scan.long level (String.ofList (name.takeWhile (· != '='))) value
  | '-' :: letter :: letters =>
    -- one unknown letter makes a value of them all, those of known options too
    let known := (letter :: letters).all fun c => (level.letter? c).isSome
    if scan.expectsQuery level && !known then return none
    else return some (← scan.cluster level (letter :: letters))
  | _ => return none

/-- Takes an argument that is no option and no option's value. -/
def positional (level : Level) (scan : Scan) (argument : String) : Except Usage Scan := do
  match level with
  | .root =>
    let isName := (commandNames.lookup argument).isSome || argument = helpName
    throw (if scan.trailing && isName then .unknownArgument else .invalidSubcommand)
  | _ =>
    if scan.given.query.isNone then
      let scan ← scan.settle
      return { scan with given := { scan.given with query := some argument } }
    else if level = .explain then throw .unknownArgument
    else match scan.pending with
      | .files names => return { scan with pending := .files (names ++ [argument]) }
      | _ =>
        let scan ← scan.settle
        return { scan with pending := .files [argument] }

/-- **Takes an argument.** -/
def step (level : Level) (scan : Scan) (argument : String) : Except Usage Scan := do
  if scan.trailing then scan.positional level argument
  else if argument = "--" then return { scan with trailing := true }
  else match ← scan.options level argument with
    | some scan => return scan
    | none =>
      match scan.pending with
      | .option switch none => return { scan with pending := .option switch (some argument) }
      | _ => scan.positional level argument

end Scan

/-! ### Levels -/

/-- Ends a level: what is pending is looked at, and the file of the profile that the
environment names is checked where none was given. -/
def finish (environment : Option String) (scan : Scan) : Except Usage Given := do
  let scan ← scan.settle
  if scan.given.config.isNone && environment == some "" then throw .invalidValue
  return scan.given

/-- Reads what stands behind a command: it must give a query. -/
def behindCommand (level : Level) (environment : Option String) (arguments : List String) :
    Except Usage (Given × String) := do
  let scan ← arguments.foldlM (Scan.step level) Scan.start
  let given ← finish environment scan
  match given.query with
  | some query => return (given, query)
  | none => throw .missingRequired

/-- What the help command shows for the words behind it: help for a command, which may
be itself. -/
def helpOn : List String → Usage
  | [] => .displayHelp
  | [word] =>
    if (commandNames.lookup word).isSome || word = helpName then .displayHelp
    else .invalidSubcommand
  | _ => .invalidSubcommand

/-- Reads what stands before the command, up to its name: the command, and what stands
behind it. -/
def beforeCommand (scan : Scan) :
    List String → Except Usage (Scan × Option (Level × List String))
  | [] => .ok (scan, none)
  | argument :: rest =>
    let named := if scan.trailing || scan.isWaiting then none else some argument
    if named = some helpName then .error (helpOn rest)
    else match named.bind fun word => commandNames.lookup word with
      | some level => .ok (scan, some (level, rest))
      | none =>
        match scan.step .root argument with
        | .ok scan => beforeCommand scan rest
        | .error usage => .error usage

/-- The invocation of what was given before a command and behind it. -/
def invocation (environment : Option String) (before behind : Given) (request : Request) :
    Invocation where
  config := behind.config.or (before.config.or environment)
  format := (behind.format.or before.format).getD .text
  output := behind.output.or before.output
  color := (behind.color.or before.color).getD .auto
  verbose := if behind.verbose = 0 then before.verbose else behind.verbose
  quiet := behind.quiet || before.quiet
  request := request

/-- The command of a level with what was given behind its name. -/
def request (level : Level) (given : Given) (query : String) : Request :=
  match level with
  | .explain => .explain ⟨query, given.fields, given.caseSensitive⟩
  | _ =>
    .filter ⟨query, given.files, given.fields, given.caseSensitive, given.count, given.columns⟩

/-- **Reads a command line**, given the file of the profile that the environment
names. -/
def parse (environment : Option String) (arguments : List String) : Except Usage Invocation := do
  let (scan, command) ← beforeCommand Scan.start arguments
  match command with
  | some (level, rest) =>
    -- faults behind the command are found before the pending ones in front of it
    let (behind, query) ← behindCommand level environment rest
    let before ← finish environment scan
    return invocation environment before behind (request level behind query)
  | none =>
    let before ← finish environment scan
    if before.isExplicit || environment.isSome then throw .missingSubcommand
    else throw .displayHelpOnMissing

end RecordQuery.Command
