import RecordQuery.Files
import RecordQuery.Json.Printer
import RecordQuery.Json.Reader
import RecordQuery.Json.Relaxed
import RecordQuery.Query.Phrase
import RecordQuery.Text.Characters

/-!
# Reading records

A text of records is one of two formats. If its first character other than white
space is an opening bracket, it is one relaxed JSON array of objects; otherwise every
line that is not blank is a strict JSON object. The first thing that is wrong decides
the error (`RecordQuery.Records.Error`): of a line that is no JSON, its number among
all lines; of a value that is no object, the number of records before it.
-/

namespace RecordQuery.Records

open RecordQuery.Json (Entries Value)

/-- Why records cannot be read. -/
inductive Error
  /-- The file cannot be read. -/
  | unreadable (path : String) (fault : Files.Fault)
  /-- A line is not a JSON value. -/
  | invalidLine (path : String) (line : Nat) (fault : Json.Fault)
  /-- The text is not a relaxed JSON array. -/
  | invalidArray (path : String)
  /-- A value is not an object. -/
  | notAnObject (path : String) (index : Nat)
deriving DecidableEq

namespace Error

/-- The path of the file that has the error. -/
def path : Error → String
  | .unreadable path _ => path
  | .invalidLine path _ _ => path
  | .invalidArray path => path
  | .notAnObject path _ => path

/-- The message of an error, up to what a JSON reader says about its text. -/
def message : Error → String
  | .unreadable path fault => "Failed to read '" ++ path ++ "': " ++ fault.message
  | .invalidLine path line _ => "Invalid JSON in '" ++ path ++ s!"' at line {line}: "
  | .invalidArray path => "Invalid JSON5 array in '" ++ path ++ "': "
  | .notAnObject path index => s!"Record #{index} in '" ++ path ++ "' is not an object"

end Error

/-! ### The two formats -/

/-- Whether a text of records is an array. -/
def isArray (text : String) : Bool :=
  (Text.trimLeft text.toList).head? == some '['

/-- The entries of a value that has to be an object. -/
def record (source : String) (index : Nat) : Value → Except Error Entries
  | .object entries => .ok entries
  | _ => .error (.notAnObject source index)

/-- The records of an array, given the number of records before them. -/
def ofValues (source : String) (index : Nat) : List Value → Except Error (List Entries)
  | [] => .ok []
  | value :: values =>
    match record source index value with
    | .error error => .error error
    | .ok entries =>
      match ofValues source (index + 1) values with
      | .error error => .error error
      | .ok records => .ok (entries :: records)

/-- The records of lines, given the number of the first line and the number of records
before it. -/
def ofLines (source : String) (line index : Nat) : List (List Char) → Except Error (List Entries)
  | [] => .ok []
  | text :: lines =>
    if Text.allBlank text then ofLines source (line + 1) index lines
    else match Json.read (String.ofList text) with
      | .error fault => .error (.invalidLine source line fault)
      | .ok value =>
        match record source index value with
        | .error error => .error error
        | .ok entries =>
          match ofLines source (line + 1) (index + 1) lines with
          | .error error => .error error
          | .ok records => .ok (entries :: records)

/-- **The records of a text.** -/
def parse (text source : String) : Except Error (List Entries) :=
  if isArray text then
    match Json.readRelaxed text with
    | .ok (.array values) => ofValues source 0 values
    | _ => .error (.invalidArray source)
  else ofLines source 1 0 (Text.lines text.toList)

/-- The records of a text that was read, or was not, from a named file. -/
def load (name : String) (text : Except Files.Fault String) : Except Error (List Entries) :=
  match text with
  | .ok text => parse text name
  | .error fault => .error (.unreadable name fault)

/-! ### Field names -/

/-- **The names of all fields** of some records, in the order in which they first
occur. -/
def fieldNames (records : List Entries) : Query.FieldList :=
  ⟨(records.flatMap fun entries => entries.map Prod.fst).eraseDups⟩

end RecordQuery.Records
