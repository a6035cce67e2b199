import RecordQuery.Files
import RecordQuery.Query.Filter
import RecordQuery.Toml.Document

/-!
# Configuration

A profile sets the default fields and the case of queries and the columns of tables.
It is a TOML document; what it leaves out keeps its default, and keys that the program
does not know are passed over. The tables `filter` and `output` may also be written as
arrays, whose items are then read by their place.
-/

namespace RecordQuery

open RecordQuery.Toml (Item)

namespace Config

/-- What queries are compiled with. -/
structure FilterRules where
  /-- The fields of phrases without a scope; none leaves the choice to the records. -/
  defaultFields : List String
  /-- Whether case counts. -/
  caseSensitive : Bool
deriving DecidableEq

/-- What reports show. -/
structure OutputRules where
  /-- The columns of tables; none leaves the choice to the query. -/
  columns : List String
deriving DecidableEq

end Config

/-- A profile. -/
structure Config where
  /-- A label for people. -/
  profileName : String
  /-- What queries are compiled with. -/
  filter : Config.FilterRules
  /-- What reports show. -/
  output : Config.OutputRules
deriving DecidableEq

namespace Config

/-- The profile without a configuration file. -/
def default : Config :=
  ⟨"base", ⟨[], false⟩, ⟨[]⟩⟩

/-- The configured default fields, if there are any. -/
def defaultFields? (config : Config) : Option Query.FieldList :=
  if config.filter.defaultFields.isEmpty then none else some ⟨config.filter.defaultFields⟩

/-- The configured columns, if there are any. -/
def columns? (config : Config) : Option Query.FieldList :=
  if config.output.columns.isEmpty then none else some ⟨config.output.columns⟩

/-- The configured options of queries. -/
def options (config : Config) : Query.Options :=
  ⟨config.filter.caseSensitive⟩

/-! ### Reading -/

/-- Why a profile cannot be loaded. -/
inductive Error
  /-- The file cannot be read. -/
  | unreadable (path : String) (fault : Files.Fault)
  /-- The text is no profile. -/
  | invalid (path : String)
deriving DecidableEq

/-- The path of the file that has the error. -/
def Error.path : Error → String
  | .unreadable path _ => path
  | .invalid path => path

/-- The message of an error, up to what a TOML reader says about its text. -/
def Error.message : Error → String
  | .unreadable path fault => "Failed to read config file '" ++ path ++ "': " ++ fault.message
  | .invalid path => "Failed to parse config file '" ++ path ++ "': "

/-- The text of an item that has to be one. -/
def asString? : Item → Option String
  | .string text => some text
  | _ => none

/-- The truth value of an item that has to be one. -/
def asBool? : Item → Option Bool
  | .boolean value => some value
  | _ => none

/-- The texts of an item that has to be an array of texts. -/
def asStrings? : Item → Option (List String)
  | .array items => items.mapM asString?
  | _ => none

/-- The value of an item that may be missing. -/
def orDefault {α : Type} (read : Item → Option α) (missing : α) : Option Item → Option α
  | none => some missing
  | some item => read item

/-- The items of a group of settings: by name in a table, by place in an array. A date or
a time is a group that gives none of them. -/
def settings? (names : List String) : Item → Option (List (Option Item))
  | .table _ entries => some (names.map fun name => entries.lookup name)
  | .array items => some ((List.range names.length).map fun place => items[place]?)
  | .tables tables =>
    some ((List.range names.length).map fun place => (tables[place]?).map (.table .named))
  | .dateTime => some (names.map fun _ => none)
  | _ => none

/-- The rules for queries in an item. -/
def filterRules? (item : Item) : Option FilterRules := do
  match ← settings? ["default_fields", "case_sensitive"] item with
  | [fields, case] =>
    some ⟨← orDefault asStrings? default.filter.defaultFields fields,
      ← orDefault asBool? default.filter.caseSensitive case⟩
  | _ => none

/-- The rules for reports in an item. -/
def outputRules? (item : Item) : Option OutputRules := do
  match ← settings? ["columns"] item with
  | [columns] => some ⟨← orDefault asStrings? default.output.columns columns⟩
  | _ => none

/-- **The profile of a text.** -/
def parse? (text : String) : Option Config := do
  let entries ← Toml.parse text
  some ⟨← orDefault asString? default.profileName (entries.lookup "profile_name"),
    ← orDefault filterRules? default.filter (entries.lookup "filter"),
    ← orDefault outputRules? default.output (entries.lookup "output")⟩

/-- **Loads a profile** from what was read, or was not, from a named file. -/
def load (path : String) (text : Except Files.Fault String) : Except Error Config :=
  match text with
  | .error fault => .error (.unreadable path fault)
  | .ok text =>
    match parse? text with
    | some config => .ok config
    | none => .error (.invalid path)

end Config

end RecordQuery
