import RecordQuery.Query.Filter
import RecordQuery.Records
import RecordQuery.Report.Table

/-!
# Reports

What a run says: the records that match, how many they are, or how a query was
understood, each as a text for people or as a JSON value over several lines. A report
for people may set its titles in bold.

In a table a cell shows the text of a field on one line, cut to
`RecordQuery.Report.widestCell` characters with three points at the end of a cut one
(`RecordQuery.Report.truncate`).
-/

namespace RecordQuery.Report

open RecordQuery.Json (Entries Value)
open RecordQuery.Query (FieldList Filter)

/-! ### Emphasis -/

/-- A text in bold, if colors are on. -/
def bold (color : Bool) (text : String) : String :=
  if color then "\x1b[1m" ++ text ++ "\x1b[0m" else text

/-- A text in bold yellow, if colors are on. -/
def boldYellow (color : Bool) (text : String) : String :=
  if color then "\x1b[1;33m" ++ text ++ "\x1b[0m" else text

/-! ### Cells -/

/-- A text of at most so many characters: a longer one is cut, and ends in three
points. -/
def truncate (text : String) (most : Nat) : String :=
  if text.length ≤ most then text
  else String.ofList (text.toList.take (most - 3)) ++ "..."

/-- The most characters in a cell. -/
def widestCell : Nat := 60

/-- A character of a cell: a line feed is written as a backslash and an `n`. -/
def cellChar (c : Char) : List Char :=
  if c = '\n' then ['\\', 'n'] else [c]

/-- A text on one line. -/
def oneLine (text : String) : String :=
  String.ofList (text.toList.flatMap cellChar)

/-- The cell of a field of a record; an absent field leaves it empty. -/
def cell (record : Entries) (column : String) : String :=
  truncate (oneLine ((Record.fieldText record column).getD "")) widestCell

/-- The table of some records. -/
def table (columns : FieldList) (records : List Entries) : Table where
  head := columns.names
  rows := records.map fun record => columns.names.map (cell record)

/-! ### Matches -/

/-- How many records match. -/
def matchedLabel (count : Nat) : String :=
  s!"SEARCH matched {count} record" ++ (if count = 1 then "" else "s")

/-- **The records that match, as a table.** -/
def matchesText (color : Bool) (columns : FieldList) (records : List Entries) : String :=
  bold color (matchedLabel records.length) ++ "\n" ++
    (if records.isEmpty then "No matching records found.\n"
    else "\n" ++ (table columns records).text ++ "\n")

/-- The number of records that match. -/
def countText (count : Nat) : String :=
  s!"{count}\n"

/-- Where the records of a JSON report came from. -/
structure Source where
  /-- The query. -/
  query : String
  /-- The names of the files. -/
  files : List String
  /-- The fields of phrases without a scope. -/
  defaultFields : FieldList

/-- Names as a JSON array. -/
def namesJson (names : List String) : Value :=
  .array (names.map .string)

/-- The parts that every JSON report on matches has. -/
def sourceEntries (source : Source) (count : Nat) : Entries :=
  [("query", .string source.query), ("default_fields", namesJson source.defaultFields.names),
    ("files", namesJson source.files), ("matches", .number (.integer count))]

/-- A JSON report under its title. -/
def titled (title : String) (entries : Entries) : String :=
  (Value.ofEntries [(title, .ofEntries entries)]).pretty

/-- **The records that match, as a JSON value.** -/
def matchesJson (source : Source) (records : List Entries) : String :=
  titled "search"
    (sourceEntries source records.length ++ [("records", .array (records.map .object))])

/-- The number of records that match, as a JSON value. -/
def countJson (source : Source) (count : Nat) : String :=
  titled "search" (sourceEntries source count)

/-! ### Explanations -/

/-- The messages of the warnings about a query. -/
def warningMessages (filter : Filter) : List String :=
  filter.warnings.map Query.Warning.message

/-- **How a query was understood.** -/
def explainText (color : Bool) (filter : Filter) : String :=
  let mode := if filter.options.caseSensitive then "case-sensitive" else "case-insensitive"
  let warnings := warningMessages filter
  bold color "QUERY" ++ "\n" ++ filter.search ++ "\n\n" ++
    bold color "COMPILED" ++ " (" ++ mode ++ ")\n" ++ filter.description ++ "\n" ++
    (if warnings.isEmpty then ""
    else "\n" ++ bold color "WARNINGS" ++ "\n" ++
      String.join (warnings.map fun message => "- " ++ message ++ "\n"))

/-- How a query was understood, as a JSON value. -/
def explainJson (filter : Filter) : String :=
  titled "explain"
    [("query", .string filter.search),
      ("default_fields", namesJson filter.defaultFields.names),
      ("case_sensitive", .bool filter.options.caseSensitive),
      ("expr", filter.tree.toJson),
      ("description", .string filter.description),
      ("warnings", namesJson (warningMessages filter))]

/-- The warnings about a query, one line each, for the error output. -/
def warningLines (color : Bool) (filter : Filter) : String :=
  String.join ((warningMessages filter).map fun message =>
    boldYellow color "Warning:" ++ " " ++ message ++ "\n")

end RecordQuery.Report
