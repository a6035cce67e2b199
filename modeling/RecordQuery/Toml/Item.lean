/-!
# TOML items

A TOML document is a table of items: scalars, arrays, tables and arrays of tables. A
table remembers how it came about (`RecordQuery.Toml.Kind`), because that decides
what may still be put into it: a table is opened by one header only, a dotted key
adds only to tables that dotted keys made, and an inline table is complete.

A value is put under a dotted key by `RecordQuery.Toml.put`, a header opens its table
by `RecordQuery.Toml.openTable`, and both refuse what these rules forbid.
-/

namespace RecordQuery.Toml

/-- How a table came about. -/
inductive Kind
  /-- Under a header of its own, or the document itself. -/
  | named
  /-- On the way to the table of a header. -/
  | implied
  /-- On the way to the value of a dotted key. -/
  | dotted
  /-- Between braces. -/
  | inlined
deriving DecidableEq

/-- What a key stands for. -/
inductive Item
  | string (text : String)
  | integer (value : Int)
  /-- A number that is not an integer. -/
  | float
  | boolean (value : Bool)
  /-- A date, a time, or both. -/
  | dateTime
  | array (items : List Item)
  | table (kind : Kind) (entries : List (String × Item))
  /-- The tables of repeated headers, the last one last. -/
  | tables (tables : List (List (String × Item)))

/-- The entries of a table, each key once. -/
abbrev Entries := List (String × Item)

/-- Sets the item of a key, at its place if it has one. -/
def setItem (name : String) (item : Item) : Entries → Entries
  | [] => [(name, item)]
  | (key, old) :: entries =>
    if key = name then (key, item) :: entries else (key, old) :: setItem name item entries

/-- Changes the last of some tables. -/
def changeLast (change : Entries → Option Entries) (tables : List Entries) :
    Option (List Entries) :=
  match tables.getLast? with
  | some last => (change last).map fun changed => tables.dropLast ++ [changed]
  | none => none

/-- **Puts a value under a dotted key** of a table, unless the key has one. The first
argument says whether the table takes a key of one name: the one in which the whole
key stands does, and of those below it the ones that dotted keys made. -/
def put (takes : Bool) (value : Item) : (key : List String) → Entries → Option Entries
  | [], _ => none
  | [name], entries =>
    if takes && (entries.lookup name).isNone then some (setItem name value entries) else none
  | name :: key, entries =>
    let changed := match entries.lookup name with
      | none => (put true value key []).map (Item.table .dotted)
      | some (.table .dotted inner) => (put true value key inner).map (Item.table .dotted)
      | some (.table .implied inner) => (put false value key inner).map (Item.table .implied)
      | some (.tables tables) => (changeLast (put false value key) tables).map Item.tables
      | some _ => none
    changed.map fun item => setItem name item entries

/-- Changes the table that a path of names leads to from another table, where the
tables on the way are made if they are missing. The last name is left to `change`. -/
def changeAt (change : String → Entries → Option Entries) :
    (path : List String) → Entries → Option Entries
  | [], _ => none
  | [name], entries => change name entries
  | name :: path, entries =>
    let changed := match entries.lookup name with
      | none => (changeAt change path []).map (Item.table .implied)
      | some (.table .inlined _) => none
      | some (.table kind inner) => (changeAt change path inner).map (Item.table kind)
      | some (.tables tables) => (changeLast (changeAt change path) tables).map Item.tables
      | some _ => none
    changed.map fun item => setItem name item entries

/-- **Opens the table of a header.** It may exist only as a table on the way to
others. -/
def openTable : (path : List String) → Entries → Option Entries :=
  changeAt fun name entries =>
    match entries.lookup name with
    | none => some (setItem name (.table .named []) entries)
    | some (.table .implied inner) => some (setItem name (.table .named inner) entries)
    | some _ => none

/-- **Adds a table for a repeated header.** -/
def addTable : (path : List String) → Entries → Option Entries :=
  changeAt fun name entries =>
    match entries.lookup name with
    | none => some (setItem name (.tables [[]]) entries)
    | some (.tables tables) => some (setItem name (.tables (tables ++ [[]])) entries)
    | some _ => none

/-- Puts a value under a dotted key of the table that a header opened last. -/
def putUnder (path key : List String) (value : Item) (entries : Entries) : Option Entries :=
  if path.isEmpty then put true value key entries
  else changeAt (fun name inner =>
    match inner.lookup name with
    | some (.table kind table) =>
      (put true value key table).map fun changed => setItem name (.table kind changed) inner
    | some (.tables tables) =>
      (changeLast (put true value key) tables).map fun changed =>
        setItem name (.tables changed) inner
    | _ => none) path entries

end RecordQuery.Toml
