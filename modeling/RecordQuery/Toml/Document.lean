import RecordQuery.Toml.Scalar

/-!
# TOML documents

A document is a sequence of lines, each blank, a comment, a header in brackets or a
key with its value. It is read in two steps: the lines become statements
(`RecordQuery.Toml.statements`), and the statements, taken in order, build the table
of the document (`RecordQuery.Toml.build`). A text that either step refuses is no
document.

Values may be nested at most 79 deep, and a key may have at most 79 names.
-/

namespace RecordQuery.Toml

/-! ### Blanks, comments and line ends -/

/-- A text without the blanks at its start. -/
def dropBlanks (cs : List Char) : List Char :=
  cs.dropWhile fun c => c == ' ' || c == '\t'

/-- Skips a line end, or stops at the end of the text. -/
def lineEnd? : List Char → Option (List Char)
  | [] => some []
  | '\n' :: rest => some rest
  | '\r' :: '\n' :: rest => some rest
  | _ => none

/-- Skips the rest of a line: blanks and a comment. -/
def restOfLine? (cs : List Char) : Option (List Char) :=
  match dropBlanks cs with
  | '#' :: rest => lineEnd? (rest.dropWhile isPrintable)
  | rest => lineEnd? rest

/-- Skips blanks, line ends and comments, a comment only with its line end. -/
def dropLines? (inComment : Bool) : List Char → Option (List Char)
  | [] => if inComment then none else some []
  | '\n' :: rest => dropLines? false rest
  | '\r' :: '\n' :: rest => dropLines? false rest
  | c :: rest =>
    if inComment then (if isPrintable c then dropLines? true rest else none)
    else if c == ' ' || c == '\t' then dropLines? false rest
    else if c == '#' then dropLines? true rest
    else some (c :: rest)

/-! ### Keys -/

/-- Whether a character may stand in a key without quotation marks. -/
def isBare (c : Char) : Bool :=
  c.isAlphanum || c == '-' || c == '_'

/-- Reads a name, with or without quotation marks. -/
def name (cs : List Char) : Option (String × List Char) :=
  match lineText cs with
  | some read => some read
  | none =>
    if (cs.takeWhile isBare).isEmpty then none
    else some (String.ofList (cs.takeWhile isBare), cs.dropWhile isBare)

/-- Reads a name between blanks. -/
def spacedName (cs : List Char) : Option (String × List Char) :=
  (name (dropBlanks cs)).map fun read => (read.1, dropBlanks read.2)

/-- The nesting of values and the length of keys are below this. -/
def depthLimit : Nat := 80

/-- Reads names with points between them, at most so many. -/
def names : (most : Nat) → Reader (List String)
  | 0, _ => none
  | most + 1, cs =>
    match spacedName cs with
    | none => none
    | some (first, '.' :: rest) => (names most rest).map fun read => (first :: read.1, read.2)
    | some (first, rest) => some ([first], rest)

/-- **Reads a key.** -/
def key : Reader (List String) :=
  names (depthLimit - 1)

/-! ### Values -/

/-- Reads a key with its value. -/
def entry (value : Reader Item) (cs : List Char) : Option ((List String × Item) × List Char) := do
  let (path, rest) ← key cs
  let (item, rest) ← value (dropBlanks (← mark '=' rest))
  some ((path, item), rest)

/-- Reads the items of an array up to its closing bracket. Every item takes a
character, so the length of the text is `fuel` enough. -/
def arrayItems (value : Reader Item) : (fuel : Nat) → Reader (List Item)
  | 0, _ => none
  | fuel + 1, cs =>
    match dropLines? false cs with
    | none => none
    -- also after a comma, which may stand before the closing bracket
    | some (']' :: rest) => some ([], rest)
    | some start =>
      match value start with
      | none => none
      | some (item, after) =>
        match dropLines? false after with
        | some (']' :: rest) => some ([item], rest)
        | some (',' :: rest) =>
          (arrayItems value fuel rest).map fun read => (item :: read.1, read.2)
        | _ => none

/-- Reads an array whose opening bracket has been read. -/
def array (value : Reader Item) (cs : List Char) : Option (Item × List Char) :=
  (arrayItems value cs.length cs).map fun read => (.array read.1, read.2)

/-- Reads the entries of an inline table up to its closing brace, the first of them
still to come. Every entry takes a character, so the length of the text is `fuel`
enough. -/
def inlineEntries (value : Reader Item) : (fuel : Nat) → Reader (List (List String × Item))
  | 0, _ => none
  | fuel + 1, cs =>
    match entry value cs with
    | none => none
    | some (first, after) =>
      match dropBlanks after with
      | '\x7d' :: rest => some ([first], rest)
      | ',' :: rest => (inlineEntries value fuel rest).map fun read => (first :: read.1, read.2)
      | _ => none

/-- The table of some keys with their values. -/
def tableOf (entries : List (List String × Item)) : Option Entries :=
  entries.foldlM (fun table e => put true e.2 e.1 table) []

/-- Reads an inline table whose opening brace has been read. -/
def inlineTable (value : Reader Item) (cs : List Char) : Option (Item × List Char) :=
  match dropBlanks cs with
  | '\x7d' :: rest => some (.table .inlined [], rest)
  | start => do
    let (entries, rest) ← inlineEntries value start.length start
    some (.table .inlined (← tableOf entries), rest)

/-- **Reads a value** with less than so many containers inside one another. -/
def value : (depth : Nat) → Reader Item
  | 0, cs => scalar cs
  | depth + 1, cs =>
    match cs with
    | '[' :: rest => array (value depth) rest
    | '\x7b' :: rest => inlineTable (value depth) rest
    | _ => scalar cs

/-! ### Statements -/

/-- What a line of a document says. -/
inductive Statement
  /-- A key with its value. -/
  | entry (key : List String) (value : Item)
  /-- A header that opens a table. -/
  | table (path : List String)
  /-- A header that adds a table to those of the same path. -/
  | another (path : List String)

/-- Reads the header whose opening brackets have been read. -/
def header (cs : List Char) : Option (List String × List Char) := do
  let (path, rest) ← key cs
  some (path, ← mark ']' rest)

/-- Reads what a line that is neither blank nor a comment says. -/
def statement : Reader Statement
  | '[' :: '[' :: rest => do
    let (path, rest) ← header rest
    some (.another path, ← mark ']' rest)
  | '[' :: rest => (header rest).map fun read => (.table read.1, read.2)
  | cs => (entry (value (depthLimit - 1)) cs).map fun read => (.entry read.1.1 read.1.2, read.2)

/-- Reads a line. -/
def line (cs : List Char) : Option (Option Statement × List Char) :=
  match restOfLine? cs with
  | some rest => some (none, rest)
  | none => do
    let (said, rest) ← statement (dropBlanks cs)
    some (some said, ← restOfLine? rest)

/-- Reads all lines. Every line takes a character, so the length of the text is `fuel`
enough. -/
def allLines : (fuel : Nat) → List Char → Option (List Statement)
  | _, [] => some []
  | 0, _ => none
  | fuel + 1, cs =>
    match line cs with
    | none => none
    | some (said, rest) => (allLines fuel rest).map fun others => said.toList ++ others

/-- **The statements of a text.** -/
def statements (cs : List Char) : Option (List Statement) :=
  allLines cs.length cs

/-! ### Building -/

/-- A document so far: its table, and the path of the last header. -/
structure Build where
  /-- The entries of the document. -/
  root : Entries
  /-- The path of the table that keys are put into. -/
  path : List String

/-- Takes one statement. -/
def Build.step (build : Build) : Statement → Option Build
  | .entry key value => (putUnder build.path key value build.root).map fun root => ⟨root, build.path⟩
  | .table path => (openTable path build.root).map fun root => ⟨root, path⟩
  | .another path => (addTable path build.root).map fun root => ⟨root, path⟩

/-- **The table that statements build**, if they obey the rules of tables. -/
def build (statements : List Statement) : Option Entries :=
  (statements.foldlM Build.step ⟨[], []⟩).map Build.root

/-- A text without the byte order mark at its start. -/
def dropByteOrderMark : List Char → List Char
  | '\ufeff' :: rest => rest
  | cs => cs

/-- **The entries of a document.** -/
def parse (text : String) : Option Entries :=
  (statements (dropByteOrderMark text.toList)).bind build

end RecordQuery.Toml
