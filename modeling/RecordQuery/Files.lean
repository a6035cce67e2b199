import RecordQuery.Text.Pieces

/-!
# Files

The program reads files and writes them by their paths, and what a path leads to is not
its business: any kind of storage will do that can be read and written
(`RecordQuery.Storage`). Each failure has one cause (`RecordQuery.Files.Fault`).

One storage is a working directory (`RecordQuery.Files`): the files and directories in it,
each under the names that lead to it, and nothing but an unnamed directory outside it. A
path is followed name by name (`RecordQuery.Files.locate`); a file is read as a text
(`RecordQuery.Files.read`) and replaced as a whole (`RecordQuery.Files.write`).
-/

namespace RecordQuery

namespace Files

/-- Why a file cannot be read or written. -/
inductive Fault
  /-- No file has the name. -/
  | notFound
  /-- A name on the way to the file is not a directory. -/
  | notADirectory
  /-- The name is a directory. -/
  | isADirectory
  /-- The path, or a name in it, is too long. -/
  | nameTooLong
  /-- The path contains a NUL. -/
  | nulInName
  /-- The bytes of the file are no text in UTF-8. -/
  | notText
  /-- Anything else, with what the system says about it. -/
  | other (message : String)
deriving DecidableEq

/-- The message about a failure. -/
def Fault.message : Fault → String
  | .notFound => "No such file or directory (os error 2)"
  | .notADirectory => "Not a directory (os error 20)"
  | .isADirectory => "Is a directory (os error 21)"
  | .nameTooLong => "File name too long (os error 36)"
  | .nulInName => "file name contained an unexpected NUL byte"
  | .notText => "stream did not contain valid UTF-8"
  | .other message => message

end Files

/-- **Files that are read and written by their paths.** -/
class Storage (σ : Type) where
  /-- Reads a file as a text. -/
  read : σ → String → Except Files.Fault String
  /-- Writes a text to a file, and leaves other files behind. -/
  write : σ → String → String → Except Files.Fault σ

namespace Files

/-! ### Working directories -/

/-- What a name stands for. -/
inductive Content
  /-- A file with a text. -/
  | text (value : String)
  /-- A file whose bytes are no text. -/
  | binary
  /-- A directory. -/
  | directory
deriving DecidableEq

/-- A file with the given bytes. -/
def Content.ofBytes (bytes : ByteArray) : Content :=
  match String.fromUTF8? bytes with
  | some value => .text value
  | none => .binary

/-- The text of what a name stands for. -/
def Content.read : Content → Except Fault String
  | .text value => .ok value
  | .binary => .error .notText
  | .directory => .error .isADirectory

/-- The names that lead to a file, from the working directory. -/
abbrev Route := List String

end Files

/-- The files and directories of a working directory. A directory that something lies
in need not be listed. -/
structure Files where
  /-- What the routes lead to. -/
  entries : List (Files.Route × Files.Content)

namespace Files

/-- An empty working directory. -/
def empty : Files := ⟨[]⟩

/-- What a route leads to. -/
def content? (files : Files) (route : Route) : Option Content :=
  match files.entries.lookup route with
  | some content => some content
  | none =>
    if files.entries.any fun entry => route.isPrefixOf entry.1 then some .directory
    else if route.isEmpty then some .directory
    else none

/-! ### Paths -/

/-- A place that a path leads to. -/
inductive Place
  /-- At the end of a route. -/
  | inside (route : Route)
  /-- Outside the working directory, in a directory without files. -/
  | outside

/-- Whether a place is a directory, and if not, why nothing lies in it. -/
def enter (files : Files) : Place → Except Fault Unit
  | .outside => .ok ()
  | .inside route =>
    match files.content? route with
    | some .directory => .ok ()
    | some _ => .error .notADirectory
    | none => .error .notFound

/-- The greatest length of a name in bytes. -/
def longestName : Nat := 255

/-- The greatest length of a path in bytes. -/
def longestPath : Nat := 4095

/-- The place that a name leads to from a directory. -/
def follow (files : Files) (place : Place) (name : String) : Except Fault Place :=
  match files.enter place with
  | .error fault => .error fault
  | .ok () =>
    if name = "" || name = "." then .ok place
    else if name = ".." then
      match place with
      | .outside => .ok .outside
      | .inside route => .ok (if route.isEmpty then .outside else .inside route.dropLast)
    else if longestName < name.utf8ByteSize then .error .nameTooLong
    else match place with
      | .outside => .error .notFound
      | .inside route => .ok (.inside (route ++ [name]))

/-- Why a path cannot lead anywhere, whatever the files are. -/
def refusePath (path : String) : Except Fault Unit :=
  if '\x00' ∈ path.toList then .error .nulInName
  else if path.isEmpty then .error .notFound
  else if longestPath < path.utf8ByteSize then .error .nameTooLong
  else .ok ()

/-- The names in a path; the first is empty if the path starts outside. -/
def names (path : String) : List String :=
  (Text.pieces (· == '/') path.toList).map String.ofList

/-- The place where a path starts. -/
def start (path : String) : Place :=
  if path.toList.head? = some '/' then .outside else .inside []

/-- **The place that a path leads to.** -/
def locate (files : Files) (path : String) (names : List String) : Except Fault Place :=
  names.foldlM files.follow (start path)

/-! ### Reading and writing -/

/-- **Reads a file.** -/
def read (files : Files) (path : String) : Except Fault String := do
  refusePath path
  match ← files.locate path (names path) with
  | .outside => throw .isADirectory
  | .inside route =>
    match files.content? route with
    | some content => content.read
    | none => throw .notFound

/-- Puts a file at the end of a route. -/
def put (files : Files) (route : Route) (text : String) : Files :=
  ⟨(route, .text text) :: files.entries.filter fun entry => entry.1 != route⟩

/-- **Writes a file**, a new one or in place of another. A path that ends in a slash
can only be a directory. -/
def write (files : Files) (path text : String) : Except Fault Files := do
  refusePath path
  let slashes := (names path).reverse.takeWhile (·.isEmpty)
  let named := (names path).reverse.dropWhile (·.isEmpty)
  let name := named.head?.getD ""
  let parent ← files.locate path named.tail.reverse
  files.enter parent
  -- the slashes are looked at after the directory and before the name
  if !slashes.isEmpty then throw .isADirectory
  match ← files.follow parent name with
  | .outside => throw .isADirectory
  | .inside route =>
    if files.content? route = some .directory then throw .isADirectory
    else pure (files.put route text)

end Files

instance : Storage Files := ⟨Files.read, Files.write⟩

end RecordQuery
