import RecordQuery.Text.Fold

/-!
# Globs

In a glob `*` stands for any run of characters and `?` for any single one, neither
for a line feed, and every other character for itself, in either case unless case
counts. A glob matches a text if it generates some piece of it; one that ends in `*`
has to generate a piece at the start.

Matching goes through the items of the glob from the last to the first and keeps,
for every position of the text, whether the items seen so far match from there
(`RecordQuery.Glob.starts`), so that its cost is the product of the two lengths.

A glob is compiled into a regular expression of bounded size, and refused if that is
too large (`RecordQuery.Glob.compile?`). The size is an estimate that counts the
wildcards only, which take by far the most, so that what a compiled glob matches is
best stated of a glob that was compiled. The text of the expression
(`RecordQuery.Glob.expression`) is the identity of a compiled glob, next to whether
case counts.
-/

namespace RecordQuery

namespace Glob

/-! ### Items -/

/-- What one character of a glob stands for. -/
inductive Item
  /-- Any run of characters without a line feed. -/
  | run
  /-- Any character but a line feed. -/
  | one
  /-- The characters that agree with the given one. -/
  | literal (c : Char)
deriving DecidableEq

/-- The item of a character. -/
def item (c : Char) : Item :=
  if c = '*' then .run else if c = '?' then .one else .literal c

/-- The items of a glob. -/
def items (pattern : String) : List Item :=
  pattern.toList.map item

/-- Whether a character of a glob is a wildcard. -/
def isWildcard (c : Char) : Bool :=
  c == '*' || c == '?'

/-- Whether a glob has to match from the start of a text. -/
def isAnchored (pattern : String) : Bool :=
  pattern.toList.getLast? == some '*'

/-! ### The regular expression -/

/-- The characters with a meaning in regular expressions. -/
def marks : List Char :=
  ['\\', '.', '+', '*', '?', '(', ')', '|', '[', ']', '\x7b', '\x7d', '^', '$', '#', '&', '-', '~']

/-- One character of a glob as a regular expression. -/
def expressionOf (c : Char) : List Char :=
  if c = '*' then ['.', '*']
  else if c = '?' then ['.']
  else if marks.contains c then ['\\', c]
  else [c]

/-- **The regular expression of a glob**, as a text. -/
def expression (pattern : String) : String :=
  String.ofList ((if isAnchored pattern then ['^'] else []) ++
    pattern.toList.flatMap expressionOf)

/-! ### Size -/

/-- The greatest size of a compiled expression, in bytes. -/
def sizeLimit : Nat := 10485760

/-- What a wildcard takes, in bytes, as far as known. -/
def wildcardSize : Nat := 700

/-- The size of the compiled expression of a glob, letters left out. -/
def compiledSize (pattern : String) : Nat :=
  wildcardSize * pattern.toList.countP isWildcard

end Glob

/-- A compiled glob. -/
structure Glob where
  /-- The glob as a text. -/
  pattern : String
  /-- Whether case counts. -/
  caseSensitive : Bool
  /-- The compiled expression is not too large. -/
  size_le : Glob.compiledSize pattern ≤ Glob.sizeLimit

namespace Glob

/-- A glob that cannot be compiled: its expression is too large. -/
structure Oversized where
  /-- The glob as a text. -/
  pattern : String

/-- Why a glob cannot be compiled. -/
def Oversized.reason (_ : Oversized) : String :=
  s!"Compiled regex exceeds size limit of {sizeLimit} bytes."

/-- The message about a glob that cannot be compiled. -/
def Oversized.message (refused : Oversized) : String :=
  "Invalid glob pattern '" ++ refused.pattern ++ "': " ++ refused.reason

/-- **Compiles a glob**, unless its expression is too large. -/
def compile? (pattern : String) (caseSensitive : Bool) : Except Oversized Glob :=
  if h : compiledSize pattern ≤ sizeLimit then .ok ⟨pattern, caseSensitive, h⟩
  else .error ⟨pattern⟩

/-- Two compiled globs are equal if they have the same expression and treat case
alike. -/
instance : BEq Glob where
  beq a b := expression a.pattern == expression b.pattern && a.caseSensitive == b.caseSensitive

/-! ### Matching -/

/-- The positions from which one more item matches, given the positions from which
the items after it do. A position is held by its place in the list: one for every
character of the text, and one for its end. -/
def prepend (caseSensitive : Bool) : Item → (text : List Char) → (after : List Bool) → List Bool
  | .run, text, after =>
    -- a run may end here, or take one character and go on
    let step (c : Char) (here : Bool) (later : List Bool) : List Bool :=
      (here || (c != '\n' && later.head?.getD false)) :: later
    (List.zip text after).foldr (fun entry later => step entry.1 entry.2 later)
      (after.drop text.length)
  | .one, text, after => List.zipWith (fun c next => c != '\n' && next) text after.tail ++ [false]
  | .literal d, text, after =>
    let key := Text.keyChar caseSensitive d
    List.zipWith (fun c next => c == key && next) text after.tail ++ [false]

/-- The positions from which items match some piece of a text, whose characters are
given by the ones that stand for them. -/
def starts (caseSensitive : Bool) (items : List Item) (text : List Char) : List Bool :=
  items.foldr (fun item after => prepend caseSensitive item text after)
    (List.replicate (text.length + 1) true)

/-- **Whether a glob matches a text.** -/
def isMatch (glob : Glob) (text : String) : Bool :=
  let found := starts glob.caseSensitive (items glob.pattern)
    (text.toList.map (Text.keyChar glob.caseSensitive))
  if isAnchored glob.pattern then found.head?.getD false else found.any id

end Glob

end RecordQuery
