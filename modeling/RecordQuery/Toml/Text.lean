import RecordQuery.Text.Characters

/-!
# TOML texts

A text of a TOML document stands between quotation marks, with escapes, or between
apostrophes, without; three marks on either side let it go over several lines. A line
end inside it is always a line feed, one right after the opening marks is dropped,
and a backslash at the end of a line joins the lines. Up to two marks may stand
directly before the three that close a text.

Every reader returns what it read and the rest of the text, or nothing if the text is
not of its form.
-/

namespace RecordQuery.Toml

/-- A reader of a part at the start of a text, which also returns what follows it. -/
abbrev Reader (α : Type) := List Char → Option (α × List Char)

/-- Whether a character may stand in a comment: no control character but the tab. -/
def isPrintable (c : Char) : Bool :=
  c == '\t' || (decide (' ' ≤ c) && c != '\x7f')

/-- Whether a character stands for itself between quotation marks. -/
def isPlain (c : Char) : Bool :=
  isPrintable c && c != '"' && c != '\\'

/-- Whether a character stands for itself between apostrophes. -/
def isLiteral (c : Char) : Bool :=
  isPrintable c && c != '\x27'

/-- The character of an escape of one letter or mark. -/
def shortEscape? (c : Char) : Option Char :=
  if c = '"' || c = '\\' then some c
  else if c = 'b' then some '\x08'
  else if c = 't' then some '\t'
  else if c = 'n' then some '\n'
  else if c = 'f' then some '\x0c'
  else if c = 'r' then some '\r'
  else none

/-- Puts a character in front of what a reader read. -/
def consRead (c : Option Char) (read : Option (List Char × List Char)) :
    Option (List Char × List Char) :=
  match c, read with
  | some c, some (cs, rest) => some (c :: cs, rest)
  | _, _ => none

/-- A character that stands for itself if it passes a test. -/
def passing (test : Char → Bool) (c : Char) : Option Char :=
  if test c then some c else none

/-! ### On one line -/

/-- Reads up to the closing quotation mark. -/
def quotedRest : Reader (List Char)
  | [] => none
  | '"' :: rest => some ([], rest)
  | '\\' :: 'u' :: a :: b :: c :: d :: rest =>
    consRead (Text.hexChar? [a, b, c, d]) (quotedRest rest)
  | '\\' :: 'U' :: a :: b :: c :: d :: e :: f :: g :: h :: rest =>
    consRead (Text.hexChar? [a, b, c, d, e, f, g, h]) (quotedRest rest)
  | '\\' :: c :: rest => consRead (shortEscape? c) (quotedRest rest)
  | c :: rest => consRead (passing isPlain c) (quotedRest rest)

/-- Reads up to the closing apostrophe. -/
def literalRest : Reader (List Char)
  | [] => none
  | '\x27' :: rest => some ([], rest)
  | c :: rest => consRead (passing isLiteral c) (literalRest rest)

/-! ### Over several lines -/

/-- Whether only blanks stand before the end of the line. -/
def atLineEnd (cs : List Char) : Bool :=
  match cs.dropWhile fun c => c == ' ' || c == '\t' with
  | '\n' :: _ => true
  | '\r' :: '\n' :: _ => true
  | _ => false

/-- Reads up to the three closing quotation marks; blanks and line ends are left out
first if a backslash joins the lines. -/
def quotedBlock (joining : Bool) : Reader (List Char)
  | [] => none
  | '"' :: '"' :: '"' :: '"' :: '"' :: rest => some (['"', '"'], rest)
  | '"' :: '"' :: '"' :: '"' :: rest => some (['"'], rest)
  | '"' :: '"' :: '"' :: rest => some ([], rest)
  | '"' :: rest => consRead (some '"') (quotedBlock false rest)
  | '\\' :: 'u' :: a :: b :: c :: d :: rest =>
    consRead (Text.hexChar? [a, b, c, d]) (quotedBlock false rest)
  | '\\' :: 'U' :: a :: b :: c :: d :: e :: f :: g :: h :: rest =>
    consRead (Text.hexChar? [a, b, c, d, e, f, g, h]) (quotedBlock false rest)
  | '\\' :: c :: rest =>
    if atLineEnd (c :: rest) then quotedBlock true (c :: rest)
    else consRead (shortEscape? c) (quotedBlock false rest)
  | '\r' :: '\n' :: rest =>
    if joining then quotedBlock true rest else consRead (some '\n') (quotedBlock false rest)
  | '\n' :: rest =>
    if joining then quotedBlock true rest else consRead (some '\n') (quotedBlock false rest)
  | c :: rest =>
    if joining && (c == ' ' || c == '\t') then quotedBlock true rest
    else consRead (passing isPlain c) (quotedBlock false rest)

/-- Reads up to the three closing apostrophes. -/
def literalBlock : Reader (List Char)
  | [] => none
  | '\x27' :: '\x27' :: '\x27' :: '\x27' :: '\x27' :: rest => some (['\x27', '\x27'], rest)
  | '\x27' :: '\x27' :: '\x27' :: '\x27' :: rest => some (['\x27'], rest)
  | '\x27' :: '\x27' :: '\x27' :: rest => some ([], rest)
  | '\x27' :: rest => consRead (some '\x27') (literalBlock rest)
  | '\r' :: '\n' :: rest => consRead (some '\n') (literalBlock rest)
  | '\n' :: rest => consRead (some '\n') (literalBlock rest)
  | c :: rest => consRead (passing isLiteral c) (literalBlock rest)

/-- A text without the line end at its start. -/
def dropLineEnd : List Char → List Char
  | '\n' :: rest => rest
  | '\r' :: '\n' :: rest => rest
  | cs => cs

/-! ### Texts -/

/-- The text made of the characters that were read. -/
def asText (read : Option (List Char × List Char)) : Option (String × List Char) :=
  read.map fun found => (String.ofList found.1, found.2)

/-- **Reads a text on one line.** -/
def lineText : Reader String
  | '"' :: rest => asText (quotedRest rest)
  | '\x27' :: rest => asText (literalRest rest)
  | _ => none

/-- **Reads a text.** -/
def text : Reader String
  | '"' :: '"' :: '"' :: rest => asText (quotedBlock false (dropLineEnd rest))
  | '\x27' :: '\x27' :: '\x27' :: rest => asText (literalBlock (dropLineEnd rest))
  | cs => lineText cs

end RecordQuery.Toml
