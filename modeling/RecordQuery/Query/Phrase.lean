import RecordQuery.Query.Token
import RecordQuery.Text.Pieces

/-!
# Phrases

A token of a query reads as a phrase: a minus sign negates it, a scope that ends in a
colon names its fields, and what is left, without quotation marks and bars, is its
pattern (`RecordQuery.Query.Phrase.parse`). A phrase without a scope gets the default
fields.

The fields that a phrase is matched against are a list of names
(`RecordQuery.Query.FieldList`). Its text has bars between the names; a comma is read
like a bar. Names are kept as they are written, empty and repeated ones included, so that
reading the text of a list that is not empty gives back the list
(`RecordQuery.Query.FieldList.parse_text`).

Reading never fails. Where it had to be lenient it leaves a warning
(`RecordQuery.Query.Warning`), whose message says what was read in place of what was
written. The warnings about a token (`RecordQuery.Query.Phrase.warnings`) come in the
order quotation marks, bars, empty pattern.
-/

namespace RecordQuery.Query

/-! ### Field lists -/

/-- Field names in the order in which they were given. -/
structure FieldList where
  /-- The names. -/
  names : List String
deriving DecidableEq

namespace FieldList

/-- No field. -/
def empty : FieldList := ⟨[]⟩

/-- Whether a character separates names. -/
def isSeparator (c : Char) : Bool :=
  c == '|' || c == ','

/-- Reads names with bars or commas between them. -/
def parse (spec : String) : FieldList :=
  ⟨(Text.pieces isSeparator spec.toList).map String.ofList⟩

/-- The names with bars between them. -/
def text (fields : FieldList) : String :=
  Text.joinStrings "|" fields.names

/-- **A list has one name more than its text has separators.** -/
theorem length_parse (spec : String) :
    (parse spec).names.length = spec.toList.countP isSeparator + 1 := by
  simp [parse, Text.pieces_length]

end FieldList

/-! ### Warnings -/

/-- A place of a query at which the compiler was lenient. -/
inductive Warning
  /-- A group without phrases, by its place among the groups. -/
  | emptyGroup (index : Nat)
  /-- A phrase with an odd number of quotation marks. -/
  | unbalancedQuotes (phrase : String)
  /-- A phrase with a bar outside its scope. -/
  | strayPipe (phrase : String)
  /-- A phrase without a pattern. -/
  | emptyPattern (phrase : String)
  /-- A pattern that cannot be compiled. -/
  | invalidPattern (pattern : String) (reason : String)
deriving DecidableEq

/-- The message of a warning. -/
def Warning.message : Warning → String
  | .emptyGroup index => s!"Empty OR group #{index}: it matches every record"
  | .unbalancedQuotes phrase =>
    "Unbalanced quotes in '" ++ phrase ++ "': all quote characters were removed"
  | .strayPipe phrase => "Stray '|' in '" ++ phrase ++ "': it was removed from the search text"
  | .emptyPattern phrase =>
    "Empty search text in '" ++ phrase ++ "': it matches any record where the field is set"
  | .invalidPattern pattern reason =>
    "Pattern '" ++ pattern ++ "' cannot be matched (" ++ reason ++ "); it never matches"

/-! ### Phrases -/

/-- A phrase, its sign and its scope resolved. -/
structure Phrase where
  /-- The fields it is matched against. -/
  fields : FieldList
  /-- The glob it looks for. -/
  pattern : String
  /-- Whether it excludes what it matches. -/
  negated : Bool
deriving DecidableEq

namespace Phrase

/-- Whether a token has a minus sign, and the rest of it. -/
def splitSign : List Char → Bool × List Char
  | '-' :: rest => (true, rest)
  | cs => (false, cs)

/-- What follows the scope of an unsigned token. -/
def body (unsigned : List Char) : List Char :=
  match scope? unsigned with
  | some (_, rest) => rest
  | none => unsigned

/-- The fields of an unsigned token. -/
def scopeFields (unsigned : List Char) (defaults : FieldList) : FieldList :=
  match scope? unsigned with
  | some (names, _) => .parse (String.ofList names)
  | none => defaults

/-- Whether a character is left out of patterns. -/
def isDropped (c : Char) : Bool :=
  c == '"' || c == '|'

/-- The pattern in the body of a token. -/
def patternOf (body : List Char) : String :=
  String.ofList (body.filter fun c => !isDropped c)

/-- **Reads a token as a phrase.** -/
def parse (token : String) (defaults : FieldList) : Phrase :=
  let unsigned := (splitSign token.toList).2
  ⟨scopeFields unsigned defaults, patternOf (body unsigned), (splitSign token.toList).1⟩

/-- The warnings about a token. -/
def warnings (token : String) : List Warning :=
  let body := body (splitSign token.toList).2
  (if token.toList.count '"' % 2 = 1 then [.unbalancedQuotes token] else []) ++
    (if '|' ∈ body then [.strayPipe token] else []) ++
    (if (patternOf body).isEmpty then [.emptyPattern token] else [])

end Phrase

end RecordQuery.Query
