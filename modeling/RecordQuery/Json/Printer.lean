import RecordQuery.Decimal.Layout
import RecordQuery.Json.Value
import RecordQuery.Text.Pieces

/-!
# Writing JSON

A value is written on one line without blanks (`RecordQuery.Json.Value.compact`), or
with one item a line and two spaces a level (`RecordQuery.Json.Value.pretty`). Both
are one printer, told the level of the line it is on or that there are no lines.
Inside texts only the quotation mark, the backslash and the control characters below
the space are escaped.

The text that a query sees of a value is another one
(`RecordQuery.Json.Value.text?`): a string is itself, null has no text, an array is
the texts of its items with commas between, and a double that is a whole number is
written like an integer.
-/

namespace RecordQuery.Json

open RecordQuery.Decimal (Double Layout intText tenTo)
open RecordQuery.Text (join joinStrings)

/-! ### Numbers and texts -/

/-- Doubles are written without an exponent from `0.00001` up to sixteen digits before
the point. -/
def doubleLayout : Layout :=
  ⟨-5, 15⟩

/-- The text of a number. -/
def Number.text : Number → String
  | .integer value => intText value
  | .float value => doubleLayout.text value

/-- One character inside quotation marks. -/
def escapedChar (c : Char) : List Char :=
  if c = '"' then ['\\', '"']
  else if c = '\\' then ['\\', '\\']
  else if c = '\x08' then ['\\', 'b']
  else if c = '\x0c' then ['\\', 'f']
  else if c = '\n' then ['\\', 'n']
  else if c = '\r' then ['\\', 'r']
  else if c = '\t' then ['\\', 't']
  else if c.toNat < 0x20 then
    ['\\', 'u', '0', '0', Nat.digitChar (c.toNat / 16), Nat.digitChar (c.toNat % 16)]
  else [c]

/-- A text between quotation marks. -/
def quotedText (text : String) : List Char :=
  '"' :: text.toList.flatMap escapedChar ++ ['"']

/-! ### Layout -/

/-- Starts a line at a level, if there are lines. -/
def newLine : Option Nat → List Char
  | none => []
  | some level => '\n' :: List.replicate (2 * level) ' '

/-- The items of a container between its brackets, each on a line of its own one
level deeper if there are lines. -/
def enclosed (level : Option Nat) (opening closing : Char) (items : List (List Char)) :
    List Char :=
  if items.isEmpty then [opening, closing]
  else
    let inner := newLine (level.map (· + 1))
    opening :: inner ++ join (',' :: inner) items ++ newLine level ++ [closing]

/-- What stands between a key and its value. -/
def afterKey : Option Nat → List Char
  | none => [':']
  | some _ => [':', ' ']

mutual

/-- Writes a value whose first line is at the given level. -/
def write (level : Option Nat) : Value → List Char
  | .null => ['n', 'u', 'l', 'l']
  | .bool true => ['t', 'r', 'u', 'e']
  | .bool false => ['f', 'a', 'l', 's', 'e']
  | .number value => value.text.toList
  | .string text => quotedText text
  | .array items => enclosed level '[' ']' (writeItems (level.map (· + 1)) items)
  | .object entries => enclosed level '\x7b' '\x7d' (writeEntries (level.map (· + 1)) entries)

/-- Writes the items of an array. -/
def writeItems (level : Option Nat) : List Value → List (List Char)
  | [] => []
  | item :: items => write level item :: writeItems level items

/-- Writes the entries of an object. -/
def writeEntries (level : Option Nat) : List (String × Value) → List (List Char)
  | [] => []
  | (key, value) :: entries =>
    (quotedText key ++ afterKey level ++ write level value) :: writeEntries level entries

end

/-- **The value on one line**, without blanks. -/
def Value.compact (value : Value) : String :=
  String.ofList (write none value)

/-- **The value over several lines**, one item a line, two spaces a level. -/
def Value.pretty (value : Value) : String :=
  String.ofList (write (some 0) value)

/-! ### What a query sees -/

/-- The text of a number as a query sees it: a whole double below `10 ^ 21` is written
like an integer, and zero without its sign. -/
def Number.plainText (number : Number) : String :=
  match number with
  | .integer value => intText value
  | .float value =>
    if value.isWhole && decide (value.wholeMagnitude < tenTo 21) then intText value.toInt
    else doubleLayout.text value

mutual

/-- **The text of a value as a query sees it**; null has none. -/
def Value.text? : Value → Option String
  | .null => none
  | .bool value => some (if value then "true" else "false")
  | .number value => some value.plainText
  | .string text => some text
  | .array items => some (joinStrings "," (itemTexts items))
  | .object entries => some (Value.object entries).compact

/-- The texts of the items of an array, empty for null. -/
def itemTexts : List Value → List String
  | [] => []
  | item :: items => item.text?.getD "" :: itemTexts items

end

@[simp] theorem text?_null : Value.null.text? = none := rfl

end RecordQuery.Json
