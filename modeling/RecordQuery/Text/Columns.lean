import RecordQuery.Text.Emoji
import RecordQuery.Text.Ligature

/-!
# Columns of a text

The columns of a terminal that a text takes. They are those of its characters by
themselves, except where characters are shown as one: in ligatures, in emoji with a
skin tone, in emoji put together by joiners, and in front of a selector that asks for
another form of a character.

The text is read from its end. What has been read is a `RecordQuery.Text.Suffix`: its
columns, and as much of its start as a character in front of it may join
(`RecordQuery.Text.Tail`). `RecordQuery.Text.Suffix.prepend` puts one more character in
front.
-/

namespace RecordQuery.Text

/-- A character that chooses the form of the one before it. -/
inductive Selector
  /-- The form as an emoji. -/
  | emoji
  /-- The plain form. -/
  | plain
  /-- The form of two columns of a quotation mark. -/
  | wide
deriving DecidableEq

/-- The selector that a character is. -/
def selector? (c : Char) : Option Selector :=
  if c = '\ufe0f' then some .emoji
  else if c = '\ufe0e' then some .plain
  else if c = '\ufe01' then some .wide
  else none

/-- The start of a text, as far as a character in front of it may join it. -/
inductive Tail
  /-- Nothing that could be joined. -/
  | nothing
  /-- A line feed, which is one line end with a carriage return. -/
  | lineFeed
  /-- An emoji. -/
  | emoji
  /-- A skin tone. -/
  | tone
  /-- A joiner in front of an emoji. -/
  | joined
  /-- The frame of a keycap, a joiner and an emoji. -/
  | joinedKeycap
  /-- A letter of a flag. -/
  | indicator
  /-- Several letters of flags. -/
  | indicators
  /-- A letter of a flag, to whose end an emoji is joined. -/
  | joinedIndicator
  /-- Letters of flags in pairs, to the last of which an emoji is joined. -/
  | joinedPairs
  /-- One more letter of a flag in front of such pairs. -/
  | joinedOdd
  /-- The end of a tag with so many letters before it, to which an emoji is joined. -/
  | joinedTag (letters : Nat)
  /-- The same with so many digits before the letters. -/
  | joinedDigits (digits : Nat)
  /-- The end of a ligature. -/
  | ligature (ending : Ligature)
deriving DecidableEq

/-- The most letters in a tag. -/
def tagLimit : Nat := 6

namespace Tail

/-- What a character may start by itself. -/
def opening (c : Char) : Tail :=
  match Ligature.opening? c with
  | some ending => .ligature ending
  | none =>
    if isIndicator c then .indicator
    else if isTone c then .tone
    else if showsAsEmoji c then .emoji
    else .nothing

/-- What is left with a letter of the tag in front, which is complete in front of its
flag with three to six letters, or with three digits. -/
def extendTag? (letters : Nat) (c : Char) : Option Tail :=
  if isTagLetter c && letters < tagLimit then some (.joinedTag (letters + 1))
  else if isTagDigit c && letters + 2 ≤ tagLimit then some (.joinedDigits 1)
  else if isTaggedFlag c && 3 ≤ letters then some .emoji
  else none

/-- The same once a digit has been read. -/
def extendDigits? (digits : Nat) (c : Char) : Option Tail :=
  if isTagDigit c && digits < 3 then some (.joinedDigits (digits + 1))
  else if isTaggedFlag c && digits = 3 then some .emoji
  else none

/-- What a character becomes part of in front of a joined emoji. -/
def extendJoined? (c : Char) : Option (Tail × Int) :=
  if c = '\u20e3' then some (.joinedKeycap, 0)
  else if isIndicator c then some (.joinedIndicator, 1)
  else if isTone c then some (.tone, 0)
  else if isTagEnd c then some (.joinedTag 0, 0)
  else if showsAsEmoji c then some (.emoji, 0)
  else none

/-- **Puts a character in front**: what the start becomes, and the columns that the
character adds; or nothing if the two are not shown as one. -/
def extend? (c : Char) : Tail → Option (Tail × Int)
  | .emoji => if c = joiner then some (.joined, 0) else none
  | .tone =>
    if takesTone c then some (.emoji, 0)
    else if c = joiner then some (.joined, 0)
    else none
  | .joined => extendJoined? c
  | .indicator => if isIndicator c then some (.indicators, 1) else none
  | .indicators =>
    if isIndicator c then some (.indicators, 1)
    else if c = joiner then some (.joined, 0)
    else none
  -- a flag of two letters takes the columns of the emoji that is joined to it
  | .joinedIndicator => if isIndicator c then some (.joinedPairs, -1) else none
  | .joinedPairs =>
    if isIndicator c then some (.joinedOdd, 3)
    else if c = joiner then some (.joined, 0)
    else none
  | .joinedOdd =>
    if isIndicator c then some (.joinedPairs, -1)
    else if c = joiner then some (.joined, 0)
    else none
  | .joinedTag letters => (extendTag? letters c).map fun tail => (tail, 0)
  | .joinedDigits digits => (extendDigits? digits c).map fun tail => (tail, 0)
  | .ligature ending =>
    (ending.extend? c).map fun found => (found.1.elim .nothing .ligature, found.2)
  | _ => none

/-- What is left of the start with a selector in front of it. -/
def behind (selector : Selector) : Tail → Tail
  | .ligature ending => if ending.isSteady then .ligature ending else .nothing
  | .joined => if selector = .emoji then .joined else .nothing
  | .joinedKeycap => if selector = .emoji then .joinedKeycap else .nothing
  | _ => .nothing

/-- Whether a selector in front of the start leaves the ones behind it in force, as it
does in front of a ligature. -/
def keepsSelectors : Tail → Bool
  | .ligature ending => ending.isSteady
  | _ => false

/-- What is left of the start once the selectors in front of it have had no effect. -/
def released : Tail → Tail
  | .ligature ending => .ligature ending
  | _ => .nothing

/-- The columns of an emoji that a selector made, in front of the start: none where it
is joined to the next emoji. -/
def emojiColumns : Tail → Nat
  | .joined | .joinedKeycap => 0
  | _ => 2

end Tail

/-- Whether a character is a quotation mark with a form of two columns. -/
def isQuotationMark (c : Char) : Bool :=
  c == '\u2018' || c == '\u2019' || c == '\u201c' || c == '\u201d'

/-- The effect of a selector on the character before it, if it has one: what the start
of the text becomes, and the columns of the character. -/
def Selector.select? (selector : Selector) (tail : Tail) (c : Char) : Option (Tail × Nat) :=
  match selector with
  | .emoji => if hasTwoForms c then some (.emoji, tail.emojiColumns) else none
  | .plain => if narrowsAsText c then some (.nothing, 1) else none
  | .wide => if isQuotationMark c then some (.nothing, 2) else none

/-- The end of a text. -/
structure Suffix where
  /-- Its columns. -/
  columns : Nat
  /-- What stands at its start, behind the selectors if there are any. -/
  tail : Tail
  /-- The selectors at its start that are in force, the first one first. -/
  selectors : List Selector
deriving DecidableEq

namespace Suffix

/-- No text. -/
def empty : Suffix :=
  ⟨0, .nothing, []⟩

/-- Puts a selector in front. The form as an emoji is chosen only right behind a
character, the other forms also behind further selectors. -/
def select (selector : Selector) (columns : Nat) (tail : Tail) (later : List Selector) : Suffix :=
  ⟨columns, tail.behind selector,
    if tail.keepsSelectors then selector :: (later.erase .emoji).erase selector else [selector]⟩

/-- Puts a character of Latin script or a control in front. Only a carriage return is
joined to what follows. -/
def prependBasic (c : Char) (columns : Nat) (tail : Tail) : Suffix :=
  if c = '\n' then ⟨columns + 1, .lineFeed, []⟩
  else if c = '\r' && tail = .lineFeed then ⟨columns, .nothing, []⟩
  else ⟨columns + 1, .nothing, []⟩

/-- Puts a character in front of a start without selectors in force. -/
def join (c : Char) (columns : Nat) (tail : Tail) : Suffix :=
  if c.toNat ≤ 0xA0 then prependBasic c columns tail
  else match tail.extend? c with
    | some (longer, change) => ⟨(columns + change).toNat, longer, []⟩
    | none => ⟨columns + charWidth c, .opening c, []⟩

/-- **Puts a character in front of the end of a text.** -/
def prepend (c : Char) (suffix : Suffix) : Suffix :=
  match suffix.selectors.findSome? fun selector => selector.select? suffix.tail c with
  | some (tail, columns) => ⟨suffix.columns + columns, tail, []⟩
  | none =>
    let tail := if suffix.selectors.isEmpty then suffix.tail else suffix.tail.released
    match selector? c with
    | some selector => select selector suffix.columns tail suffix.selectors
    | none => join c suffix.columns tail

/-- The end of a text that is all of it. -/
def ofList (text : List Char) : Suffix :=
  text.foldr prepend empty

@[simp] theorem ofList_nil : ofList [] = empty := rfl

@[simp] theorem ofList_cons (c : Char) (text : List Char) :
    ofList (c :: text) = prepend c (ofList text) := rfl

end Suffix

/-- **The columns of a text.** -/
def displayWidth (text : String) : Nat :=
  (Suffix.ofList text.toList).columns

end RecordQuery.Text
