import Mathlib.Data.List.Chain
import RecordQuery.Json.Digits
import RecordQuery.Json.Escape
import RecordQuery.Json.Token

/-!
# The syntax of JSON

The texts that RFC 8259 calls JSON, as data that no reader has a part in: a term
(`RecordQuery.Json.Term`) has everything that a text spells except the white space
between its lexemes, so that two texts with one term differ in white space only. A
number keeps its digits (`RecordQuery.Json.NumberText`), a text in quotation marks its
escapes (`RecordQuery.Json.Piece`).

A term is a sequence of lexemes (`RecordQuery.Json.Term.lexemes`), and a text spells
lexemes by writing them in order, with white space in front of each of them and at the
end (`RecordQuery.Json.Spells`). Two facts about such a sequence are all that cutting
it apart again needs: a number or a literal has a mark behind it, if anything
(`RecordQuery.Json.Term.apart`), and no lexeme has a control character, so that line
ends are white space between lexemes (`RecordQuery.Json.Lexeme.le_of_mem_text`).
-/

namespace RecordQuery.Json

/-! ### Numbers -/

/-- The digits of a number: at least one. -/
structure Digits where
  /-- The first digit. -/
  first : Fin 10
  /-- The digits behind it. -/
  others : List (Fin 10)
deriving DecidableEq

namespace Digits

/-- The values of the digits. -/
def values (ds : Digits) : List Nat :=
  (ds.first :: ds.others).map Fin.val

/-- The digits as they are written. -/
def text (ds : Digits) : List Char :=
  (ds.first :: ds.others).map fun d => Nat.digitChar d.val

end Digits

/-- The exponent of a number as it is written. -/
structure PowerText where
  /-- Whether it starts with `E`, not with `e`. -/
  upper : Bool
  /-- Whether its sign is a minus, if it has a sign. -/
  sign : Option Bool
  /-- Its digits. -/
  digits : Digits
deriving DecidableEq

namespace PowerText

/-- The sign of an exponent as it is written. -/
def signText : Option Bool → List Char
  | none => []
  | some true => ['-']
  | some false => ['+']

/-- The exponent as it is written. -/
def text (p : PowerText) : List Char :=
  (if p.upper then 'E' else 'e') :: (signText p.sign ++ p.digits.text)

/-- The power of ten that the exponent names. -/
def value (p : PowerText) : Int :=
  powerOf (p.sign.getD false) p.digits.values

end PowerText

/-- A number as it is written. -/
structure NumberText where
  /-- Whether it has a minus sign. -/
  negative : Bool
  /-- The digits before the point. -/
  whole : Digits
  /-- The digits behind the point, if there is one. -/
  fraction : Option Digits
  /-- The exponent, if there is one. -/
  power : Option PowerText
  /-- A zero in front of the point stands alone. -/
  leadingZero : whole.first = 0 → whole.others = []
deriving DecidableEq

namespace NumberText

/-- The fraction of a number as it is written. -/
def fractionText : Option Digits → List Char
  | none => []
  | some ds => '.' :: ds.text

/-- The exponent of a number as it is written, if there is one. -/
def powerText : Option PowerText → List Char
  | none => []
  | some p => p.text

/-- The number without its sign as it is written. -/
def unsignedText (n : NumberText) : List Char :=
  n.whole.text ++ (fractionText n.fraction ++ powerText n.power)

/-- The number as it is written. -/
def text (n : NumberText) : List Char :=
  if n.negative then '-' :: n.unsignedText else n.unsignedText

end NumberText

/-! ### Texts in quotation marks -/

/-- The characters with an escape of one character. -/
inductive Escape
  | quote
  | backslash
  | slash
  | backspace
  | formFeed
  | lineFeed
  | carriageReturn
  | tab
deriving DecidableEq

namespace Escape

/-- What follows the backslash. -/
def letter : Escape → Char
  | quote => '"'
  | backslash => '\\'
  | slash => '/'
  | backspace => 'b'
  | formFeed => 'f'
  | lineFeed => 'n'
  | carriageReturn => 'r'
  | tab => 't'

/-- The character that the escape stands for. -/
def char : Escape → Char
  | quote => '"'
  | backslash => '\\'
  | slash => '/'
  | backspace => '\x08'
  | formFeed => '\x0c'
  | lineFeed => '\n'
  | carriageReturn => '\r'
  | tab => '\t'

end Escape

/-- A hexadecimal digit in either case. -/
structure HexDigit where
  /-- The value of the digit. -/
  value : Fin 16
  /-- Whether a letter is a capital. -/
  upper : Bool
deriving DecidableEq

/-- A hexadecimal digit as it is written. -/
def HexDigit.char (d : HexDigit) : Char :=
  if d.upper then (Nat.digitChar d.value.val).toUpper else Nat.digitChar d.value.val

/-- The four digits of a code unit. -/
structure UnitDigits where
  first : HexDigit
  second : HexDigit
  third : HexDigit
  fourth : HexDigit
deriving DecidableEq

namespace UnitDigits

/-- The digits as they are written. -/
def text (u : UnitDigits) : List Char :=
  [u.first.char, u.second.char, u.third.char, u.fourth.char]

/-- The code unit. -/
def value (u : UnitDigits) : Nat :=
  ((u.first.value.val * 16 + u.second.value.val) * 16 + u.third.value.val) * 16 +
    u.fourth.value.val

end UnitDigits

/-- Whether a character may stand for itself between quotation marks. -/
def isPlain (c : Char) : Bool :=
  decide (0x20 ≤ c.toNat) && c != '"' && c != '\\'

/-- What stands between quotation marks, piece by piece. -/
inductive Piece
  /-- A character that stands for itself. -/
  | plain (c : Char) (h : isPlain c = true)
  /-- An escape of one character. -/
  | short (e : Escape)
  /-- The escape of a code unit. -/
  | unit (u : UnitDigits)
deriving DecidableEq

/-- A piece as it is written. -/
def Piece.text : Piece → List Char
  | .plain c _ => [c]
  | .short e => ['\\', e.letter]
  | .unit u => '\\' :: 'u' :: u.text

/-! ### Terms -/

/-- The literals. -/
inductive Word
  | null
  | bool (value : Bool)
deriving DecidableEq

namespace Word

/-- The literal as it is written. -/
def text : Word → List Char
  | null => ['n', 'u', 'l', 'l']
  | bool true => ['t', 'r', 'u', 'e']
  | bool false => ['f', 'a', 'l', 's', 'e']

/-- The value of the literal. -/
def value : Word → Value
  | null => .null
  | bool value => .bool value

end Word

/-- **A JSON text without its white space.** -/
inductive Term
  | word (w : Word)
  | number (n : NumberText)
  | string (pieces : List Piece)
  | array (items : List Term)
  | object (members : List (List Piece × Term))

/-- The characters that stand for themselves between values. -/
inductive Mark
  | openArray
  | closeArray
  | openObject
  | closeObject
  | colon
  | comma
deriving DecidableEq

/-- The character of a mark. -/
def Mark.char : Mark → Char
  | openArray => '['
  | closeArray => ']'
  | openObject => '\x7b'
  | closeObject => '\x7d'
  | colon => ':'
  | comma => ','

/-- What is written without white space inside. -/
inductive Lexeme
  | mark (m : Mark)
  | word (w : Word)
  | number (n : NumberText)
  | string (pieces : List Piece)

namespace Lexeme

/-- The lexeme as it is written. -/
def text : Lexeme → List Char
  | .mark m => [m.char]
  | .word w => w.text
  | .number n => n.text
  | .string pieces => '"' :: (pieces.flatMap Piece.text ++ ['"'])

/-- Whether a lexeme is a mark. -/
def IsMark : Lexeme → Prop
  | .mark _ => True
  | _ => False

/-- Whether nothing but what follows a lexeme says where it ends. -/
def IsOpen : Lexeme → Prop
  | .word _ => True
  | .number _ => True
  | _ => False

end Lexeme

namespace Term

mutual

/-- The lexemes of a term. -/
def lexemes : Term → List Lexeme
  | .word w => [.word w]
  | .number n => [.number n]
  | .string pieces => [.string pieces]
  | .array items => .mark .openArray :: (itemsLexemes true items ++ [.mark .closeArray])
  | .object members => .mark .openObject :: (membersLexemes true members ++ [.mark .closeObject])

/-- The lexemes of the items of an array: those of an item that is not the first have a
comma in front. -/
def itemsLexemes (first : Bool) : List Term → List Lexeme
  | [] => []
  | item :: items =>
    (if first then [] else [.mark .comma]) ++ (item.lexemes ++ itemsLexemes false items)

/-- The lexemes of the members of an object. -/
def membersLexemes (first : Bool) : List (List Piece × Term) → List Lexeme
  | [] => []
  | (key, member) :: members =>
    (if first then [] else [.mark .comma]) ++
      (.string key :: .mark .colon :: (member.lexemes ++ membersLexemes false members))

end

mutual

/-- How many containers of a term are inside one another. -/
def depth : Term → Nat
  | .word _ => 0
  | .number _ => 0
  | .string _ => 0
  | .array items => itemsDepth items + 1
  | .object members => membersDepth members + 1

/-- The depth of the deepest item. -/
def itemsDepth : List Term → Nat
  | [] => 0
  | item :: items => max item.depth (itemsDepth items)

/-- The depth of the deepest member. -/
def membersDepth : List (List Piece × Term) → Nat
  | [] => 0
  | (_, member) :: members => max member.depth (membersDepth members)

end

end Term

/-! ### What may follow a lexeme -/

namespace Lexeme

/-- Whether a lexeme may stand behind another one without white space between them. -/
def Follows (l next : Lexeme) : Prop :=
  l.IsOpen → next.IsMark

theorem isChain_cons {l : Lexeme} {ls : List Lexeme} (hl : ¬ l.IsOpen)
    (h : ls.IsChain Follows) : (l :: ls).IsChain Follows :=
  List.isChain_cons.2 ⟨fun _ _ hopen => absurd hopen hl, h⟩

theorem isChain_append {ls ls' : List Lexeme} (h : ls.IsChain Follows)
    (h' : ls'.IsChain Follows) (hmark : ∀ next ∈ ls'.head?, next.IsMark) :
    (ls ++ ls').IsChain Follows :=
  List.isChain_append.2 ⟨h, h', fun _ _ next hnext _ => hmark next hnext⟩

theorem not_isOpen_mark (m : Mark) : ¬ (Lexeme.mark m).IsOpen := id

theorem not_isOpen_string (pieces : List Piece) : ¬ (Lexeme.string pieces).IsOpen := id

end Lexeme

namespace Term

open Lexeme (isChain_append isChain_cons not_isOpen_mark not_isOpen_string)

theorem isMark_head_items (items : List Term) :
    ∀ next ∈ (itemsLexemes false items).head?, next.IsMark := by
  cases items with
  | nil => simp [itemsLexemes]
  | cons item items =>
    rintro next ⟨⟩
    trivial

theorem isMark_head_members (members : List (List Piece × Term)) :
    ∀ next ∈ (membersLexemes false members).head?, next.IsMark := by
  cases members with
  | nil => simp [membersLexemes]
  | cons member members =>
    rintro next ⟨⟩
    trivial

/-- A comma in front of the lexemes of an item or a member changes nothing. -/
theorem isChain_separated (first : Bool) {ls : List Lexeme} (h : ls.IsChain Lexeme.Follows) :
    ((if first then [] else [Lexeme.mark .comma]) ++ ls).IsChain Lexeme.Follows := by
  cases first with
  | true => exact h
  | false => exact isChain_cons (not_isOpen_mark _) h

/-- A container is closed by a mark, so nothing is open in front of its end. -/
theorem isChain_enclosed (opening closing : Mark) {ls : List Lexeme}
    (h : ls.IsChain Lexeme.Follows) :
    (.mark opening :: (ls ++ [.mark closing])).IsChain Lexeme.Follows := by
  refine isChain_cons (not_isOpen_mark _) (isChain_append h (List.isChain_singleton _) ?_)
  rintro next ⟨⟩
  trivial

mutual

/-- **A number or a literal has a mark behind it**, if anything. -/
theorem apart (t : Term) : t.lexemes.IsChain Lexeme.Follows := by
  match t with
  | .word _ => exact List.isChain_singleton _
  | .number _ => exact List.isChain_singleton _
  | .string _ => exact List.isChain_singleton _
  | .array items => exact isChain_enclosed _ _ (items_apart true items)
  | .object members => exact isChain_enclosed _ _ (members_apart true members)

theorem items_apart (first : Bool) (items : List Term) :
    (itemsLexemes first items).IsChain Lexeme.Follows := by
  match items with
  | [] => exact List.isChain_nil
  | item :: items =>
    exact isChain_separated first
      (isChain_append item.apart (items_apart false items) (isMark_head_items items))

theorem members_apart (first : Bool) (members : List (List Piece × Term)) :
    (membersLexemes first members).IsChain Lexeme.Follows := by
  match members with
  | [] => exact List.isChain_nil
  | (key, member) :: members =>
    exact isChain_separated first
      (isChain_cons (not_isOpen_string key) (isChain_cons (not_isOpen_mark _)
        (isChain_append member.apart (members_apart false members)
          (isMark_head_members members))))

end

end Term

/-! ### Texts of lexemes -/

/-- White space between lexemes. -/
def isGap (c : Char) : Bool :=
  c == ' ' || c == '\t' || c == '\n' || c == '\r'

/-- **A text spells lexemes**: it has them in order, with white space in front of each
and behind the last. -/
inductive Spells : List Lexeme → List Char → Prop
  /-- White space spells no lexeme. -/
  | blank {gap : List Char} (hgap : ∀ c ∈ gap, isGap c = true) : Spells [] gap
  /-- One lexeme in front of others. -/
  | lexeme {gap : List Char} (hgap : ∀ c ∈ gap, isGap c = true) (l : Lexeme)
      {ls : List Lexeme} {rest : List Char} (h : Spells ls rest) :
      Spells (l :: ls) (gap ++ (l.text ++ rest))

namespace Spells

/-- A lexeme in front, without white space. -/
theorem cons (l : Lexeme) {ls : List Lexeme} {rest : List Char} (h : Spells ls rest) :
    Spells (l :: ls) (l.text ++ rest) :=
  lexeme (by simp : ∀ c ∈ ([] : List Char), isGap c = true) l h

/-- The lexemes one behind the other are a text of them. -/
theorem flatMap (ls : List Lexeme) : Spells ls (ls.flatMap Lexeme.text) := by
  induction ls with
  | nil => exact blank (by simp)
  | cons l ls ih => exact ih.cons l

theorem gap_append {gap cs : List Char} {ls : List Lexeme} (hgap : ∀ c ∈ gap, isGap c = true)
    (h : Spells ls cs) : Spells ls (gap ++ cs) := by
  have hboth : ∀ gap', (∀ c ∈ gap', isGap c = true) → ∀ c ∈ gap ++ gap', isGap c = true := by
    intro gap' hgap' c hc
    exact (List.mem_append.1 hc).elim (hgap c) (hgap' c)
  cases h with
  | blank hgap' => exact blank (hboth _ hgap')
  | lexeme hgap' l h =>
    rw [← List.append_assoc]
    exact lexeme (hboth _ hgap') l h

theorem append {ls ls' : List Lexeme} {cs cs' : List Char} (h : Spells ls cs)
    (h' : Spells ls' cs') : Spells (ls ++ ls') (cs ++ cs') := by
  induction h with
  | blank hgap => exact gap_append hgap h'
  | lexeme hgap l _ ih =>
    rw [List.append_assoc, List.append_assoc]
    exact lexeme hgap l ih

end Spells

/-! ### Characters of lexemes -/

theorem Lexeme.text_ne_nil (l : Lexeme) : l.text ≠ [] := by
  cases l with
  | word w => rcases w with _ | _ | _ <;> simp [Lexeme.text, Word.text]
  | number n =>
    rw [Lexeme.text, NumberText.text]
    split <;> simp [NumberText.unsignedText, Digits.text]
  | _ => simp [Lexeme.text]

theorem le_of_mem_digits {c : Char} {ds : Digits} (hc : c ∈ ds.text) : 0x20 ≤ c.toNat := by
  obtain ⟨d, -, rfl⟩ := List.mem_map.1 hc
  have hall : ∀ d : Fin 10, 0x20 ≤ (Nat.digitChar d.val).toNat := by decide
  exact hall d

theorem le_hexDigit (d : HexDigit) : 0x20 ≤ d.char.toNat := by
  have hall : ∀ (value : Fin 16) (upper : Bool), 0x20 ≤ (HexDigit.char ⟨value, upper⟩).toNat := by
    decide
  exact hall d.value d.upper

theorem le_of_mem_power {c : Char} {p : PowerText} (hc : c ∈ p.text) : 0x20 ≤ c.toNat := by
  rcases List.mem_cons.1 hc with rfl | hc
  · cases p.upper <;> decide
  · rcases List.mem_append.1 hc with hc | hc
    · rcases hsign : p.sign with _ | _ | _ <;> rw [hsign] at hc
      · exact absurd hc (by simp [PowerText.signText])
      · obtain rfl : c = '+' := by simpa [PowerText.signText] using hc
        decide
      · obtain rfl : c = '-' := by simpa [PowerText.signText] using hc
        decide
    · exact le_of_mem_digits hc

theorem le_of_mem_number {c : Char} {n : NumberText} (hc : c ∈ n.text) : 0x20 ≤ c.toNat := by
  have hunsigned : c ∈ n.unsignedText → 0x20 ≤ c.toNat := by
    intro hc
    rcases List.mem_append.1 hc with hc | hc
    · exact le_of_mem_digits hc
    rcases List.mem_append.1 hc with hc | hc
    · rcases hf : n.fraction with _ | ds <;> rw [hf] at hc
      · exact absurd hc (by simp [NumberText.fractionText])
      · rcases List.mem_cons.1 hc with rfl | hc
        · decide
        · exact le_of_mem_digits hc
    · rcases hp : n.power with _ | p <;> rw [hp] at hc
      · exact absurd hc (by simp [NumberText.powerText])
      · exact le_of_mem_power hc
  rw [NumberText.text] at hc
  split at hc
  · rcases List.mem_cons.1 hc with rfl | hc
    · decide
    · exact hunsigned hc
  · exact hunsigned hc

theorem le_of_mem_piece {c : Char} {p : Piece} (hc : c ∈ p.text) : 0x20 ≤ c.toNat := by
  cases p with
  | plain d h =>
    obtain rfl : c = d := by simpa [Piece.text] using hc
    simp only [isPlain, Bool.and_eq_true, decide_eq_true_eq] at h
    exact h.1.1
  | short e =>
    rcases List.mem_cons.1 hc with rfl | hc
    · decide
    · obtain rfl : c = e.letter := by simpa using hc
      cases e <;> decide
  | unit u =>
    rcases List.mem_cons.1 hc with rfl | hc
    · decide
    rcases List.mem_cons.1 hc with rfl | hc
    · decide
    · simp only [UnitDigits.text, List.mem_cons, List.not_mem_nil, or_false] at hc
      rcases hc with rfl | rfl | rfl | rfl <;> exact le_hexDigit _

/-- **No lexeme has a control character.** -/
theorem Lexeme.le_of_mem_text {c : Char} {l : Lexeme} (hc : c ∈ l.text) : 0x20 ≤ c.toNat := by
  cases l with
  | mark m =>
    obtain rfl : c = m.char := by simpa [Lexeme.text] using hc
    cases m <;> decide
  | word w =>
    have hall : w.text.all (fun c => decide (0x20 ≤ c.toNat)) = true := by
      rcases w with _ | _ | _ <;> decide
    exact of_decide_eq_true (List.all_eq_true.1 hall c hc)
  | number n => exact le_of_mem_number hc
  | string pieces =>
    rcases List.mem_cons.1 hc with rfl | hc
    · decide
    rcases List.mem_append.1 hc with hc | hc
    · obtain ⟨p, -, hc⟩ := List.mem_flatMap.1 hc
      exact le_of_mem_piece hc
    · obtain rfl : c = '"' := by simpa using hc
      decide

end RecordQuery.Json
