import RecordQuery.Json.Digits
import RecordQuery.Json.Escape
import RecordQuery.Text.BareName

/-!
# Reading relaxed JSON

The reader of JSON5 texts: comments, keys without quotation marks, either kind of
quotation mark, more escapes and more spellings of numbers, and a comma before a
closing bracket. As for strict texts, tokens are cut off one after the other
(`RecordQuery.Json.Relaxed.tokens`) and the automaton of `RecordQuery.Json.Token`
builds the value (`RecordQuery.Json.readRelaxed`); containers may be nested to any
depth.

A number without point and exponent, decimal or hexadecimal, is an integer if 64 bits
hold it, and so is minus zero. Any other number is the nearest double, and null where
there is none, as for `NaN` and the infinities; but a hexadecimal number that 128 bits
do not hold cannot be read.
-/

namespace RecordQuery.Json

open RecordQuery.Decimal (Double Numeral signedLimit twoTo wordLimit)
open RecordQuery.Text (hexDigit? hexNumber?)

/-- The relaxed grammar: a comma may stand before a closing bracket. -/
def relaxedGrammar : Grammar :=
  ⟨true, none⟩

namespace Relaxed

/-! ### White space and comments -/

/-- Whether a character ends a line. -/
def endsLine (c : Char) : Bool :=
  c == '\n' || c == '\r' || c == '\u2028' || c == '\u2029'

/-- Whether a character is white space between tokens. -/
def isSpace (c : Char) : Bool :=
  endsLine c || c == '\t' || c == '\x0b' || c == '\x0c' || c == ' ' || c == '\u00a0' ||
    c == '\u1680' || (decide ('\u2000' ≤ c) && decide (c ≤ '\u200a')) || c == '\u202f' ||
    c == '\u205f' || c == '\u3000' || c == '\ufeff'

/-- What follows a comment between `/*` and `*/`, if it is closed. -/
def afterBlock? : List Char → Option (List Char)
  | '*' :: '/' :: rest => some rest
  | _ :: rest => afterBlock? rest
  | [] => none

/-- What follows a comment whose first slash has been read. -/
def afterComment? : List Char → Option (List Char)
  | '/' :: rest => some (rest.dropWhile fun c => !endsLine c)
  | '*' :: rest => afterBlock? rest
  | _ => none

/-! ### Numbers -/

/-- The value of a whole number, decimal or hexadecimal. -/
def wholeNumber (negative : Bool) (magnitude : Nat) : Value :=
  let value : Int := if negative then -(magnitude : Int) else magnitude
  if -(signedLimit : Int) ≤ value && value < (wordLimit : Int) then .number (.integer value)
  else match Double.ofNat? negative magnitude with
    | some x => .number (.float x)
    | none => .null

/-- The value of a numeral with a point or an exponent. -/
def doubleNumber (numeral : Numeral) : Value :=
  match numeral.nearest? with
  | some x => .number (.float x)
  | none => .null

/-- Reads the rest of a name that is a number. -/
def numberName : (spelling : List Char) → List Char → Token × List Char
  | [], rest => (.scalar .null, rest)
  | _ :: _, [] => (.broken .unfinished, [])
  | s :: spelling, c :: rest =>
    if c = s then numberName spelling rest else (.broken .malformed, [])

/-- Whether a hexadecimal number is in range: twice as many bits as those of integers
hold it, with a sign if it is negative. -/
def hexInRange (negative : Bool) (magnitude : Nat) : Bool :=
  if negative then decide (magnitude ≤ twoTo 127) else decide (magnitude < twoTo 128)

/-- Reads the digits of a hexadecimal number. -/
def hexNumber (negative : Bool) (cs : List Char) : Token × List Char :=
  let digits := cs.takeWhile fun c => (hexDigit? c).isSome
  match digits, hexNumber? digits with
  | _ :: _, some magnitude =>
    if hexInRange negative magnitude then
      (.scalar (wholeNumber negative magnitude), cs.dropWhile fun c => (hexDigit? c).isSome)
    else (.broken .malformed, [])
  | _, _ => (.broken (missing cs), [])

/-- Reads the fraction of a number, which may be only a point. -/
def fraction : List Char → Option (List Nat) × List Char
  | [] => (none, [])
  | c :: rest => if c = '.' then (some (digits rest).1, (digits rest).2) else (none, c :: rest)

/-- The value of a decimal number, if its parts make one: some digit, and no zero in
front of others. -/
def decimalValue? (negative : Bool) (whole : List Nat) (fraction : Option (List Nat))
    (power : Option Int) : Option Value :=
  if whole.isEmpty && (fraction.getD []).isEmpty then none
  else if whole.head? = some 0 && 1 < whole.length then none
  else match fraction, power with
    | none, none => some (wholeNumber negative (Decimal.spell 0 10 whole))
    | _, _ => some (doubleNumber ⟨negative, whole, fraction.getD [], power.getD 0⟩)

/-- Reads a decimal number after its sign. -/
def decimalNumber (negative : Bool) (cs : List Char) : Token × List Char :=
  let whole := digits cs
  let fraction := fraction whole.2
  match exponent fraction.2 with
  | .error fault => (.broken fault, [])
  | .ok (power, rest) =>
    match decimalValue? negative whole.1 fraction.1 power with
    | some value => (.scalar value, rest)
    | none => (.broken (missing rest), [])

/-- Reads a number after its sign. -/
def number (negative : Bool) : List Char → Token × List Char
  | 'I' :: rest => numberName ['n', 'f', 'i', 'n', 'i', 't', 'y'] rest
  | 'N' :: rest => numberName ['a', 'N'] rest
  | '0' :: 'x' :: rest => hexNumber negative rest
  | '0' :: 'X' :: rest => hexNumber negative rest
  | cs => decimalNumber negative cs

/-! ### Texts -/

/-- The character of an escape of one letter. Any other character but a digit and the
two that start a code stands for itself. -/
def letterEscape (c : Char) : Char :=
  if c = 'b' then '\x08'
  else if c = 'f' then '\x0c'
  else if c = 'n' then '\n'
  else if c = 'r' then '\r'
  else if c = 't' then '\t'
  else if c = 'v' then '\x0b'
  else c

/-- Reads a character from two hexadecimal digits. -/
def byteEscape : List Char → Except Fault (List Char × List Char)
  | a :: b :: rest =>
    match hexNumber? [a, b] with
    | some code => .ok ([Char.ofNat code], rest)
    | none => .error .malformed
  | _ => .error .unfinished

/-- Reads what follows the backslash of an escape: the characters it stands for, none
for the end of a line. -/
def escape : List Char → Except Fault (List Char × List Char)
  | [] => .error .unfinished
  | c :: rest =>
    if c = 'u' then
      match unicodeEscape rest with
      | .ok (d, rest') => .ok ([d], rest')
      | .error fault => .error fault
    else if c = 'x' then byteEscape rest
    -- a carriage return and a line feed are one line end
    else if c = '\r' && rest.head? == some '\n' then .ok ([], rest.tail)
    else if endsLine c then .ok ([], rest)
    -- a zero with a digit behind it would be an octal code
    else if c = '0' && !(rest.head?.any isDigit) then .ok (['\x00'], rest)
    else if isDigit c then .error .malformed
    else .ok ([letterEscape c], rest)

theorem byteEscape_length {cs rest ds : List Char} (h : byteEscape cs = .ok (ds, rest)) :
    rest.length < cs.length := by
  unfold byteEscape at h
  split at h
  · next a b tail =>
    split at h
    · obtain ⟨-, rfl⟩ : _ ∧ tail = rest := by simpa using h
      simp only [List.length_cons]
      omega
    · simp at h
  · simp at h

/-- An escape takes at least one character. -/
theorem escape_length {cs rest ds : List Char} (h : escape cs = .ok (ds, rest)) :
    rest.length < cs.length := by
  cases cs with
  | nil => simp [escape] at h
  | cons c tail =>
    simp only [escape] at h
    split at h
    · split at h
      · next d rest' hu =>
        obtain ⟨-, rfl⟩ : _ ∧ rest' = rest := by simpa using h
        exact Nat.lt_succ_of_lt (unicodeEscape_length hu)
      · simp at h
    · split at h
      · exact Nat.lt_succ_of_lt (byteEscape_length h)
      · split at h
        · obtain ⟨-, rfl⟩ : _ ∧ tail.tail = rest := by simpa using h
          simp only [List.length_tail, List.length_cons]
          omega
        · split at h
          · obtain ⟨-, rfl⟩ : _ ∧ tail = rest := by simpa using h
            exact Nat.lt_succ_self _
          · split at h
            · obtain ⟨-, rfl⟩ : _ ∧ tail = rest := by simpa using h
              exact Nat.lt_succ_self _
            · split at h
              · simp at h
              · obtain ⟨-, rfl⟩ : _ ∧ tail = rest := by simpa using h
                exact Nat.lt_succ_self _

/-- Reads the rest of a text up to its closing mark, given the characters read before
in reverse. -/
def text (mark : Char) (read : List Char) (cs : List Char) : Token × List Char :=
  match cs with
  | [] => (.brokenText .unfinished, [])
  | c :: rest =>
    if c = mark then (.text (String.ofList read.reverse), rest)
    else if c = '\\' then
      match _h : escape rest with
      | .ok (ds, rest') => text mark (ds.reverse ++ read) rest'
      | .error fault => (.brokenText fault, [])
    else if c = '\n' || c = '\r' then (.brokenText .malformed, [])
    else text mark (c :: read) rest
  termination_by cs.length
  decreasing_by
    · have := escape_length _h
      simp only [List.length_cons]
      omega
    · simp

/-! ### Names -/

/-- The value that a name may stand for as well. -/
def wordValue? (name : String) : Option Value :=
  if name = "null" || name = "Infinity" || name = "NaN" then some .null
  else if name = "true" then some (.bool true)
  else if name = "false" then some (.bool false)
  else none

/-- The token of a complete name. With an escape in it, a name is never a value. -/
def nameToken (read : List Char) (escaped : Bool) : Token :=
  let name := String.ofList read.reverse
  match wordValue? name, escaped with
  | some value, false => .word name value
  | _, _ => .name name

/-- Reads the escape in a name whose backslash has been read. -/
def nameEscape : List Char → Except Fault (Char × List Char)
  | 'u' :: rest => unicodeEscape rest
  | cs => .error (missing cs)

theorem nameEscape_length {cs rest : List Char} {c : Char} (h : nameEscape cs = .ok (c, rest)) :
    rest.length < cs.length := by
  unfold nameEscape at h
  split at h
  · exact Nat.lt_succ_of_lt (unicodeEscape_length h)
  · simp at h

/-- Reads the rest of a name, given the characters read before in reverse and whether
there was an escape among them. -/
def nameRest (read : List Char) (escaped : Bool) (cs : List Char) : Token × List Char :=
  match cs with
  | [] => (nameToken read escaped, [])
  | c :: rest =>
    if c = '\\' then
      match _h : nameEscape rest with
      | .ok (d, rest') =>
        if Text.continuesName d then nameRest (d :: read) true rest'
        else (.broken .malformed, [])
      | .error fault => (.broken fault, [])
    else if Text.continuesName c then nameRest (c :: read) escaped rest
    else (nameToken read escaped, c :: rest)
  termination_by cs.length
  decreasing_by
    · have := nameEscape_length _h
      simp only [List.length_cons]
      omega
    · simp

/-- Reads a name that starts with an escape, whose backslash has been read. -/
def escapedName (cs : List Char) : Token × List Char :=
  match nameEscape cs with
  | .ok (c, rest) =>
    if Text.startsName c then nameRest [c] true rest else (.broken .malformed, [])
  | .error fault => (.broken fault, [])

/-! ### Tokens -/

/-- Whether a character starts a number without a sign. -/
def startsNumber (c : Char) : Bool :=
  isDigit c || c == '.'

/-- Reads a token that starts with the given character. -/
def token (c : Char) (rest : List Char) : Token × List Char :=
  match mark? c with
  | some mark => (mark, rest)
  | none =>
    if c = '"' || c = '\x27' then text c [] rest
    else if c = '-' || c = '+' then number (c == '-') rest
    else if startsNumber c then number false (c :: rest)
    else if c = '\\' then escapedName rest
    else if Text.startsName c then nameRest [c] false rest
    else (.broken .malformed, [])

/-! ### Every token takes its characters -/

theorem afterBlock?_length {cs rest : List Char} (h : afterBlock? cs = some rest) :
    rest.length < cs.length := by
  fun_induction afterBlock? cs with
  | case1 tail =>
    obtain rfl : tail = rest := by simpa using h
    simp only [List.length_cons]
    omega
  | case2 c tail _ ih => exact Nat.lt_succ_of_lt (ih h)
  | case3 => simp at h

theorem afterComment?_length {cs rest : List Char} (h : afterComment? cs = some rest) :
    rest.length < cs.length := by
  unfold afterComment? at h
  split at h
  · next tail =>
    obtain rfl : tail.dropWhile (fun c => !endsLine c) = rest := by simpa using h
    exact Nat.lt_succ_of_le (List.dropWhile_sublist _).length_le
  · exact Nat.lt_succ_of_lt (afterBlock?_length h)
  · simp at h

theorem numberName_length (spelling cs : List Char) :
    (numberName spelling cs).2.length ≤ cs.length := by
  fun_induction numberName spelling cs with
  | case1 => exact Nat.le_refl _
  | case2 => exact Nat.le_refl _
  | case3 spelling c rest ih => exact Nat.le_succ_of_le ih
  | case4 => simp

theorem hexNumber_length (negative : Bool) (cs : List Char) :
    (hexNumber negative cs).2.length ≤ cs.length := by
  unfold hexNumber
  dsimp only
  split
  · split
    · exact (List.dropWhile_sublist _).length_le
    · simp
  · simp

theorem fraction_length (cs : List Char) : (fraction cs).2.length ≤ cs.length := by
  unfold fraction
  split
  · simp
  · next c rest =>
    split
    · exact Nat.le_succ_of_le (digits_length rest)
    · exact Nat.le_refl _

theorem decimalNumber_length_le (negative : Bool) (cs : List Char) :
    (decimalNumber negative cs).2.length ≤ cs.length := by
  unfold decimalNumber
  dsimp only
  split
  · simp
  · next power rest he =>
    have h1 := digits_length cs
    have h2 := fraction_length (digits cs).2
    have h3 := exponent_length he
    split
    · dsimp only
      omega
    · simp

theorem digits_cons_length {c : Char} (h : isDigit c = true) (cs : List Char) :
    (digits (c :: cs)).2.length ≤ cs.length := by
  simp only [digits, List.dropWhile_cons, h, if_true]
  exact (List.dropWhile_sublist _).length_le

/-- A number that starts with a digit or a point takes it. -/
theorem decimalNumber_length {c : Char} (h : startsNumber c = true) (negative : Bool)
    (cs : List Char) : (decimalNumber negative (c :: cs)).2.length ≤ cs.length := by
  have hread : (fraction (digits (c :: cs)).2).2.length ≤ cs.length := by
    by_cases hd : isDigit c = true
    · exact Nat.le_trans (fraction_length _) (digits_cons_length hd cs)
    · have hpoint : c = '.' := by simpa [startsNumber, hd] using h
      have hrest : (digits (c :: cs)).2 = c :: cs := by
        simp [digits, hd]
      rw [hrest, fraction, if_pos hpoint]
      exact digits_length cs
  unfold decimalNumber
  dsimp only
  split
  · simp
  · next power rest he =>
    have h3 := exponent_length he
    split
    · exact Nat.le_trans h3 hread
    · simp

theorem number_length_le (negative : Bool) (cs : List Char) :
    (number negative cs).2.length ≤ cs.length := by
  unfold number
  split
  · exact Nat.le_succ_of_le (numberName_length _ _)
  · exact Nat.le_succ_of_le (numberName_length _ _)
  · exact Nat.le_succ_of_le (Nat.le_succ_of_le (hexNumber_length _ _))
  · exact Nat.le_succ_of_le (Nat.le_succ_of_le (hexNumber_length _ _))
  · exact decimalNumber_length_le _ _

theorem number_length {c : Char} (h : startsNumber c = true) (negative : Bool)
    (cs : List Char) : (number negative (c :: cs)).2.length ≤ cs.length := by
  unfold number
  split
  · next rest heq =>
    obtain ⟨rfl, rfl⟩ := List.cons.inj heq
    exact numberName_length _ _
  · next rest heq =>
    obtain ⟨rfl, rfl⟩ := List.cons.inj heq
    exact numberName_length _ _
  · next rest heq =>
    obtain ⟨rfl, rfl⟩ := List.cons.inj heq
    exact Nat.le_succ_of_le (hexNumber_length _ _)
  · next rest heq =>
    obtain ⟨rfl, rfl⟩ := List.cons.inj heq
    exact Nat.le_succ_of_le (hexNumber_length _ _)
  · exact decimalNumber_length h _ _

theorem text_length (mark : Char) (read cs : List Char) :
    (text mark read cs).2.length ≤ cs.length := by
  fun_induction text mark read cs with
  | case1 => simp
  | case2 => simp
  | case3 read rest ds rest' hd _ ih =>
    have := escape_length hd
    simp only [List.length_cons]
    omega
  | case4 => simp
  | case5 => simp
  | case6 read c rest _ _ _ ih =>
    simp only [List.length_cons]
    omega

theorem nameRest_length (read : List Char) (escaped : Bool) (cs : List Char) :
    (nameRest read escaped cs).2.length ≤ cs.length := by
  fun_induction nameRest read escaped cs with
  | case1 => simp
  | case2 read escaped rest d rest' hd _ ih =>
    have := nameEscape_length hd
    simp only [List.length_cons]
    omega
  | case3 => simp
  | case4 => simp
  | case5 read escaped c rest _ _ ih =>
    simp only [List.length_cons]
    omega
  | case6 => exact Nat.le_refl _

theorem escapedName_length (cs : List Char) : (escapedName cs).2.length ≤ cs.length := by
  unfold escapedName
  split
  · next c rest h =>
    split
    · exact Nat.le_trans (nameRest_length _ _ _) (Nat.le_of_lt (nameEscape_length h))
    · simp
  · simp

/-- **Every token takes its characters**: what is left after a token is no longer than
what followed its first character. -/
theorem token_length (c : Char) (rest : List Char) :
    (token c rest).2.length ≤ rest.length := by
  unfold token
  split
  · exact Nat.le_refl _
  · split
    · exact text_length _ _ _
    · split
      · exact number_length_le _ _
      · split
        · next h => exact number_length h _ _
        · split
          · exact escapedName_length _
          · split
            · exact nameRest_length _ _ _
            · simp

/-- The tokens of a text, up to the first broken one. -/
def tokens (cs : List Char) : List Token :=
  match cs with
  | [] => []
  | c :: rest =>
    if isSpace c then tokens rest
    else if c = '/' then
      match _h : afterComment? rest with
      | some rest' => tokens rest'
      | none => [.broken .malformed]
    else
      let read := token c rest
      if read.1.isBroken then [read.1] else read.1 :: tokens read.2
  termination_by cs.length
  decreasing_by
    · simp
    · have := afterComment?_length _h
      simp only [List.length_cons]
      omega
    · have := token_length c rest
      simp only [List.length_cons]
      omega

end Relaxed

/-- **The value of a relaxed JSON text.** -/
def readRelaxed (text : String) : Except Fault Value :=
  Build.ofTokens relaxedGrammar (Relaxed.tokens text.toList)

end RecordQuery.Json
