import RecordQuery.Json.Digits
import RecordQuery.Json.Escape

/-!
# Reading strict JSON

The reader of JSON texts after RFC 8259: keys and texts in quotation marks, no
comments, no comma before a closing bracket, at most 127 containers inside one
another. The text is cut into tokens (`RecordQuery.Json.Strict.tokens`), ending with
the first broken one, and the automaton of `RecordQuery.Json.Token` builds the
value (`RecordQuery.Json.read`).

A number without point and exponent is an integer if 64 bits hold it; minus zero,
and every other number, is a double by the word rule of
`RecordQuery.Decimal.Numeral`, and a number out of its range is malformed.
-/

namespace RecordQuery.Json

open RecordQuery.Decimal (Double Numeral signedLimit wordLimit)

/-- The strict grammar: no comma before a closing bracket, 127 open containers. -/
def strictGrammar : Grammar :=
  ⟨false, some 127⟩

namespace Strict

/-! ### White space and literals -/

/-- The white space between tokens. -/
def isSpace (c : Char) : Bool :=
  c == ' ' || c == '\n' || c == '\t' || c == '\r'

/-- Reads the rest of a literal. -/
def literal (value : Value) : (spelling : List Char) → List Char → Token × List Char
  | [], rest => (.scalar value, rest)
  | _ :: _, [] => (.broken .unfinished, [])
  | s :: spelling, c :: rest =>
    if c = s then literal value spelling rest else (.broken .malformed, [])

/-! ### Numbers -/

/-- Reads the fraction of a number, if it has one. -/
def fraction : List Char → Except Fault (Option (List Nat) × List Char)
  | [] => .ok (none, [])
  | c :: rest =>
    if c = '.' then
      match someDigits rest with
      | .ok (ds, rest') => .ok (some ds, rest')
      | .error fault => .error fault
    else .ok (none, c :: rest)

/-- Reads the digits before the point: a zero alone, or digits that start with
another one. -/
def wholePart (cs : List Char) : Except Fault (List Nat × List Char) :=
  match someDigits cs with
  | .ok (0 :: _ :: _, _) => .error .malformed
  | read => read

/-- The integer that a number without point and exponent is, if 64 bits hold it. A
zero with a minus sign is no integer. -/
def integer? (negative : Bool) (magnitude : Nat) : Option Int :=
  if negative then
    if 0 < magnitude && magnitude ≤ signedLimit then some (-(magnitude : Int)) else none
  else if magnitude < wordLimit then some magnitude else none

/-- The value of a number, if it is in range. -/
def numberValue? (negative : Bool) (whole : List Nat) (fraction : Option (List Nat))
    (exponent : Option Int) : Option Number :=
  let numeral : Numeral := ⟨negative, whole, fraction.getD [], exponent.getD 0⟩
  let integer := match fraction, exponent with
    | none, none => integer? negative numeral.wholeValue
    | _, _ => none
  match integer with
  | some value => some (.integer value)
  | none => numeral.byWord?.map .float

/-- Reads the parts of a number after its sign, and gives it its value. -/
def numberParts (negative : Bool) (cs : List Char) : Except Fault (Number × List Char) := do
  let (whole, rest) ← wholePart cs
  let (fraction, rest) ← fraction rest
  let (power, rest) ← exponent rest
  match numberValue? negative whole fraction power with
  | some value => pure (value, rest)
  | none => throw .malformed

/-- Reads a number after its sign. -/
def number (negative : Bool) (cs : List Char) : Token × List Char :=
  match numberParts negative cs with
  | .ok (value, rest) => (.scalar (.number value), rest)
  | .error fault => (.broken fault, [])

/-! ### Texts -/

/-- The character of an escape of one letter or mark. -/
def shortEscape? (c : Char) : Option Char :=
  if c = '"' || c = '\\' || c = '/' then some c
  else if c = 'b' then some '\x08'
  else if c = 'f' then some '\x0c'
  else if c = 'n' then some '\n'
  else if c = 'r' then some '\r'
  else if c = 't' then some '\t'
  else none

/-- Reads what follows the backslash of an escape. -/
def escape : List Char → Except Fault (Char × List Char)
  | [] => .error .unfinished
  | c :: rest =>
    if c = 'u' then unicodeEscape rest
    else match shortEscape? c with
      | some d => .ok (d, rest)
      | none => .error .malformed

/-- An escape takes at least one character. -/
theorem escape_length {cs rest : List Char} {c : Char} (h : escape cs = .ok (c, rest)) :
    rest.length < cs.length := by
  cases cs with
  | nil => simp [escape] at h
  | cons d tail =>
    simp only [escape] at h
    split at h
    · exact Nat.lt_of_lt_of_le (unicodeEscape_length h) (by simp)
    · split at h
      · obtain ⟨-, rfl⟩ : _ ∧ tail = rest := by simpa using h
        simp
      · simp at h

/-- Reads the rest of a text in quotation marks, given the characters read before in
reverse. -/
def text (read : List Char) (cs : List Char) : Token × List Char :=
  match cs with
  | [] => (.brokenText .unfinished, [])
  | c :: rest =>
    if c = '"' then (.text (String.ofList read.reverse), rest)
    else if c = '\\' then
      match _h : escape rest with
      | .ok (d, rest') => text (d :: read) rest'
      | .error fault => (.brokenText fault, [])
    else if c.toNat < 0x20 then (.brokenText .malformed, [])
    else text (c :: read) rest
  termination_by cs.length
  decreasing_by
    · have := escape_length _h
      simp only [List.length_cons]
      omega
    · simp

/-! ### Tokens -/

/-- Reads a token that starts with the given character. -/
def token (c : Char) (rest : List Char) : Token × List Char :=
  match mark? c with
  | some mark => (mark, rest)
  | none =>
    if c = '"' then text [] rest
    else if c = '-' then number true rest
    else if isDigit c then number false (c :: rest)
    else if c = 't' then literal (.bool true) ['r', 'u', 'e'] rest
    else if c = 'f' then literal (.bool false) ['a', 'l', 's', 'e'] rest
    else if c = 'n' then literal .null ['u', 'l', 'l'] rest
    else (.broken .malformed, [])

/-! ### Every token takes its characters -/

theorem literal_length (value : Value) (spelling cs : List Char) :
    (literal value spelling cs).2.length ≤ cs.length := by
  fun_induction literal value spelling cs with
  | case1 => exact Nat.le_refl _
  | case2 => exact Nat.le_refl _
  | case3 spelling c rest ih => exact Nat.le_succ_of_le ih
  | case4 => simp

theorem fraction_length {cs rest : List Char} {ds : Option (List Nat)}
    (h : fraction cs = .ok (ds, rest)) : rest.length ≤ cs.length := by
  cases cs with
  | nil =>
    obtain ⟨-, rfl⟩ : _ ∧ [] = rest := by simpa [fraction] using h
    simp
  | cons c tail =>
    simp only [fraction] at h
    split at h
    · split at h
      · next ds' rest' hd =>
        have h1 := someDigits_length hd
        obtain ⟨-, rfl⟩ : _ ∧ rest' = rest := by simpa using h
        simp only [List.length_cons]
        omega
      · simp at h
    · obtain ⟨-, rfl⟩ : _ ∧ c :: tail = rest := by simpa using h
      exact Nat.le_refl _

theorem wholePart_length {cs rest : List Char} {ds : List Nat}
    (h : wholePart cs = .ok (ds, rest)) : rest.length < cs.length := by
  unfold wholePart at h
  split at h
  · simp at h
  · exact someDigits_length h

theorem numberParts_length {negative : Bool} {cs rest : List Char} {value : Number}
    (h : numberParts negative cs = .ok (value, rest)) : rest.length < cs.length := by
  simp only [numberParts, bind, Except.bind] at h
  split at h
  · simp at h
  · next whole hw =>
    split at h
    · simp at h
    · next frac hf =>
      split at h
      · simp at h
      · next power hp =>
        have h1 := wholePart_length hw
        have h2 := fraction_length hf
        have h3 := exponent_length hp
        split at h
        · obtain ⟨-, rfl⟩ : _ ∧ power.2 = rest := by simpa [pure, Except.pure] using h
          omega
        · simp [throw, throwThe, MonadExceptOf.throw] at h

theorem number_length (negative : Bool) (c : Char) (cs : List Char) :
    (number negative (c :: cs)).2.length ≤ cs.length := by
  unfold number
  split
  · next value rest h =>
    have := numberParts_length h
    simp only [List.length_cons] at this
    exact Nat.le_of_lt_succ this
  · simp

theorem number_length_le (negative : Bool) (cs : List Char) :
    (number negative cs).2.length ≤ cs.length := by
  unfold number
  split
  · next value rest h => exact Nat.le_of_lt (numberParts_length h)
  · simp

theorem text_length (read cs : List Char) : (text read cs).2.length ≤ cs.length := by
  fun_induction text read cs with
  | case1 => simp
  | case2 => simp
  | case3 read rest d rest' hd ih =>
    have := escape_length hd
    simp only [List.length_cons]
    omega
  | case4 => simp
  | case5 => simp
  | case6 read c rest _ _ _ ih =>
    simp only [List.length_cons]
    omega

/-- **Every token takes its characters**: what is left after a token is no longer than
what followed its first character. -/
theorem token_length (c : Char) (rest : List Char) :
    (token c rest).2.length ≤ rest.length := by
  unfold token
  split
  · exact Nat.le_refl _
  · split
    · exact text_length _ _
    · split
      · exact number_length_le _ _
      · split
        · exact number_length _ _ _
        · split
          · exact literal_length _ _ _
          · split
            · exact literal_length _ _ _
            · split
              · exact literal_length _ _ _
              · exact Nat.zero_le _

/-- The tokens of a text, up to the first broken one. -/
def tokens (cs : List Char) : List Token :=
  match cs with
  | [] => []
  | c :: rest =>
    if isSpace c then tokens rest
    else
      let read := token c rest
      if read.1.isBroken then [read.1] else read.1 :: tokens read.2
  termination_by cs.length
  decreasing_by
    · simp
    · have := token_length c rest
      simp only [List.length_cons]
      omega

end Strict

/-- **The value of a strict JSON text**, with at most so many containers inside one
another if there is a limit. -/
def readWithin (depth : Option Nat) (text : String) : Except Fault Value :=
  Build.ofTokens ⟨false, depth⟩ (Strict.tokens text.toList)

/-- The value of a strict JSON text. -/
def read (text : String) : Except Fault Value :=
  readWithin strictGrammar.depth text

end RecordQuery.Json
