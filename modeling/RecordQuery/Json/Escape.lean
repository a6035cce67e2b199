import RecordQuery.Json.Token
import RecordQuery.Text.Characters

/-!
# Code units in escapes

An escape `\u` names a UTF-16 code unit by four hexadecimal digits. A unit outside
the surrogates is a character of its own; two surrogates, a high one and then a low
one, make one character together, and no other use of a surrogate has a meaning.
-/

namespace RecordQuery.Json

open RecordQuery.Text (hexNumber?)

/-- The code unit named by four hexadecimal digits, and what follows them. -/
def codeUnit? : List Char → Option (Nat × List Char)
  | a :: b :: c :: d :: rest => (hexNumber? [a, b, c, d]).map fun unit => (unit, rest)
  | _ => none

/-- Four digits are read for a code unit. -/
theorem codeUnit?_length {cs rest : List Char} {unit : Nat}
    (h : codeUnit? cs = some (unit, rest)) : rest.length < cs.length := by
  match cs, h with
  | a :: b :: c :: d :: tail, h =>
    obtain ⟨u, -, hu⟩ := Option.map_eq_some_iff.1 h
    obtain ⟨-, rfl⟩ := Prod.mk.inj hu
    simp only [List.length_cons]
    omega

/-- Whether a code unit is the first of a surrogate pair. -/
def isHighSurrogate (unit : Nat) : Bool :=
  decide (0xD800 ≤ unit) && decide (unit ≤ 0xDBFF)

/-- Whether a code unit is the second of a surrogate pair. -/
def isLowSurrogate (unit : Nat) : Bool :=
  decide (0xDC00 ≤ unit) && decide (unit ≤ 0xDFFF)

/-- The character of a surrogate pair. -/
def pairedChar (high low : Nat) : Char :=
  Char.ofNat ((high - 0xD800) * 0x400 + (low - 0xDC00) + 0x10000)

/-- The bytes of a text in UTF-8. -/
def byteLength (cs : List Char) : Nat :=
  cs.foldl (fun count c => count + c.utf8Size) 0

/-- Reads the four digits of a code unit. Fewer than four bytes before the end leave
the text unfinished, whatever they are. -/
def codeUnit (cs : List Char) : Except Fault (Nat × List Char) :=
  match codeUnit? cs with
  | some found => .ok found
  | none => .error (if byteLength (cs.take 4) < 4 then .unfinished else .malformed)

/-- Reads what follows the `u` of an escape: a code unit, and for the first of a
surrogate pair the escape of the second. -/
def unicodeEscape (cs : List Char) : Except Fault (Char × List Char) :=
  match codeUnit cs with
  | .error fault => .error fault
  | .ok (unit, rest) =>
    if isLowSurrogate unit then .error .malformed
    else if isHighSurrogate unit then
      match rest with
      | [] => .error .unfinished
      | ['\\'] => .error .unfinished
      | '\\' :: 'u' :: rest =>
        match codeUnit rest with
        | .error fault => .error fault
        | .ok (low, rest) =>
          if isLowSurrogate low then .ok (pairedChar unit low, rest) else .error .malformed
      | _ => .error .malformed
    else .ok (Char.ofNat unit, rest)

theorem codeUnit_length {cs rest : List Char} {unit : Nat} (h : codeUnit cs = .ok (unit, rest)) :
    rest.length < cs.length := by
  unfold codeUnit at h
  split at h
  · next found hf =>
    obtain rfl : found = (unit, rest) := by simpa using h
    exact codeUnit?_length hf
  · simp at h

theorem unicodeEscape_length {cs rest : List Char} {c : Char}
    (h : unicodeEscape cs = .ok (c, rest)) : rest.length < cs.length := by
  unfold unicodeEscape at h
  split at h
  · simp at h
  · next unit tail hu =>
    have h1 := codeUnit_length hu
    split at h
    · simp at h
    · split at h
      · split at h
        · simp at h
        · simp at h
        · next tail' =>
          split at h
          · simp at h
          · next low tail'' hl =>
            have h2 := codeUnit_length hl
            split at h
            · obtain ⟨-, rfl⟩ : _ ∧ tail'' = rest := by simpa using h
              simp only [List.length_cons] at h1
              omega
            · simp at h
        · simp at h
      · obtain ⟨-, rfl⟩ : _ ∧ tail = rest := by simpa using h
        exact h1

end RecordQuery.Json
