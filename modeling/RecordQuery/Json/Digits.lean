import RecordQuery.Decimal.Numeral
import RecordQuery.Json.Token

/-!
# Digits and exponents

The parts of a number that both kinds of JSON text spell alike: runs of decimal
digits, signs, and exponents. Each reader returns what it read together with the
rest of the text, which is never longer than the text it was given.
-/

namespace RecordQuery.Json

/-- Whether a character is an ASCII digit. -/
def isDigit (c : Char) : Bool :=
  decide ('0' ≤ c) && decide (c ≤ '9')

/-- The value of a digit. -/
def digitValue (c : Char) : Nat :=
  c.toNat - '0'.toNat

/-- The digits at the start of a text, and what follows them. -/
def digits (cs : List Char) : List Nat × List Char :=
  ((cs.takeWhile isDigit).map digitValue, cs.dropWhile isDigit)

/-- The fault of a text that should go on and does not. -/
def missing : List Char → Fault
  | [] => .unfinished
  | _ :: _ => .malformed

/-- The digits at the start of a text, at least one. -/
def someDigits (cs : List Char) : Except Fault (List Nat × List Char) :=
  if (digits cs).1.isEmpty then .error (missing (digits cs).2) else .ok (digits cs)

/-- A sign at the start of a text, if there is one: whether it is a minus. -/
def sign : List Char → Bool × List Char
  | '-' :: rest => (true, rest)
  | '+' :: rest => (false, rest)
  | rest => (false, rest)

/-- The power of ten that digits behind a sign name. -/
def powerOf (negative : Bool) (ds : List Nat) : Int :=
  if negative then -(Decimal.spell 0 10 ds : Int) else Decimal.spell 0 10 ds

/-- The exponent at the start of a text, if there is one. -/
def exponent : List Char → Except Fault (Option Int × List Char)
  | [] => .ok (none, [])
  | c :: rest =>
    if c = 'e' || c = 'E' then
      match someDigits (sign rest).2 with
      | .ok (ds, rest') => .ok (some (powerOf (sign rest).1 ds), rest')
      | .error fault => .error fault
    else .ok (none, c :: rest)

/-! ### What is left is no longer -/

theorem digits_length (cs : List Char) : (digits cs).2.length ≤ cs.length :=
  (List.dropWhile_sublist isDigit).length_le

theorem sign_length (cs : List Char) : (sign cs).2.length ≤ cs.length := by
  unfold sign
  split <;> simp

theorem someDigits_length {cs rest : List Char} {ds : List Nat}
    (h : someDigits cs = .ok (ds, rest)) : rest.length < cs.length := by
  unfold someDigits at h
  split at h
  · simp at h
  · next hne =>
    have hlen : (cs.takeWhile isDigit).length + (cs.dropWhile isDigit).length = cs.length := by
      rw [← List.length_append, List.takeWhile_append_dropWhile]
    have hpos : 0 < (cs.takeWhile isDigit).length := by
      rw [← List.length_map digitValue, List.length_pos_iff]
      simpa [digits] using hne
    have hrest : cs.dropWhile isDigit = rest := congrArg Prod.snd (Except.ok.inj h)
    rw [← hrest]
    omega

theorem exponent_length {cs rest : List Char} {power : Option Int}
    (h : exponent cs = .ok (power, rest)) : rest.length ≤ cs.length := by
  cases cs with
  | nil =>
    obtain ⟨-, rfl⟩ : _ ∧ [] = rest := by simpa [exponent] using h
    simp
  | cons c tail =>
    simp only [exponent] at h
    split at h
    · split at h
      · next ds rest' hd =>
        have h1 := someDigits_length hd
        have h2 := sign_length tail
        obtain ⟨-, rfl⟩ : _ ∧ rest' = rest := by simpa using h
        simp only [List.length_cons]
        omega
      · simp at h
    · obtain ⟨-, rfl⟩ : _ ∧ c :: tail = rest := by simpa using h
      exact Nat.le_refl _

end RecordQuery.Json
