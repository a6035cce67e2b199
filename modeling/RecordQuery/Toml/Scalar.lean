import RecordQuery.Decimal.Numeral
import RecordQuery.Toml.Item
import RecordQuery.Toml.Text

/-!
# TOML scalars

Numbers, truth values, dates and times. Digits may be grouped by low lines between
them. An integer has 64 bits with a sign; a number in another base has no sign. A
date has to exist, and a time has seconds.
-/

namespace RecordQuery.Toml

open RecordQuery.Decimal (Numeral signedLimit spell)
open RecordQuery.Text (hexDigit?)

/-! ### Digits -/

/-- The value of a digit in a base up to sixteen. -/
def digit? (base : Nat) (c : Char) : Option Nat :=
  match hexDigit? c with
  | some value => if value < base then some value else none
  | none => none

/-- The digits at the start of a text, each of them possibly behind a low line. -/
def moreDigits (base : Nat) : List Char → List Nat × List Char
  | [] => ([], [])
  | '_' :: c :: rest =>
    match digit? base c with
    | some value => (value :: (moreDigits base rest).1, (moreDigits base rest).2)
    | none => ([], '_' :: c :: rest)
  | c :: rest =>
    match digit? base c with
    | some value => (value :: (moreDigits base rest).1, (moreDigits base rest).2)
    | none => ([], c :: rest)

/-- Reads digits, at least one, with low lines between them. -/
def digits (base : Nat) : Reader (List Nat)
  | [] => none
  | c :: rest =>
    match digit? base c with
    | some value => some (value :: (moreDigits base rest).1, (moreDigits base rest).2)
    | none => none

/-- Reads exactly so many decimal digits, as a number. -/
def fixedDigits (value : Nat) : (count : Nat) → Reader Nat
  | 0, cs => some (value, cs)
  | _ + 1, [] => none
  | count + 1, c :: rest =>
    match digit? 10 c with
    | some digit => fixedDigits (value * 10 + digit) count rest
    | none => none

/-- Reads one given character. -/
def mark (expected : Char) : List Char → Option (List Char)
  | [] => none
  | c :: rest => if c = expected then some rest else none

/-! ### Dates and times -/

/-- Whether a year has a leap day. -/
def isLeapYear (year : Nat) : Bool :=
  year % 4 == 0 && (year % 100 != 0 || year % 400 == 0)

/-- How many days a month has. -/
def daysIn (year month : Nat) : Nat :=
  if month = 2 then (if isLeapYear year then 29 else 28)
  else if month = 4 || month = 6 || month = 9 || month = 11 then 30
  else 31

/-- Skips a date. -/
def date? (cs : List Char) : Option (List Char) := do
  let (year, cs) ← fixedDigits 0 4 cs
  let (month, cs) ← fixedDigits 0 2 (← mark '-' cs)
  let (day, cs) ← fixedDigits 0 2 (← mark '-' cs)
  if 1 ≤ month && month ≤ 12 && 1 ≤ day && day ≤ daysIn year month then some cs else none

/-- Skips an hour and a minute. -/
def clock? (cs : List Char) : Option (List Char) := do
  let (hour, cs) ← fixedDigits 0 2 cs
  let (minute, cs) ← fixedDigits 0 2 (← mark ':' cs)
  if hour ≤ 23 && minute ≤ 59 then some cs else none

/-- Skips the fraction of a second, if there is one. -/
def secondFraction (cs : List Char) : List Char :=
  match cs with
  | '.' :: c :: rest =>
    if (digit? 10 c).isSome then rest.dropWhile fun d => (digit? 10 d).isSome else cs
  | _ => cs

/-- Skips a time. -/
def time? (cs : List Char) : Option (List Char) := do
  let cs ← clock? cs
  let (second, cs) ← fixedDigits 0 2 (← mark ':' cs)
  if second ≤ 60 then some (secondFraction cs) else none

/-- Skips the offset of a time, if there is one. -/
def offset (cs : List Char) : List Char :=
  match cs with
  | [] => []
  | c :: rest =>
    if c = 'Z' || c = 'z' then rest
    else if c = '+' || c = '-' then (clock? rest).getD cs
    else cs

/-- Whether a character separates a date from a time. -/
def startsTime (c : Char) : Bool :=
  c == 'T' || c == 't' || c == ' '

/-- Skips a date, with a time if one follows it, or a time alone. -/
def dateTime? (cs : List Char) : Option (List Char) :=
  match date? cs with
  | none => time? cs
  | some [] => some []
  | some (c :: rest) =>
    if startsTime c then some ((time? rest).elim (c :: rest) offset) else some (c :: rest)

/-! ### Numbers -/

/-- A sign at the start of a text, if there is one: whether it is a minus. -/
def sign : List Char → Bool × List Char
  | '-' :: rest => (true, rest)
  | '+' :: rest => (false, rest)
  | cs => (false, cs)

/-- Reads the digits of a decimal integer: a zero alone, or digits that start with
another one. -/
def wholeDigits : Reader (List Nat)
  | '0' :: rest => some ([0], rest)
  | cs => digits 10 cs

/-- The integer of a sign and a magnitude, if 64 bits hold it. -/
def integer? (negative : Bool) (magnitude : Nat) : Option Item :=
  if negative then
    if magnitude ≤ signedLimit then some (.integer (-(magnitude : Int))) else none
  else if magnitude < signedLimit then some (.integer magnitude) else none

/-- Reads an integer in a base that its first characters have named. -/
def basedInteger (base : Nat) (cs : List Char) : Option (Item × List Char) := do
  let (ds, rest) ← digits base cs
  let value ← integer? false (spell 0 base ds)
  some (value, rest)

/-- Reads an integer. -/
def integer : Reader Item
  | '0' :: 'x' :: rest => basedInteger 16 rest
  | '0' :: 'o' :: rest => basedInteger 8 rest
  | '0' :: 'b' :: rest => basedInteger 2 rest
  | cs => do
    let (ds, rest) ← wholeDigits (sign cs).2
    let value ← integer? (sign cs).1 (spell 0 10 ds)
    some (value, rest)

/-- Reads the fraction of a number, if there is one. -/
def fraction (cs : List Char) : Option (Option (List Nat) × List Char) :=
  match cs with
  | '.' :: rest => (digits 10 rest).map fun read => (some read.1, read.2)
  | _ => some (none, cs)

/-- Reads the exponent of a number, if there is one. -/
def exponent (cs : List Char) : Option (Option Int × List Char) :=
  match cs with
  | [] => some (none, [])
  | c :: rest =>
    if c = 'e' || c = 'E' then
      (digits 10 (sign rest).2).map fun read =>
        let power : Int := spell 0 10 read.1
        (some (if (sign rest).1 then -power else power), read.2)
    else some (none, cs)

/-- Reads a number with a fraction or an exponent. One too large for a double is
refused, unless it is negative. -/
def float (cs : List Char) : Option (Item × List Char) := do
  let (whole, rest) ← wholeDigits (sign cs).2
  let (fraction, rest) ← fraction rest
  let (power, rest) ← exponent rest
  let numeral : Numeral := ⟨(sign cs).1, whole, fraction.getD [], power.getD 0⟩
  if fraction.isNone && power.isNone then none
  else if numeral.nearest?.isNone && !numeral.negative then none
  else some (.float, rest)

/-- Reads an infinity or the value that is no number. -/
def specialFloat (cs : List Char) : Option (Item × List Char) :=
  match (sign cs).2 with
  | 'i' :: 'n' :: 'f' :: rest => some (.float, rest)
  | 'n' :: 'a' :: 'n' :: rest => some (.float, rest)
  | _ => none

/-- **Reads a number, a date or a time.** -/
def number (cs : List Char) : Option (Item × List Char) :=
  match dateTime? cs with
  | some rest => some (.dateTime, rest)
  | none => (float cs).or ((integer cs).or (specialFloat cs))

/-- **Reads a scalar.** -/
def scalar : Reader Item
  | 't' :: 'r' :: 'u' :: 'e' :: rest => some (.boolean true, rest)
  | 'f' :: 'a' :: 'l' :: 's' :: 'e' :: rest => some (.boolean false, rest)
  | cs =>
    match text cs with
    | some (value, rest) => some (.string value, rest)
    | none => number cs

end RecordQuery.Toml
