import RecordQuery.Decimal.Double

/-!
# JSON values

A value is null, a truth value, a number, a text, an array or an object. A number
is an integer where its text was one and 64 bits hold it, and a double otherwise.
The entries of an object are kept in increasing order of their keys, one entry a
key: putting a key that is there already replaces its value
(`RecordQuery.Json.insertEntry`).
-/

namespace RecordQuery.Json

open RecordQuery.Decimal (Double)

/-- A number: an integer of 64 bits, with or without sign, or a double. -/
inductive Number
  | integer (value : Int)
  | float (value : Double)
deriving DecidableEq

/-- A JSON value. -/
inductive Value
  | null
  | bool (value : Bool)
  | number (value : Number)
  | string (text : String)
  | array (items : List Value)
  | object (entries : List (String × Value))

/-- The entries of an object, in the order of their keys. -/
abbrev Entries := List (String × Value)

/-- Puts an entry at its place among entries in the order of their keys, instead of
an entry with the same key. -/
def insertEntry {α : Type} (key : String) (value : α) :
    List (String × α) → List (String × α)
  | [] => [(key, value)]
  | (k, v) :: entries =>
    if key < k then (key, value) :: (k, v) :: entries
    else if key = k then (key, value) :: entries
    else (k, v) :: insertEntry key value entries

/-- The value of a key. -/
def field? {α : Type} (entries : List (String × α)) (key : String) : Option α :=
  entries.lookup key

/-- **An entry that was put is found**, whatever the entries were before. -/
theorem field?_insertEntry_self {α : Type} (key : String) (value : α)
    (entries : List (String × α)) : field? (insertEntry key value entries) key = some value := by
  induction entries with
  | nil => simp [insertEntry, field?]
  | cons e entries ih =>
    obtain ⟨k, v⟩ := e
    rw [insertEntry]
    split
    · simp [field?]
    · split
      · simp [field?]
      · next hne =>
        have hbeq : (key == k) = false := by simpa using hne
        simpa [field?, List.lookup_cons, hbeq] using ih

/-- Putting an entry leaves the other keys as they were. -/
theorem field?_insertEntry_of_ne {α : Type} {key other : String} (h : other ≠ key) (value : α)
    (entries : List (String × α)) :
    field? (insertEntry key value entries) other = field? entries other := by
  have hbeq : (other == key) = false := by simpa using h
  induction entries with
  | nil => simp [insertEntry, field?, List.lookup_cons, hbeq]
  | cons e entries ih =>
    obtain ⟨k, v⟩ := e
    rw [insertEntry]
    split
    · simp [field?, List.lookup_cons, hbeq]
    · split
      · next heq => subst heq; simp [field?, List.lookup_cons, hbeq]
      · simp only [field?, List.lookup_cons] at ih ⊢
        rw [ih]

/-- Builds the entries of an object, a later entry of a key replacing an earlier. -/
def entriesOf {α : Type} (entries : List (String × α)) : List (String × α) :=
  entries.foldl (fun done e => insertEntry e.1 e.2 done) []

/-- An object with the given entries. -/
def Value.ofEntries (entries : List (String × Value)) : Value :=
  .object (entriesOf entries)

end RecordQuery.Json
