import RecordQuery.Proofs.Syntax

/-!
# What a JSON term means

The meaning of a term depends on what its numbers mean, and on nothing else that readers
may see differently: the value of a term (`RecordQuery.Json.Term.value?`) is given for any
reading of numbers. A text in quotation marks has no meaning if an escape in it names half
of a surrogate pair (`RecordQuery.Json.decode`), and this and a number without a value are
all that can take the value from a term (`RecordQuery.Json.Term.isSome_value?_iff`).

Two readings of numbers give one term the same value if they agree on its numbers
(`RecordQuery.Json.Term.value?_congr`). If they do not, the values still differ at numbers
only, place by place: where the one has its value of a number, the other has its own value of
this number (`RecordQuery.Json.Term.alike`).
-/

namespace RecordQuery.Json

/-! ### Texts in quotation marks -/

/-- **The characters that a text in quotation marks stands for**, if it has a meaning:
the code unit of an escape is a character of its own, or the first of a surrogate pair
with the second behind it. -/
def decode : List Piece → Option (List Char)
  | [] => some []
  | .plain c _ :: pieces => (decode pieces).map (c :: ·)
  | .short e :: pieces => (decode pieces).map (e.char :: ·)
  | .unit u :: pieces =>
    if isLowSurrogate u.value then none
    else if isHighSurrogate u.value then
      match pieces with
      | .unit v :: pieces =>
        if isLowSurrogate v.value then (decode pieces).map (pairedChar u.value v.value :: ·)
        else none
      | _ => none
    else (decode pieces).map (Char.ofNat u.value :: ·)

/-! ### Values -/

namespace Term

mutual

/-- The numbers of a term, in order. -/
def numbers : Term → List NumberText
  | .word _ => []
  | .number n => [n]
  | .string _ => []
  | .array items => itemsNumbers items
  | .object members => membersNumbers members

/-- The numbers of the items of an array. -/
def itemsNumbers : List Term → List NumberText
  | [] => []
  | item :: items => item.numbers ++ itemsNumbers items

/-- The numbers of the members of an object. -/
def membersNumbers : List (List Piece × Term) → List NumberText
  | [] => []
  | (_, member) :: members => member.numbers ++ membersNumbers members

end

mutual

/-- The texts in quotation marks of a term, keys among them, in order. -/
def strings : Term → List (List Piece)
  | .word _ => []
  | .number _ => []
  | .string pieces => [pieces]
  | .array items => itemsStrings items
  | .object members => membersStrings members

/-- The texts in quotation marks of the items of an array. -/
def itemsStrings : List Term → List (List Piece)
  | [] => []
  | item :: items => item.strings ++ itemsStrings items

/-- The texts in quotation marks of the members of an object. -/
def membersStrings : List (List Piece × Term) → List (List Piece)
  | [] => []
  | (key, member) :: members => key :: (member.strings ++ membersStrings members)

end

section Value

variable (number : NumberText → Option Value)

mutual

/-- **The value of a term**, given the values of numbers. -/
def value? : Term → Option Value
  | .word w => some w.value
  | .number n => number n
  | .string pieces => (decode pieces).map fun cs => .string (String.ofList cs)
  | .array items => (itemsValue? items).map .array
  | .object members => (membersValue? members).map .ofEntries

/-- The values of the items of an array. -/
def itemsValue? : List Term → Option (List Value)
  | [] => some []
  | item :: items =>
    (item.value?).bind fun value => (itemsValue? items).map (value :: ·)

/-- The keys and values of the members of an object. -/
def membersValue? : List (List Piece × Term) → Option (List (String × Value))
  | [] => some []
  | (key, member) :: members =>
    (decode key).bind fun cs => (member.value?).bind fun value =>
      (membersValue? members).map ((String.ofList cs, value) :: ·)

end

end Value

/-- A first part and others have a value together. -/
theorem isSome_bind_map {α β γ : Type} {first : Option α} {others : Option β}
    {combine : α → β → γ} :
    (first.bind fun a => others.map (combine a)).isSome = true ↔
      first.isSome = true ∧ others.isSome = true := by
  cases first <;> simp

section Congruence

variable {number number' : NumberText → Option Value}

mutual

/-- **Equal readings of the numbers of a term give equal values.** -/
theorem value?_congr (t : Term) (h : ∀ n ∈ t.numbers, number n = number' n) :
    t.value? number = t.value? number' := by
  match t with
  | .word _ => rfl
  | .number n => exact h n (by simp [numbers])
  | .string _ => rfl
  | .array items => rw [value?, value?, itemsValue?_congr items h]
  | .object members => rw [value?, value?, membersValue?_congr members h]

theorem itemsValue?_congr (items : List Term)
    (h : ∀ n ∈ itemsNumbers items, number n = number' n) :
    itemsValue? number items = itemsValue? number' items := by
  match items with
  | [] => rfl
  | item :: items =>
    rw [itemsValue?, itemsValue?,
      value?_congr item fun n hn => h n (by rw [itemsNumbers]; exact List.mem_append_left _ hn),
      itemsValue?_congr items fun n hn =>
        h n (by rw [itemsNumbers]; exact List.mem_append_right _ hn)]

theorem membersValue?_congr (members : List (List Piece × Term))
    (h : ∀ n ∈ membersNumbers members, number n = number' n) :
    membersValue? number members = membersValue? number' members := by
  match members with
  | [] => rfl
  | (key, member) :: members =>
    rw [membersValue?, membersValue?,
      value?_congr member fun n hn =>
        h n (by rw [membersNumbers]; exact List.mem_append_left _ hn),
      membersValue?_congr members fun n hn =>
        h n (by rw [membersNumbers]; exact List.mem_append_right _ hn)]

end

end Congruence

section Readable

variable {number : NumberText → Option Value}

mutual

/-- **What has a value**: a term whose numbers have values and whose texts in quotation
marks have a meaning. -/
theorem isSome_value?_iff (t : Term) :
    (t.value? number).isSome = true ↔
      (∀ n ∈ t.numbers, (number n).isSome = true) ∧
        ∀ pieces ∈ t.strings, (decode pieces).isSome = true := by
  match t with
  | .word _ => simp [value?, numbers, strings]
  | .number n => simp [value?, numbers, strings]
  | .string pieces => simp [value?, numbers, strings]
  | .array items =>
    rw [value?, Option.isSome_map, isSome_itemsValue?_iff items, numbers, strings]
  | .object members =>
    rw [value?, Option.isSome_map, isSome_membersValue?_iff members, numbers, strings]

theorem isSome_itemsValue?_iff (items : List Term) :
    (itemsValue? number items).isSome = true ↔
      (∀ n ∈ itemsNumbers items, (number n).isSome = true) ∧
        ∀ pieces ∈ itemsStrings items, (decode pieces).isSome = true := by
  match items with
  | [] => simp [itemsValue?, itemsNumbers, itemsStrings]
  | item :: items =>
    have hitem := isSome_value?_iff item
    have hitems := isSome_itemsValue?_iff items
    rw [itemsValue?, itemsNumbers, itemsStrings, List.forall_mem_append, List.forall_mem_append,
      and_and_and_comm, ← hitem, ← hitems, isSome_bind_map]

theorem isSome_membersValue?_iff (members : List (List Piece × Term)) :
    (membersValue? number members).isSome = true ↔
      (∀ n ∈ membersNumbers members, (number n).isSome = true) ∧
        ∀ pieces ∈ membersStrings members, (decode pieces).isSome = true := by
  match members with
  | [] => simp [membersValue?, membersNumbers, membersStrings]
  | (key, member) :: members =>
    have hmember := isSome_value?_iff member
    have hmembers := isSome_membersValue?_iff members
    rw [membersValue?, membersNumbers, membersStrings, List.forall_mem_append,
      List.forall_mem_cons, List.forall_mem_append, and_left_comm, and_and_and_comm, ← hmember,
      ← hmembers]
    cases decode key with
    | none => simp
    | some cs => simp [isSome_bind_map]

end

end Readable

end Term

/-! ### Values of two readings -/

section Alike

variable (one other : NumberText → Option Value) (numbers : List NumberText)

mutual

/-- **Values that are alike**: equal place by place, except that at a number each has its own
reading of this number, which is one of the given ones. -/
inductive Alike : Value → Value → Prop
  /-- Nothing is nothing. -/
  | null : Alike .null .null
  /-- The same truth value. -/
  | bool (value : Bool) : Alike (.bool value) (.bool value)
  /-- The same text. -/
  | string (text : String) : Alike (.string text) (.string text)
  /-- One number in two readings. -/
  | number {n : NumberText} (hn : n ∈ numbers) {value value' : Value} (h : one n = some value)
      (h' : other n = some value') : Alike value value'
  /-- Arrays item by item. -/
  | array {items items' : List Value} (h : AlikeItems items items') :
      Alike (.array items) (.array items')
  /-- Objects entry by entry. -/
  | object {entries entries' : Entries} (h : AlikeEntries entries entries') :
      Alike (.object entries) (.object entries')

/-- Items that are alike one by one. -/
inductive AlikeItems : List Value → List Value → Prop
  /-- No items. -/
  | nil : AlikeItems [] []
  /-- An item and those behind it. -/
  | cons {item item' : Value} {items items' : List Value} (hitem : Alike item item')
      (h : AlikeItems items items') : AlikeItems (item :: items) (item' :: items')

/-- Entries with the same keys in the same order, and values that are alike one by one. -/
inductive AlikeEntries : Entries → Entries → Prop
  /-- No entries. -/
  | nil : AlikeEntries [] []
  /-- An entry and those behind it. -/
  | cons (key : String) {value value' : Value} {entries entries' : Entries}
      (hvalue : Alike value value') (h : AlikeEntries entries entries') :
      AlikeEntries ((key, value) :: entries) ((key, value') :: entries')

end

end Alike

section Entries

variable {one other : NumberText → Option Value} {numbers : List NumberText}

/-- Putting values that are alike under the same key leaves entries alike. -/
theorem AlikeEntries.insertEntry {entries entries' : Entries} {value value' : Value}
    (h : AlikeEntries one other numbers entries entries') (key : String)
    (hvalue : Alike one other numbers value value') :
    AlikeEntries one other numbers (insertEntry key value entries)
      (insertEntry key value' entries') := by
  induction entries generalizing entries' with
  | nil =>
    cases h
    exact .cons key hvalue .nil
  | cons e entries ih =>
    cases h with
    | cons k hfirst hrest =>
      rw [Json.insertEntry, Json.insertEntry]
      split
      · exact .cons key hvalue (.cons k hfirst hrest)
      · split
        · exact .cons key hvalue hrest
        · exact .cons k hfirst (ih hrest)

theorem AlikeEntries.foldl {entries entries' done done' : Entries}
    (h : AlikeEntries one other numbers entries entries')
    (hdone : AlikeEntries one other numbers done done') :
    AlikeEntries one other numbers
      (entries.foldl (fun done e => Json.insertEntry e.1 e.2 done) done)
      (entries'.foldl (fun done e => Json.insertEntry e.1 e.2 done) done') := by
  induction entries generalizing entries' done done' with
  | nil =>
    cases h
    exact hdone
  | cons e entries ih =>
    cases h with
    | cons key hvalue hrest =>
      have hothers := ih hrest (hdone.insertEntry key hvalue)
      exact hothers

/-- Objects of entries that are alike are alike, whatever keys occur twice. -/
theorem AlikeEntries.entriesOf {entries entries' : Entries}
    (h : AlikeEntries one other numbers entries entries') :
    AlikeEntries one other numbers (entriesOf entries) (entriesOf entries') :=
  h.foldl .nil

end Entries

namespace Term

section Alike

variable {one other : NumberText → Option Value} {numbers : List NumberText}

mutual

/-- **Two readings of a term give values that are alike.** -/
theorem alike (t : Term) (hnumbers : ∀ n ∈ t.numbers, n ∈ numbers) {value value' : Value}
    (h : t.value? one = some value) (h' : t.value? other = some value') :
    Alike one other numbers value value' := by
  match t with
  | .word w =>
    obtain rfl : w.value = value := Option.some.inj h
    obtain rfl : w.value = value' := Option.some.inj h'
    cases w with
    | null => exact .null
    | bool value => exact .bool value
  | .number n => exact .number (hnumbers n (by simp [Term.numbers])) h h'
  | .string pieces =>
    obtain ⟨cs, hcs, rfl⟩ := Option.map_eq_some_iff.1 h
    obtain ⟨cs', hcs', rfl⟩ := Option.map_eq_some_iff.1 h'
    obtain rfl := Option.some.inj (hcs.symm.trans hcs')
    exact .string _
  | .array items =>
    obtain ⟨values, hvalues, rfl⟩ := Option.map_eq_some_iff.1 h
    obtain ⟨values', hvalues', rfl⟩ := Option.map_eq_some_iff.1 h'
    exact .array (alikeItems items hnumbers hvalues hvalues')
  | .object members =>
    obtain ⟨entries, hentries, rfl⟩ := Option.map_eq_some_iff.1 h
    obtain ⟨entries', hentries', rfl⟩ := Option.map_eq_some_iff.1 h'
    exact .object (alikeMembers members hnumbers hentries hentries').entriesOf

theorem alikeItems (items : List Term) (hnumbers : ∀ n ∈ itemsNumbers items, n ∈ numbers)
    {values values' : List Value} (h : itemsValue? one items = some values)
    (h' : itemsValue? other items = some values') :
    AlikeItems one other numbers values values' := by
  match items with
  | [] =>
    obtain rfl : [] = values := Option.some.inj h
    obtain rfl : [] = values' := Option.some.inj h'
    exact .nil
  | item :: items =>
    rw [itemsNumbers, List.forall_mem_append] at hnumbers
    obtain ⟨value, hvalue, hitems⟩ := Option.bind_eq_some_iff.1 h
    obtain ⟨others, hothers, rfl⟩ := Option.map_eq_some_iff.1 hitems
    obtain ⟨value', hvalue', hitems'⟩ := Option.bind_eq_some_iff.1 h'
    obtain ⟨others', hothers', rfl⟩ := Option.map_eq_some_iff.1 hitems'
    exact .cons (item.alike hnumbers.1 hvalue hvalue')
      (alikeItems items hnumbers.2 hothers hothers')

theorem alikeMembers (members : List (List Piece × Term))
    (hnumbers : ∀ n ∈ membersNumbers members, n ∈ numbers) {entries entries' : Entries}
    (h : membersValue? one members = some entries)
    (h' : membersValue? other members = some entries') :
    AlikeEntries one other numbers entries entries' := by
  match members with
  | [] =>
    obtain rfl : [] = entries := Option.some.inj h
    obtain rfl : [] = entries' := Option.some.inj h'
    exact .nil
  | (key, member) :: members =>
    rw [membersNumbers, List.forall_mem_append] at hnumbers
    obtain ⟨cs, hcs, hmember⟩ := Option.bind_eq_some_iff.1 h
    obtain ⟨value, hvalue, hmembers⟩ := Option.bind_eq_some_iff.1 hmember
    obtain ⟨others, hothers, rfl⟩ := Option.map_eq_some_iff.1 hmembers
    obtain ⟨cs', hcs', hmember'⟩ := Option.bind_eq_some_iff.1 h'
    obtain ⟨value', hvalue', hmembers'⟩ := Option.bind_eq_some_iff.1 hmember'
    obtain ⟨others', hothers', rfl⟩ := Option.map_eq_some_iff.1 hmembers'
    obtain rfl := Option.some.inj (hcs.symm.trans hcs')
    exact .cons _ (member.alike hnumbers.1 hvalue hvalue')
      (alikeMembers members hnumbers.2 hothers hothers')

end

end Alike

end Term

end RecordQuery.Json
