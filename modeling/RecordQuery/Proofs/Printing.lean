import RecordQuery.Proofs.Names
import RecordQuery.Proofs.PrintedNumbers

/-!
# Printed values read back

The printer writes a value as a text of JSON: a term can be made for it whose lexemes the text
spells, the white space of the layout apart, and whose value is the value that was written
(`RecordQuery.Json.exists_printed`). What the readers do with a text of a term is known, so both
read the value back, from one line as from several (`RecordQuery.Json.readRelaxed_pretty`,
`RecordQuery.Json.readRelaxed_compact`, `RecordQuery.Json.read_pretty`).

Two things must hold of the value (`RecordQuery.Json.Value.Proper`). The keys of its objects are
in their order, as they are wherever entries were put one by one
(`RecordQuery.Json.sorted_entriesOf`), since a reader puts them in order again. And its numbers
are such that the reader has them back from their text; for the strict reader these are not all
doubles.
-/

namespace RecordQuery.Json

/-! ### Texts -/

/-- A character of few bits is written as a code unit of four digits. -/
theorem exists_unit {c : Char} (h : c.toNat < 32) : ∃ u : UnitDigits,
    (Piece.unit u).text =
        ['\\', 'u', '0', '0', Nat.digitChar (c.toNat / 16), Nat.digitChar (c.toNat % 16)] ∧
      ∀ pieces, decode (.unit u :: pieces) = (decode pieces).map (c :: ·) := by
  let u : UnitDigits :=
    ⟨⟨0, false⟩, ⟨0, false⟩, ⟨⟨c.toNat / 16, by omega⟩, false⟩,
      ⟨⟨c.toNat % 16, Nat.mod_lt _ (by decide)⟩, false⟩⟩
  have hvalue : u.value = c.toNat := by
    simp only [UnitDigits.value, u, Fin.val_zero]
    omega
  have hlow : isLowSurrogate u.value = false := by
    rw [hvalue, isLowSurrogate, decide_eq_false (by omega)]
    rfl
  have hhigh : isHighSurrogate u.value = false := by
    rw [hvalue, isHighSurrogate, decide_eq_false (by omega)]
    rfl
  refine ⟨u, rfl, fun pieces => ?_⟩
  rw [decode.eq_def]
  simp only [hlow, hhigh, Bool.false_eq_true, if_false]
  rw [hvalue, Char.ofNat_toNat]

/-- **A character between quotation marks** is written as a piece that stands for it. -/
theorem exists_piece (c : Char) : ∃ piece : Piece, piece.text = escapedChar c ∧
    ∀ pieces, decode (piece :: pieces) = (decode pieces).map (c :: ·) := by
  rw [escapedChar]
  split
  · next h => exact ⟨.short .quote, rfl, fun _ => h ▸ rfl⟩
  split
  · next h => exact ⟨.short .backslash, rfl, fun _ => h ▸ rfl⟩
  split
  · next h => exact ⟨.short .backspace, rfl, fun _ => h ▸ rfl⟩
  split
  · next h => exact ⟨.short .formFeed, rfl, fun _ => h ▸ rfl⟩
  split
  · next h => exact ⟨.short .lineFeed, rfl, fun _ => h ▸ rfl⟩
  split
  · next h => exact ⟨.short .carriageReturn, rfl, fun _ => h ▸ rfl⟩
  split
  · next h => exact ⟨.short .tab, rfl, fun _ => h ▸ rfl⟩
  split
  · next hsmall =>
    obtain ⟨u, htext, hdecode⟩ := exists_unit hsmall
    exact ⟨.unit u, htext, hdecode⟩
  · next hquote hslash _ _ _ _ _ hlarge =>
    have hplain : isPlain c = true := by
      simp [isPlain, hquote, hslash, Nat.not_lt.1 hlarge]
    exact ⟨.plain c hplain, rfl, fun _ => rfl⟩

/-- **A text in quotation marks stands for itself.** -/
theorem exists_pieces (cs : List Char) : ∃ pieces : List Piece,
    pieces.flatMap Piece.text = cs.flatMap escapedChar ∧ decode pieces = some cs := by
  induction cs with
  | nil => exact ⟨[], rfl, rfl⟩
  | cons c cs ih =>
    obtain ⟨pieces, htext, hdecode⟩ := ih
    obtain ⟨piece, hpiece, hone⟩ := exists_piece c
    refine ⟨piece :: pieces, ?_, ?_⟩
    · rw [List.flatMap_cons, List.flatMap_cons, htext, hpiece]
    · rw [hone, hdecode]
      rfl

theorem exists_quoted (text : String) : ∃ pieces : List Piece,
    (Lexeme.string pieces).text = quotedText text ∧ decode pieces = some text.toList := by
  obtain ⟨pieces, htext, hdecode⟩ := exists_pieces text.toList
  exact ⟨pieces, by rw [Lexeme.text, htext]; rfl, hdecode⟩

/-! ### Layout -/

/-- The start of a line is white space. -/
theorem isGap_newLine (level : Option Nat) : ∀ c ∈ newLine level, isGap c = true := by
  intro c h
  cases level with
  | none => exact absurd h List.not_mem_nil
  | some level =>
    rcases List.mem_cons.1 h with rfl | h
    · rfl
    · obtain rfl := List.eq_of_mem_replicate h
      rfl

/-- A lexeme alone. -/
theorem spells_singleton (l : Lexeme) : Spells [l] l.text := by
  have hnone : Spells [] [] := .blank (by simp)
  have hone := hnone.cons l
  rwa [List.append_nil] at hone

/-- The lexemes of several parts, with commas between them. -/
def separated (first : Bool) : List (List Lexeme) → List Lexeme
  | [] => []
  | ls :: others => (if first then [] else [.mark .comma]) ++ (ls ++ separated false others)

theorem itemsLexemes_eq (first : Bool) (items : List Term) :
    Term.itemsLexemes first items = separated first (items.map Term.lexemes) := by
  induction items generalizing first with
  | nil => rfl
  | cons item items ih =>
    rw [Term.itemsLexemes, ih]
    rfl

/-- The lexemes of a member of an object. -/
def memberLexemes (member : List Piece × Term) : List Lexeme :=
  .string member.1 :: .mark .colon :: member.2.lexemes

theorem membersLexemes_eq (first : Bool) (members : List (List Piece × Term)) :
    Term.membersLexemes first members = separated first (members.map memberLexemes) := by
  induction members generalizing first with
  | nil => rfl
  | cons member members ih =>
    rw [Term.membersLexemes, ih]
    rfl

/-- Parts behind another one, each on a line of its own. -/
theorem spells_others (level : Option Nat) {lss : List (List Lexeme)} {css : List (List Char)}
    (h : List.Forall₂ Spells lss css) :
    Spells (separated false lss) (css.flatMap ((',' :: newLine level) ++ ·)) := by
  induction h with
  | nil => exact .blank (by simp)
  | cons hpart _ ih =>
    have hline := (hpart.append ih).gap_append (isGap_newLine level)
    have hcomma := hline.cons (.mark .comma)
    rw [List.flatMap_cons, List.append_assoc]
    exact hcomma

/-- **The parts of a container** are spelled between its brackets, on one line or several. -/
theorem spells_enclosed (level : Option Nat) (opening closing : Mark)
    {lss : List (List Lexeme)} {css : List (List Char)} (h : List.Forall₂ Spells lss css) :
    Spells (.mark opening :: (separated true lss ++ [.mark closing]))
      (enclosed level opening.char closing.char css) := by
  have hclose : Spells [.mark closing] [closing.char] := spells_singleton (.mark closing)
  cases h with
  | nil => exact hclose.cons (.mark opening)
  | @cons ls cs lss css hfirst hothers =>
    have hparts := (hfirst.append (spells_others (level.map (· + 1)) hothers)).gap_append
      (isGap_newLine (level.map (· + 1)))
    have hend := hclose.gap_append (isGap_newLine level)
    have hall := (hparts.append hend).cons (.mark opening)
    have htext : enclosed level opening.char closing.char (cs :: css) =
        opening.char :: (newLine (level.map (· + 1)) ++
          (cs ++ css.flatMap ((',' :: newLine (level.map (· + 1))) ++ ·)) ++
            (newLine level ++ [closing.char])) := by
      rw [enclosed, if_neg (by simp)]
      dsimp only
      rw [Text.join_cons_eq, List.cons_append, List.cons_append, List.cons_append,
        List.append_assoc _ (newLine level)]
    rw [htext]
    exact hall

/-! ### Objects in their order -/

/-- Entries in the strict order of their keys. -/
def Sorted (entries : Entries) : Prop :=
  entries.Pairwise fun e e' => e.1 < e'.1

/-- An entry put among others is one of them, or one of those before. -/
theorem mem_of_mem_insertEntry {key : String} {value : Value} {entries : Entries}
    {e : String × Value} (h : e ∈ insertEntry key value entries) :
    e = (key, value) ∨ e ∈ entries := by
  induction entries with
  | nil => exact .inl (List.mem_singleton.1 h)
  | cons first entries ih =>
    obtain ⟨k, v⟩ := first
    rw [insertEntry] at h
    split at h
    · exact List.mem_cons.1 h
    · split at h
      · exact (List.mem_cons.1 h).imp_right (List.mem_cons_of_mem _)
      · rcases List.mem_cons.1 h with rfl | h
        · exact .inr List.mem_cons_self
        · exact (ih h).imp_right (List.mem_cons_of_mem _)

/-- Putting an entry keeps entries in order. -/
theorem Sorted.insertEntry {entries : Entries} (h : Sorted entries) (key : String)
    (value : Value) : Sorted (insertEntry key value entries) := by
  induction entries with
  | nil => exact List.pairwise_singleton _ _
  | cons first entries ih =>
    obtain ⟨k, v⟩ := first
    obtain ⟨hfirst, hrest⟩ := List.pairwise_cons.1 h
    rw [Json.insertEntry]
    split
    · next hlt =>
      refine List.pairwise_cons.2 ⟨fun e he => ?_, h⟩
      rcases List.mem_cons.1 he with rfl | he
      · exact hlt
      · exact String.lt_trans hlt (hfirst e he)
    · split
      · next heq =>
        subst heq
        exact List.pairwise_cons.2 ⟨hfirst, hrest⟩
      · next hnlt hne =>
        refine List.pairwise_cons.2 ⟨fun e he => ?_, ih hrest⟩
        rcases mem_of_mem_insertEntry he with rfl | he
        · exact Std.lt_of_le_of_ne (String.not_lt.1 hnlt) (Ne.symm hne)
        · exact hfirst e he

theorem sorted_foldl (entries : Entries) {done : Entries} (h : Sorted done) :
    Sorted (entries.foldl (fun done e => insertEntry e.1 e.2 done) done) := by
  induction entries generalizing done with
  | nil => exact h
  | cons e entries ih => exact ih (h.insertEntry e.1 e.2)

/-- **Entries that are put one by one are in order.** -/
theorem sorted_entriesOf (entries : Entries) : Sorted (entriesOf entries) :=
  sorted_foldl entries List.Pairwise.nil

theorem mem_of_mem_entriesOf {entries : Entries} {e : String × Value}
    (h : e ∈ entriesOf entries) : e ∈ entries := by
  -- what is in the end was put at some time, or was there before
  have hfold : ∀ (entries done : Entries),
      e ∈ entries.foldl (fun done e => insertEntry e.1 e.2 done) done → e ∈ done ∨ e ∈ entries := by
    intro entries
    induction entries with
    | nil => exact fun done h => .inl h
    | cons first entries ih =>
      intro done h
      rcases ih _ h with h | h
      · rcases mem_of_mem_insertEntry h with rfl | h
        · exact .inr List.mem_cons_self
        · exact .inl h
      · exact .inr (List.mem_cons_of_mem _ h)
  exact (hfold entries [] h).resolve_left List.not_mem_nil

/-- An entry behind all others is put at the end. -/
theorem insertEntry_of_lt {key : String} (value : Value) {entries : Entries}
    (h : ∀ e ∈ entries, e.1 < key) : insertEntry key value entries = entries ++ [(key, value)] := by
  induction entries with
  | nil => rfl
  | cons first entries ih =>
    obtain ⟨k, v⟩ := first
    have hlt : k < key := h (k, v) List.mem_cons_self
    have hne : key ≠ k := by
      rintro rfl
      exact String.lt_irrefl _ hlt
    rw [insertEntry, if_neg (String.lt_asymm hlt), if_neg hne,
      ih fun e he => h e (List.mem_cons_of_mem _ he)]
    rfl

/-- **Entries in order stay as they are** when they are put one by one. -/
theorem Sorted.entriesOf_eq {entries : Entries} (h : Sorted entries) :
    entriesOf entries = entries := by
  induction entries using List.reverseRecOn with
  | nil => rfl
  | append_singleton entries e ih =>
    obtain ⟨hbefore, -, hlast⟩ := List.pairwise_append.1 h
    have hconcat : entriesOf (entries ++ [e]) = Json.insertEntry e.1 e.2 (entriesOf entries) :=
      List.foldl_append
    rw [hconcat, ih hbefore,
      insertEntry_of_lt e.2 fun e' he' => hlast e' he' e (List.mem_singleton.2 rfl)]

/-- **Looking up a key** finds the last entry of it that was put. -/
theorem field?_entriesOf (entries : Entries) (key : String) :
    field? (entriesOf entries) key = field? entries.reverse key := by
  induction entries using List.reverseRecOn with
  | nil => rfl
  | append_singleton entries e ih =>
    obtain ⟨k, v⟩ := e
    have hconcat : entriesOf (entries ++ [(k, v)]) = insertEntry k v (entriesOf entries) :=
      List.foldl_append
    rw [hconcat, List.reverse_append, List.reverse_singleton, List.singleton_append]
    by_cases hkey : key = k
    · subst hkey
      rw [field?_insertEntry_self, field?, List.lookup_cons_self]
    · have hbeq : (key == k) = false := by simpa using hkey
      rw [field?_insertEntry_of_ne hkey, ih, field?, field?, List.lookup_cons, hbeq]

/-! ### Values -/

/-- **A proper value**: the entries of its objects are in order, and each of its numbers is one
of the given ones. -/
inductive Value.Proper (valid : Number → Prop) : Value → Prop
  | null : Proper valid .null
  | bool (value : Bool) : Proper valid (.bool value)
  | number {value : Number} (h : valid value) : Proper valid (.number value)
  | string (text : String) : Proper valid (.string text)
  | array {items : List Value} (h : ∀ item ∈ items, Proper valid item) :
      Proper valid (.array items)
  | object {entries : Entries} (hsorted : Sorted entries)
      (h : ∀ e ∈ entries, Proper valid e.2) : Proper valid (.object entries)

theorem Value.Proper.ofEntries {valid : Number → Prop} {entries : Entries}
    (h : ∀ e ∈ entries, e.2.Proper valid) : (Value.ofEntries entries).Proper valid :=
  .object (sorted_entriesOf entries) fun e he => h e (mem_of_mem_entriesOf he)

mutual

/-- How many containers of a value are inside one another. -/
def Value.depth : Value → Nat
  | .null => 0
  | .bool _ => 0
  | .number _ => 0
  | .string _ => 0
  | .array items => itemsDepth items + 1
  | .object entries => entriesDepth entries + 1

/-- The depth of the deepest item. -/
def itemsDepth : List Value → Nat
  | [] => 0
  | item :: items => max item.depth (itemsDepth items)

/-- The depth of the deepest value of an entry. -/
def entriesDepth : List (String × Value) → Nat
  | [] => 0
  | (_, value) :: entries => max value.depth (entriesDepth entries)

end

/-- **A term of what the printer writes** for a value, with the value itself as its value. -/
structure Prints (number : NumberText → Option Value) (level : Option Nat) (v : Value)
    (t : Term) : Prop where
  spells : Spells t.lexemes (write level v)
  value_eq : t.value? number = some v
  depth_eq : t.depth = v.depth

section Printed

variable {number : NumberText → Option Value} {level : Option Nat}

theorem exists_printedItems {items : List Value}
    (h : ∀ item ∈ items, ∃ t, Prints number level item t) :
    ∃ ts, List.Forall₂ Spells (ts.map Term.lexemes) (writeItems level items) ∧
      Term.itemsValue? number ts = some items ∧ Term.itemsDepth ts = itemsDepth items := by
  induction items with
  | nil => exact ⟨[], .nil, rfl, rfl⟩
  | cons item items ih =>
    obtain ⟨t, ht⟩ := h item List.mem_cons_self
    obtain ⟨ts, hspells, hvalue, hdepth⟩ := ih fun other hother => h other (by simp [hother])
    refine ⟨t :: ts, .cons ht.spells hspells, ?_, ?_⟩
    · rw [Term.itemsValue?, ht.value_eq, hvalue]
      rfl
    · rw [Term.itemsDepth, itemsDepth, ht.depth_eq, hdepth]

/-- The colon behind a key, and the white space behind it. -/
theorem afterKey_eq (level : Option Nat) :
    ∃ gap, (∀ c ∈ gap, isGap c = true) ∧ afterKey level = ':' :: gap := by
  cases level with
  | none => exact ⟨[], by simp, rfl⟩
  | some level => exact ⟨[' '], by simp [isGap], rfl⟩

theorem exists_printedEntries {entries : Entries}
    (h : ∀ e ∈ entries, ∃ t, Prints number level e.2 t) :
    ∃ members, List.Forall₂ Spells (members.map memberLexemes) (writeEntries level entries) ∧
      Term.membersValue? number members = some entries ∧
      Term.membersDepth members = entriesDepth entries := by
  induction entries with
  | nil => exact ⟨[], .nil, rfl, rfl⟩
  | cons e entries ih =>
    obtain ⟨key, value⟩ := e
    obtain ⟨t, ht⟩ := h (key, value) List.mem_cons_self
    obtain ⟨members, hspells, hvalue, hdepth⟩ := ih fun other hother => h other (by simp [hother])
    obtain ⟨pieces, hquoted, hdecode⟩ := exists_quoted key
    obtain ⟨gap, hgap, hafter⟩ := afterKey_eq level
    have hmember : Spells (memberLexemes (pieces, t))
        (quotedText key ++ afterKey level ++ write level value) := by
      rw [← hquoted, hafter, List.append_assoc, List.cons_append]
      exact ((ht.spells.gap_append hgap).cons (.mark .colon)).cons (.string pieces)
    refine ⟨(pieces, t) :: members, .cons hmember hspells, ?_, ?_⟩
    · rw [Term.membersValue?, hdecode, ht.value_eq, hvalue, Option.bind_some, Option.bind_some,
        Option.map_some, String.ofList_toList]
    · rw [Term.membersDepth, entriesDepth, ht.depth_eq, hdepth]

/-- **What is printed is a text of JSON with the value that was printed**, at any level. -/
theorem exists_printed {valid : Number → Prop}
    (hnumber : ∀ x, valid x → ∃ n : NumberText, n.text = x.text.toList ∧
      number n = some (.number x)) {v : Value} (h : v.Proper valid) (level : Option Nat) :
    ∃ t, Prints number level v t := by
  -- by the parts of the value, for every level, since items are printed one level down
  induction h generalizing level with
  | null => exact ⟨.word .null, spells_singleton (.word .null), rfl, rfl⟩
  | bool value =>
    exact ⟨.word (.bool value), by cases value <;> exact spells_singleton (.word (.bool _)), rfl,
      rfl⟩
  | number hvalid =>
    obtain ⟨n, htext, hvalue⟩ := hnumber _ hvalid
    refine ⟨.number n, ?_, hvalue, rfl⟩
    rw [write, ← htext]
    exact spells_singleton (.number n)
  | string text =>
    obtain ⟨pieces, hquoted, hdecode⟩ := exists_quoted text
    refine ⟨.string pieces, ?_, ?_, rfl⟩
    · rw [write, ← hquoted]
      exact spells_singleton (.string pieces)
    · rw [Term.value?, hdecode, Option.map_some, String.ofList_toList]
  | @array items _ ih =>
    obtain ⟨ts, hspells, hvalue, hdepth⟩ :=
      exists_printedItems fun item hitem => ih item hitem (level.map (· + 1))
    refine ⟨.array ts, ?_, ?_, ?_⟩
    · rw [write, Term.lexemes, itemsLexemes_eq]
      exact spells_enclosed level .openArray .closeArray hspells
    · rw [Term.value?, hvalue, Option.map_some]
    · rw [Term.depth, Value.depth, hdepth]
  | @object entries hsorted _ ih =>
    obtain ⟨members, hspells, hvalue, hdepth⟩ :=
      exists_printedEntries fun e he => ih e he (level.map (· + 1))
    refine ⟨.object members, ?_, ?_, ?_⟩
    · rw [write, Term.lexemes, membersLexemes_eq]
      exact spells_enclosed level .openObject .closeObject hspells
    · rw [Term.value?, hvalue, Option.map_some, Value.ofEntries, hsorted.entriesOf_eq]
    · rw [Term.depth, Value.depth, hdepth]

end Printed

/-! ### Reading back -/

theorem toOption_eq_some_iff {α : Type} {result : Except Fault α} {value : α} :
    result.toOption = some value ↔ result = .ok value := by
  cases result <;> simp [Except.toOption]

section ReadBack

variable {v : Value}

theorem readRelaxed_write (h : v.Proper Number.Fits) (level : Option Nat) :
    readRelaxed (String.ofList (write level v)) = .ok v := by
  obtain ⟨t, ht⟩ : ∃ t, Prints (fun n => some n.relaxedValue) level v t := by
    refine exists_printed (fun x hx => ?_) h level
    obtain ⟨n, htext, hvalue, -⟩ := Number.exists_numberText hx
    exact ⟨n, htext, congrArg some hvalue⟩
  exact toOption_eq_some_iff.1 ((readRelaxed_eq ht.spells).trans ht.value_eq)

/-- **A value that is printed over several lines is read back.** -/
theorem readRelaxed_pretty (h : v.Proper Number.Fits) : readRelaxed v.pretty = .ok v :=
  readRelaxed_write h (some 0)

/-- **A value that is printed on one line is read back.** -/
theorem readRelaxed_compact (h : v.Proper Number.Fits) : readRelaxed v.compact = .ok v :=
  readRelaxed_write h none

/-- An integer of 64 bits. -/
def Number.FitsInteger (number : Number) : Prop :=
  number.Fits ∧ ∃ z, number = .integer z

/-- **The strict reader reads back values without doubles**, if it can read them at all. -/
theorem read_pretty (h : v.Proper Number.FitsInteger) (hdepth : v.depth ≤ 127) :
    read v.pretty = .ok v := by
  -- no integer goes through the word rule, which does not read every double back
  obtain ⟨t, ht⟩ : ∃ t, Prints NumberText.strictValue? (some 0) v t := by
    refine exists_printed (fun x hx => ?_) h (some 0)
    obtain ⟨hfits, z, hz⟩ := hx
    obtain ⟨n, htext, -, hvalue⟩ := Number.exists_numberText hfits
    exact ⟨n, htext, hvalue z hz⟩
  refine toOption_eq_some_iff.1 ((read_eq ht.spells).trans ?_)
  rw [ht.depth_eq, if_pos hdepth, ht.value_eq]

end ReadBack

end RecordQuery.Json
