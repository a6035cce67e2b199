import Mathlib.Data.List.Basic
import RecordQuery.Query.Phrase

/-!
# Names and what separates them

A list of names is written with a separator between neighbours, and any of the two
separators will do: cutting the text again gives back the names
(`RecordQuery.Query.FieldList.parse_spell`). The other way round a text is cut into
names without separators (`RecordQuery.Text.isCut_of_mem_pieces`), whose text with bars
is the text with every comma turned into a bar
(`RecordQuery.Query.FieldList.text_parse`); so the names are the pieces of that text
between its bars (`RecordQuery.Query.FieldList.parse_eq_pieces`).

The text of names is one such spelling, so names without separators come back from it
(`RecordQuery.Query.FieldList.parse_text`), if there are any: the empty text is one empty name,
and no text gives the list without names.
-/

namespace RecordQuery

namespace Text

/-! ### Joining and cutting -/

theorem join_cons_eq (separator first : List Char) (others : List (List Char)) :
    join separator (first :: others) = first ++ others.flatMap (separator ++ ·) := by
  induction others generalizing first with
  | nil => simp
  | cons next others ih =>
    rw [join_cons_cons, ih, List.flatMap_cons]
    simp only [List.append_assoc]

/-- Joined pieces are pieces with a separator behind each, and the last one. -/
theorem join_concat (separator last : List Char) (front : List (List Char)) :
    join separator (front ++ [last]) = front.flatMap (· ++ separator) ++ last := by
  induction front with
  | nil => rfl
  | cons first front ih =>
    rw [List.flatMap_cons, List.append_assoc, ← ih]
    cases front <;> rfl

/-- What is in a joined text is in its separator or in one of its pieces. -/
theorem mem_join {separator : List Char} {ps : List (List Char)} {c : Char}
    (h : c ∈ join separator ps) : c ∈ separator ∨ ∃ piece ∈ ps, c ∈ piece := by
  cases ps with
  | nil => exact absurd h List.not_mem_nil
  | cons first others =>
    rw [join_cons_eq, List.mem_append, List.mem_flatMap] at h
    rcases h with h | ⟨piece, hpiece, h⟩
    · exact .inr ⟨first, List.mem_cons_self, h⟩
    · rcases List.mem_append.1 h with h | h
      · exact .inl h
      · exact .inr ⟨piece, List.mem_cons_of_mem _ hpiece, h⟩

section Pieces

variable {isCut : Char → Bool}

/-- A text without a cut is one piece. -/
theorem pieces_of_uncut {piece : List Char} (h : ∀ c ∈ piece, isCut c = false) :
    pieces isCut piece = [piece] := by
  induction piece with
  | nil => rfl
  | cons c piece ih =>
    rw [pieces_cons, if_neg (by simp [h c]), ih fun d hd => h d (by simp [hd])]
    rfl

/-- A cut behind a text without one ends the first piece. -/
theorem pieces_append_cut {piece : List Char} (h : ∀ c ∈ piece, isCut c = false) {c : Char}
    (hc : isCut c = true) (rest : List Char) :
    pieces isCut (piece ++ c :: rest) = piece :: pieces isCut rest := by
  induction piece with
  | nil => rw [List.nil_append, pieces_cons, if_pos hc]
  | cons d piece ih =>
    rw [List.cons_append, pieces_cons, if_neg (by simp [h d]), ih fun e he => h e (by simp [he])]
    rfl

/-- **The pieces of a text have no cut** and only characters of the text. -/
theorem isCut_of_mem_pieces {text piece : List Char} {c : Char} (h : piece ∈ pieces isCut text)
    (hc : c ∈ piece) : isCut c = false ∧ c ∈ text := by
  induction text generalizing piece with
  | nil =>
    obtain rfl : piece = [] := by simpa using h
    exact absurd hc (by simp)
  | cons d text ih =>
    rw [pieces_cons] at h
    split at h
    · rcases List.mem_cons.1 h with rfl | h
      · exact absurd hc (by simp)
      · exact (ih h hc).imp_right (List.mem_cons_of_mem d)
    · next hd =>
      obtain ⟨first, rest, hpieces⟩ := List.exists_cons_of_ne_nil (pieces_ne_nil isCut text)
      rw [hpieces, consPiece] at h
      rw [hpieces] at ih
      rcases List.mem_cons.1 h with rfl | h
      · rcases List.mem_cons.1 hc with rfl | hc
        · exact ⟨by simpa using hd, by simp⟩
        · exact (ih (by simp) hc).imp_right (List.mem_cons_of_mem d)
      · exact (ih (by simp [h]) hc).imp_right (List.mem_cons_of_mem d)

/-- Joining the pieces of a text puts the separator in the place of every cut. -/
theorem join_pieces_eq_flatMap (separator text : List Char) :
    join separator (pieces isCut text) =
      text.flatMap fun c => if isCut c then separator else [c] := by
  induction text with
  | nil => rfl
  | cons c text ih =>
    obtain ⟨first, rest, hpieces⟩ := List.exists_cons_of_ne_nil (pieces_ne_nil isCut text)
    rw [pieces_cons, List.flatMap_cons, ← ih]
    split
    · rw [hpieces, join_cons_cons]
      rfl
    · exact join_consPiece _ _ (pieces_ne_nil isCut text)

theorem join_pieces_eq_map (cut : Char) (text : List Char) :
    join [cut] (pieces isCut text) = text.map fun c => if isCut c then cut else c := by
  rw [join_pieces_eq_flatMap, List.map_eq_flatMap]
  refine List.flatMap_congr fun c _ => ?_
  split <;> rfl

/-- Characters can be replaced before cutting if the cuts stay cuts and nothing else is
replaced. -/
theorem pieces_map {isCut isCut' : Char → Bool} {f : Char → Char}
    (hcut : ∀ c, isCut' (f c) = isCut c) (hkeep : ∀ c, isCut c = false → f c = c)
    (text : List Char) : pieces isCut' (text.map f) = pieces isCut text := by
  induction text with
  | nil => rfl
  | cons c text ih =>
    rw [List.map_cons, pieces_cons, pieces_cons, ih, hcut]
    cases hc : isCut c with
    | true => rfl
    | false => rw [hkeep c hc]

end Pieces

end Text

namespace Query

/-! ### Names as they are written -/

/-- Names with a separator in front of each but the first. -/
def spell (first : List Char) (others : List (Char × List Char)) : List Char :=
  first ++ others.flatMap fun other => other.1 :: other.2

@[simp] theorem spell_none (first : List Char) : spell first [] = first := by
  simp [spell]

@[simp] theorem spell_some (first : List Char) (other : Char × List Char)
    (others : List (Char × List Char)) :
    spell first (other :: others) = first ++ other.1 :: spell other.2 others := by
  simp [spell]

theorem spell_eq_nil_iff {first : List Char} {others : List (Char × List Char)} :
    spell first others = [] ↔ first = [] ∧ others = [] := by
  cases others <;> simp

theorem mem_spell {first : List Char} {others : List (Char × List Char)} {c : Char}
    (h : c ∈ spell first others) :
    c ∈ first ∨ ∃ other ∈ others, c = other.1 ∨ c ∈ other.2 := by
  simpa [spell] using h

/-- Bars between names. -/
theorem join_eq_spell (cut : Char) (first : List Char) (others : List (List Char)) :
    Text.join [cut] (first :: others) = spell first (others.map fun name => (cut, name)) := by
  rw [Text.join_cons_eq, spell, List.flatMap_map]
  rfl

/-- **Names written with any separators are cut into these names.** -/
theorem pieces_spell {isCut : Char → Bool} {first : List Char}
    {others : List (Char × List Char)} (hfirst : ∀ c ∈ first, isCut c = false)
    (hothers : ∀ other ∈ others, isCut other.1 = true ∧ ∀ c ∈ other.2, isCut c = false) :
    Text.pieces isCut (spell first others) = first :: others.map Prod.snd := by
  induction others generalizing first with
  | nil => rw [spell_none, Text.pieces_of_uncut hfirst]; rfl
  | cons other others ih =>
    obtain ⟨hsep, hname⟩ := hothers other (by simp)
    rw [spell_some, Text.pieces_append_cut hfirst hsep,
      ih hname fun next hnext => hothers next (by simp [hnext])]
    rfl

/-- Names joined by a cut are the pieces of what they are joined to. -/
theorem pieces_join {isCut : Char → Bool} {cut : Char} (hcut : isCut cut = true)
    {names : List (List Char)} (hne : names ≠ [])
    (huncut : ∀ name ∈ names, ∀ c ∈ name, isCut c = false) :
    Text.pieces isCut (Text.join [cut] names) = names := by
  obtain ⟨first, others, rfl⟩ := List.exists_cons_of_ne_nil hne
  obtain ⟨hfirst, hothers⟩ := List.forall_mem_cons.1 huncut
  rw [join_eq_spell, pieces_spell hfirst]
  · simp [Function.comp_def]
  · intro other hother
    obtain ⟨name, hname, rfl⟩ := List.mem_map.1 hother
    exact ⟨hcut, hothers name hname⟩

namespace FieldList

theorem isSeparator_eq_false_iff {c : Char} : isSeparator c = false ↔ c ≠ ',' ∧ c ≠ '|' := by
  rw [isSeparator, Bool.or_eq_false_iff, beq_eq_false_iff_ne, beq_eq_false_iff_ne, and_comm]

/-- **Reading names written with any separators** gives back the names. -/
theorem parse_spell {first : List Char} {others : List (Char × List Char)}
    (hfirst : ∀ c ∈ first, isSeparator c = false)
    (hothers : ∀ other ∈ others, isSeparator other.1 = true ∧
      ∀ c ∈ other.2, isSeparator c = false) :
    parse (String.ofList (spell first others)) =
      ⟨(first :: others.map Prod.snd).map String.ofList⟩ := by
  rw [parse, String.toList_ofList, pieces_spell hfirst hothers]

theorem toList_text (fields : FieldList) :
    fields.text.toList = Text.join ['|'] (fields.names.map String.toList) := by
  rw [text, Text.joinStrings, String.toList_ofList]
  rfl

theorem toList_text_ofList (names : List (List Char)) :
    (text ⟨names.map String.ofList⟩).toList = Text.join ['|'] names := by
  rw [toList_text, List.map_map]
  simp [Function.comp_def]

/-- **The text of a list that was read** is what was read, its commas turned into
bars. -/
theorem text_parse (spec : String) :
    (parse spec).text =
      String.ofList (spec.toList.map fun c => if isSeparator c then '|' else c) := by
  apply String.toList_inj.1
  rw [parse, toList_text_ofList, Text.join_pieces_eq_map, String.toList_ofList]

/-- **A comma is read like a bar**: the names are what is left between the bars once every
comma is turned into one. -/
theorem parse_eq_pieces (spec : List Char) :
    parse (String.ofList spec) =
      ⟨(Text.pieces (· == '|') (spec.map fun c => if c = ',' then '|' else c)).map
        String.ofList⟩ := by
  have hcut : ∀ c, ((if c = ',' then '|' else c) == '|') = isSeparator c := by
    intro c
    by_cases hc : c = ','
    · rw [if_pos hc, hc]
      rfl
    · simp [isSeparator, hc]
  have hkeep : ∀ c, isSeparator c = false → (if c = ',' then '|' else c) = c :=
    fun c hc => if_neg (isSeparator_eq_false_iff.1 hc).1
  rw [Text.pieces_map hcut hkeep, parse, String.toList_ofList]

/-! ### Names and their separators -/

/-- A text has no separator if it has no comma and no bar. -/
theorem uncut_iff {text : List Char} :
    (∀ c ∈ text, isSeparator c = false) ↔ ',' ∉ text ∧ '|' ∉ text := by
  simp only [isSeparator_eq_false_iff]
  refine ⟨fun h => ⟨fun hmem => (h _ hmem).1 rfl, fun hmem => (h _ hmem).2 rfl⟩, ?_⟩
  rintro ⟨hcomma, hbar⟩ c hc
  exact ⟨ne_of_mem_of_not_mem hc hcomma, ne_of_mem_of_not_mem hc hbar⟩

theorem countP_isSeparator (text : List Char) :
    text.countP isSeparator = text.count ',' + text.count '|' := by
  induction text with
  | nil => rfl
  | cons c text ih =>
    rw [List.countP_cons, List.count_cons, List.count_cons, ih]
    by_cases hcomma : c = ','
    · subst hcomma
      simp [isSeparator, Nat.add_right_comm]
    · by_cases hbar : c = '|' <;> simp [isSeparator, hcomma, hbar, Nat.add_assoc]

theorem barred_eq (c : Char) :
    (if isSeparator c then '|' else c) = if c = ',' then '|' else c := by
  by_cases hcomma : c = ','
  · simp [isSeparator, hcomma]
  · by_cases hbar : c = '|' <;> simp [isSeparator, hcomma, hbar]

/-- Names with separators between them, which may be different ones. -/
def mixed : List String → List Char → String
  | [], _ => ""
  | first :: others, separators =>
    String.ofList (spell first.toList (separators.zip (others.map String.toList)))

section Free

variable {names : List String}
  (hfree : ∀ name ∈ names, ',' ∉ name.toList ∧ '|' ∉ name.toList)
include hfree

/-- **Reading names with any separators between them** gives back the names. -/
theorem parse_mixed {separators : List Char} (hlength : names.length = separators.length + 1)
    (hseparators : ∀ c ∈ separators, c = ',' ∨ c = '|') :
    parse (mixed names separators) = ⟨names⟩ := by
  obtain ⟨first, others, rfl⟩ := List.exists_cons_of_length_eq_add_one hlength
  obtain ⟨hfirst, hothers⟩ := List.forall_mem_cons.1 hfree
  have hsnd : (separators.zip (others.map String.toList)).map Prod.snd =
      others.map String.toList := by
    apply List.map_snd_zip
    rw [List.length_map]
    exact Nat.le_of_eq (Nat.succ.inj hlength)
  rw [mixed, parse_spell (uncut_iff.2 hfirst), hsnd]
  · simp [Function.comp_def]
  · rintro ⟨separator, letters⟩ hmem
    obtain ⟨hseparator, hletters⟩ := List.of_mem_zip hmem
    obtain ⟨name, hname, rfl⟩ := List.mem_map.1 hletters
    refine ⟨?_, uncut_iff.2 (hothers name hname)⟩
    rcases hseparators separator hseparator with rfl | rfl <;> rfl

/-- **Reading the text of names** gives back the names. -/
theorem parse_text (hne : names ≠ []) : parse (text ⟨names⟩) = ⟨names⟩ := by
  have huncut : ∀ piece ∈ names.map String.toList, ∀ c ∈ piece, isSeparator c = false := by
    intro piece hpiece
    obtain ⟨name, hname, rfl⟩ := List.mem_map.1 hpiece
    exact uncut_iff.2 (hfree name hname)
  rw [parse, toList_text, pieces_join rfl (mt List.map_eq_nil_iff.1 hne) huncut]
  simp [Function.comp_def]

end Free

/-- **Reading names and writing them undo one another**: a text gives one name more than it has
separators, no name with a separator in it, and the text itself with bars for its commas; and
names without separators, empty and repeated ones included, come back from any text that has them
in this order with separators between them, that with bars among others. -/
theorem parse_roundtrip :
    (∀ spec : String,
      (parse spec).names.length = spec.toList.count ',' + spec.toList.count '|' + 1 ∧
        (∀ name ∈ (parse spec).names, ',' ∉ name.toList ∧ '|' ∉ name.toList) ∧
        (parse spec).text = spec.map fun c => if c = ',' then '|' else c) ∧
      ∀ names : List String, names ≠ [] →
        (∀ name ∈ names, ',' ∉ name.toList ∧ '|' ∉ name.toList) →
          (∀ separators : List Char, names.length = separators.length + 1 →
            (∀ c ∈ separators, c = ',' ∨ c = '|') →
              parse (mixed names separators) = ⟨names⟩) ∧
            parse (text ⟨names⟩) = ⟨names⟩ := by
  refine ⟨fun spec => ⟨?_, fun name hname => ?_, ?_⟩, fun names hne hfree =>
    ⟨fun separators hlength => parse_mixed hfree hlength, parse_text hfree hne⟩⟩
  · rw [length_parse, countP_isSeparator]
  · obtain ⟨piece, hpiece, rfl⟩ := List.mem_map.1 hname
    rw [String.toList_ofList]
    exact uncut_iff.1 fun c hc => (Text.isCut_of_mem_pieces hpiece hc).1
  · rw [text_parse]
    apply String.toList_inj.1
    simp only [String.toList_ofList, String.toList_map, barred_eq]

/-- Two empty names at the ends and one between two names that are the same. -/
def gapNames : List String :=
  ["", "a", "", "a", ""]

/-- Separators of both kinds, two of them next to one another. -/
def gapSeparators : List Char :=
  [',', '|', ',', ',']

/-- The list of one empty name comes back from the empty text. -/
theorem parse_roundtrip_gaps :
    gapNames ≠ [] ∧ (∀ name ∈ gapNames, ',' ∉ name.toList ∧ '|' ∉ name.toList) ∧
      gapNames.length = gapSeparators.length + 1 ∧ (∀ c ∈ gapSeparators, c = ',' ∨ c = '|') ∧
      parse ",a|,a," = ⟨gapNames⟩ ∧ parse "|a||a|" = ⟨gapNames⟩ ∧ parse "" = ⟨[""]⟩ := by
  obtain ⟨-, hnames⟩ := parse_roundtrip
  have hne : gapNames ≠ [] := List.cons_ne_nil _ _
  have hfree : ∀ name ∈ gapNames, ',' ∉ name.toList ∧ '|' ∉ name.toList := by decide
  have hseparators : ∀ c ∈ gapSeparators, c = ',' ∨ c = '|' := by simp [gapSeparators]
  obtain ⟨hmixed, htext⟩ := hnames gapNames hne hfree
  have hempty := (hnames [""] (List.cons_ne_nil _ _) (by decide)).2
  exact ⟨hne, hfree, rfl, hseparators, hmixed gapSeparators rfl hseparators, htext, hempty⟩

end FieldList

end Query

end RecordQuery
