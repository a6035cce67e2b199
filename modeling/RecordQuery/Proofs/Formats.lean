import RecordQuery.Proofs.Lines
import RecordQuery.Proofs.Numbers

/-!
# One list of objects in two formats

Records are read from lines of JSON objects or from one array of them, and two readers
that have nothing to do with each other read the two. This file compares them on the same
objects, each of them any JSON text on one line (`RecordQuery.Records.ObjectText`).

What either format reads is known without running its reader: the entries of every object,
with the numbers read by the rule of the format
(`RecordQuery.Records.parse_lineText`, `RecordQuery.Records.parse_arrayText`). An object
that has no value makes the whole text unreadable, and apart from numbers only half of a
surrogate pair takes the value from an object, in both formats alike. Lines also refuse an
object in which more than 127 containers are inside one another, and a number that is out
of the range of doubles; the array has no such bounds, and null for the number.

So the formats agree on every list of objects that are not too deep and whose numbers both
rules read alike (`RecordQuery.Records.parse_formats`), and not on every list
(`RecordQuery.Records.not_parse_formats`). Where both can be read and still disagree, they
do so at numbers only, where each has the value of its own rule
(`RecordQuery.Json.AlikeEntries`).
-/

namespace RecordQuery

namespace Json

/-! ### Texts that start with a mark -/

/-- In front of a mark there is white space only. -/
theorem Spells.exists_mark {m : Mark} {ls : List Lexeme} {cs : List Char}
    (h : Spells (.mark m :: ls) cs) :
    ∃ gap rest, (∀ c ∈ gap, Text.isBlank c = true) ∧ cs = gap ++ m.char :: rest := by
  cases h with
  | @lexeme gap hgap _ _ rest _ =>
    refine ⟨gap, rest, fun c hc => ?_, rfl⟩
    have hc := hgap c hc
    simp only [isGap, Bool.or_eq_true, beq_iff_eq] at hc
    rcases hc with ((rfl | rfl) | rfl) | rfl <;> decide

theorem Spells.dropLast {ls : List Lexeme} {cs : List Char} (h : Spells ls cs)
    (hlast : cs.getLast? = some '\r') : Spells ls cs.dropLast := by
  induction h with
  | blank hgap => exact blank fun c hc => hgap c (List.dropLast_subset _ hc)
  | @lexeme gap hgap l ls rest h ih =>
    rcases List.eq_nil_or_concat rest with rfl | ⟨rest, c, rfl⟩
    · -- the return would be in the last lexeme
      rw [List.append_nil, List.getLast?_append_of_ne_nil _ l.text_ne_nil] at hlast
      have hcode := Lexeme.le_of_mem_text (List.mem_of_getLast? hlast)
      exact absurd hcode (by decide)
    · obtain rfl : c = '\r' := by simpa using hlast
      have hdropped : Spells ls rest := by simpa using ih (by simp)
      simpa using lexeme hgap l hdropped

/-- A carriage return at the end of a text is white space. -/
theorem Spells.dropReturn {ls : List Lexeme} {cs : List Char} (h : Spells ls cs) :
    Spells ls (Text.dropReturn cs) := by
  rw [Text.dropReturn]
  split
  · next hlast => exact h.dropLast hlast
  · exact h

end Json

namespace Records

open Json

/-! ### Objects and their two formats -/

/-- **A JSON object on one line**: any text of an object without a line feed. -/
structure ObjectText where
  /-- The members of the object. -/
  members : List (List Piece × Term)
  /-- The text. -/
  text : List Char
  /-- The text is one of the object. -/
  spells : Spells (Term.object members).lexemes text
  /-- The text is one line. -/
  oneLine : '\n' ∉ text

namespace ObjectText

/-- The object as a term. -/
def term (o : ObjectText) : Term :=
  .object o.members

/-- The entries of an object, given the values of numbers. -/
def entries? (number : NumberText → Option Value) (o : ObjectText) : Option Entries :=
  (Term.membersValue? number o.members).map entriesOf

theorem value?_term (number : NumberText → Option Value) (o : ObjectText) :
    o.term.value? number = (o.entries? number).map .object := by
  rw [term, Term.value?, entries?, Option.map_map]
  rfl

/-- The entries of an object in a line. -/
def lineEntries? (o : ObjectText) : Option Entries :=
  if o.term.depth ≤ 127 then o.entries? NumberText.strictValue? else none

/-- The entries of an object in an array. -/
def arrayEntries? (o : ObjectText) : Option Entries :=
  o.entries? fun n => some n.relaxedValue

/-- A line is read for the entries of its object. -/
theorem read_eq_ok_iff (o : ObjectText) {line : List Char} (h : Spells o.term.lexemes line)
    {entries : Entries} :
    read (String.ofList line) = .ok (.object entries) ↔ o.lineEntries? = some entries := by
  have hvalue : (read (String.ofList line)).toOption = o.lineEntries?.map .object := by
    rw [read_eq h, value?_term, lineEntries?]
    split <;> rfl
  constructor
  · intro hread
    rw [hread] at hvalue
    obtain ⟨others, hothers, heq⟩ := Option.map_eq_some_iff.1 hvalue.symm
    rw [hothers, Value.object.inj heq]
  · intro hentries
    rw [hentries] at hvalue
    generalize read _ = result at hvalue ⊢
    rcases result with fault | value
    · exact absurd hvalue (by simp [Except.toOption])
    · exact congrArg Except.ok (Option.some.inj hvalue)

end ObjectText

/-- Objects one a line. -/
def lineText (objects : List ObjectText) : String :=
  String.ofList (Text.join ['\n'] (objects.map ObjectText.text))

/-- Objects in an array. -/
def arrayText (objects : List ObjectText) : String :=
  String.ofList ('[' :: (Text.join [','] (objects.map ObjectText.text) ++ [']']))

/-! ### The array -/

theorem join_texts (cut : Char) (o : ObjectText) (objects : List ObjectText) :
    Text.join [cut] ((o :: objects).map ObjectText.text) =
      o.text ++ objects.flatMap fun next => cut :: next.text := by
  rw [List.map_cons, Text.join_cons_eq, List.flatMap_map]
  rfl

theorem spells_others (objects : List ObjectText) :
    Spells (Term.itemsLexemes false (objects.map ObjectText.term))
      (objects.flatMap fun o => ',' :: o.text) := by
  induction objects with
  | nil => exact Spells.flatMap []
  | cons o objects ih => exact (o.spells.append ih).cons (.mark .comma)

theorem spells_items (objects : List ObjectText) :
    Spells (Term.itemsLexemes true (objects.map ObjectText.term))
      (Text.join [','] (objects.map ObjectText.text)) := by
  cases objects with
  | nil => exact Spells.flatMap []
  | cons o objects =>
    rw [join_texts]
    exact o.spells.append (spells_others objects)

theorem spells_arrayText (objects : List ObjectText) :
    Spells (Term.array (objects.map ObjectText.term)).lexemes
      ('[' :: (Text.join [','] (objects.map ObjectText.text) ++ [']'])) :=
  ((spells_items objects).append (Spells.flatMap [.mark .closeArray])).cons (.mark .openArray)

theorem itemsValue?_terms (number : NumberText → Option Value) (objects : List ObjectText) :
    Term.itemsValue? number (objects.map ObjectText.term) =
      (objects.mapM (ObjectText.entries? number)).map (List.map .object) := by
  induction objects with
  | nil => rfl
  | cons o objects ih =>
    rw [List.map_cons, Term.itemsValue?, ObjectText.value?_term, ih, List.mapM_cons]
    cases o.entries? number with
    | none => rfl
    | some entries => cases objects.mapM (ObjectText.entries? number) <;> rfl

theorem ofValues_objects (source : String) (index : Nat) (records : List Entries) :
    ofValues source index (records.map .object) = .ok records := by
  induction records generalizing index with
  | nil => rfl
  | cons entries records ih =>
    rw [List.map_cons, ofValues, record]
    simp only [ih]

/-- **What an array of objects is read for.** -/
theorem parse_arrayText (objects : List ObjectText) (source : String) :
    (parse (arrayText objects) source).toOption =
      objects.mapM ObjectText.arrayEntries? := by
  have harray : isArray (arrayText objects) = true := by
    rw [isArray, arrayText, String.toList_ofList]
    rfl
  have hvalue := readRelaxed_eq (spells_arrayText objects)
  rw [Term.value?, itemsValue?_terms] at hvalue
  rw [parse, if_pos harray, arrayText]
  generalize readRelaxed _ = result at hvalue ⊢
  change _ = ((objects.mapM ObjectText.arrayEntries?).map _).map _ at hvalue
  rcases hrecords : objects.mapM ObjectText.arrayEntries? with _ | records
  · rw [hrecords] at hvalue
    rcases result with fault | value
    · rfl
    · exact absurd hvalue (by simp [Except.toOption])
  · rw [hrecords] at hvalue
    rcases result with fault | value
    · exact absurd hvalue (by simp [Except.toOption])
    · obtain rfl : value = .array (records.map .object) := Option.some.inj hvalue
      simp only [ofValues_objects]
      rfl

/-! ### The lines -/

theorem ObjectText.text_ne_nil (o : ObjectText) : o.text ≠ [] := by
  obtain ⟨gap, rest, -, htext⟩ := o.spells.exists_mark
  rw [htext]
  simp

/-- Every line is a text of its object. -/
theorem forall₂_lines (objects : List ObjectText) :
    List.Forall₂ (fun o line => Spells o.term.lexemes line) objects
      (Text.lines (Text.join ['\n'] (objects.map ObjectText.text))) := by
  induction objects with
  | nil => exact .nil
  | cons o objects ih =>
    cases objects with
    | nil =>
      rw [List.map_cons, List.map_nil, Text.join_singleton,
        Text.lines_of_notMem o.oneLine o.text_ne_nil]
      exact .cons o.spells .nil
    | cons next objects =>
      rw [List.map_cons, List.map_cons, Text.join_cons_cons, List.append_assoc,
        List.singleton_append, Text.lines_append_feed o.oneLine]
      exact .cons o.spells.dropReturn ih

theorem ofLines_spells {source : String} {objects : List ObjectText} {lines : List (List Char)}
    (h : List.Forall₂ (fun o line => Spells o.term.lexemes line) objects lines)
    (number index : Nat) :
    (ofLines source number index lines).toOption = objects.mapM ObjectText.lineEntries? := by
  induction h generalizing number index with
  | nil => rfl
  | @cons o line objects lines ho h ih =>
    obtain ⟨gap, rest, -, hline⟩ := ho.exists_mark
    have hwritten : isWritten line = true := by
      have hopen : Text.isBlank Mark.openObject.char = false := by decide
      simp [hline, isWritten, Text.allBlank, hopen]
    rw [List.mapM_cons]
    rcases hentries : o.lineEntries? with _ | entries
    · have hrecord : ¬ IsRecord line := by
        rintro ⟨entries, hread⟩
        rw [(o.read_eq_ok_iff ho).1 hread] at hentries
        cases hentries
      obtain ⟨error, hfails⟩ := exists_fails hrecord
      rw [ofLines_fails lines hwritten hfails]
      rfl
    · rw [ofLines_record lines hwritten ((o.read_eq_ok_iff ho).2 hentries),
        ← ih (number + 1) (index + 1)]
      cases ofLines source (number + 1) (index + 1) lines <;> rfl

/-- **What lines of objects are read for.** -/
theorem parse_lineText (objects : List ObjectText) (source : String) :
    (parse (lineText objects) source).toOption = objects.mapM ObjectText.lineEntries? := by
  have harray : isArray (lineText objects) = false := by
    cases objects with
    | nil => rfl
    | cons o objects =>
      obtain ⟨gap, rest, hgap, htext⟩ := o.spells.exists_mark
      rw [isArray, lineText, String.toList_ofList, join_texts, htext, List.append_assoc,
        Text.trimLeft, List.dropWhile_append_of_pos hgap]
      rfl
  rw [parse, harray, lineText, String.toList_ofList]
  exact ofLines_spells (forall₂_lines objects) 1 0

/-! ### When the formats agree -/

theorem isSome_mapM_iff {α β : Type} {f : α → Option β} {items : List α} :
    (items.mapM f).isSome = true ↔ ∀ item ∈ items, (f item).isSome = true := by
  induction items with
  | nil => simp
  | cons item items ih =>
    rw [List.mapM_cons, List.forall_mem_cons, ← ih]
    cases f item <;> cases items.mapM f <;> simp

/-- What holds of the two results for every item holds of all of them in order. -/
theorem forall₂_zip_of_mapM {α β γ : Type} {f : α → Option β} {g : α → Option γ}
    {R : α → β × γ → Prop} {items : List α}
    (hR : ∀ item ∈ items, ∀ result result', f item = some result → g item = some result' →
      R item (result, result'))
    {results : List β} {results' : List γ} (h : items.mapM f = some results)
    (h' : items.mapM g = some results') :
    results.length = results'.length ∧ List.Forall₂ R items (results.zip results') := by
  induction items generalizing results results' with
  | nil =>
    obtain rfl : [] = results := Option.some.inj h
    obtain rfl : [] = results' := Option.some.inj h'
    exact ⟨rfl, .nil⟩
  | cons item items ih =>
    obtain ⟨hitem, hitems⟩ := List.forall_mem_cons.1 hR
    rw [List.mapM_cons] at h h'
    obtain ⟨result, hresult, h⟩ := Option.bind_eq_some_iff.1 h
    obtain ⟨others, hothers, h⟩ := Option.bind_eq_some_iff.1 h
    obtain rfl : result :: others = results := Option.some.inj h
    obtain ⟨result', hresult', h'⟩ := Option.bind_eq_some_iff.1 h'
    obtain ⟨others', hothers', h'⟩ := Option.bind_eq_some_iff.1 h'
    obtain rfl : result' :: others' = results' := Option.some.inj h'
    obtain ⟨hlength, hrest⟩ := ih hitems hothers hothers'
    exact ⟨congrArg Nat.succ hlength, .cons (hitem result result' hresult hresult') hrest⟩

theorem mapM_congr {α β : Type} {f g : α → Option β} {items : List α}
    (h : ∀ item ∈ items, f item = g item) : items.mapM f = items.mapM g := by
  induction items with
  | nil => rfl
  | cons item items ih =>
    obtain ⟨hitem, hitems⟩ := List.forall_mem_cons.1 h
    rw [List.mapM_cons, List.mapM_cons, hitem, ih hitems]

/-- A function that has the results of another one, wherever that has any, has all of them. -/
theorem mapM_of_some {α β : Type} {f g : α → Option β} {items : List α}
    (hfg : ∀ item ∈ items, ∀ result, f item = some result → g item = some result)
    {results : List β} (h : items.mapM f = some results) : items.mapM g = some results := by
  have hsome := isSome_mapM_iff.1 (Option.isSome_of_eq_some h)
  refine (mapM_congr fun item hitem => ?_).trans h
  obtain ⟨result, hresult⟩ := Option.isSome_iff_exists.1 (hsome item hitem)
  rw [hresult, hfg item hitem result hresult]

namespace ObjectText

theorem isSome_entries?_iff (number : NumberText → Option Value) (o : ObjectText) :
    (o.entries? number).isSome = true ↔
      (∀ n ∈ o.term.numbers, (number n).isSome = true) ∧
        ∀ pieces ∈ o.term.strings, (decode pieces).isSome = true := by
  rw [← Term.isSome_value?_iff, value?_term, Option.isSome_map]

theorem isSome_lineEntries?_iff (o : ObjectText) :
    o.lineEntries?.isSome = true ↔ o.term.depth ≤ 127 ∧
      (∀ n ∈ o.term.numbers, n.strictValue?.isSome = true) ∧
        ∀ pieces ∈ o.term.strings, (decode pieces).isSome = true := by
  rw [lineEntries?, ← isSome_entries?_iff]
  split
  · next hdepth => simp [hdepth]
  · next hdepth => simp [hdepth]

theorem isSome_arrayEntries?_iff (o : ObjectText) :
    o.arrayEntries?.isSome = true ↔
      ∀ pieces ∈ o.term.strings, (decode pieces).isSome = true := by
  rw [arrayEntries?, isSome_entries?_iff]
  simp

/-- An object that is not too deep, and whose numbers are read alike, has the same entries
in both formats. -/
theorem lineEntries?_eq (o : ObjectText) (hdepth : o.term.depth ≤ 127)
    (hnumbers : ∀ n ∈ o.term.numbers, n.ReadAlike) : o.lineEntries? = o.arrayEntries? := by
  rw [lineEntries?, if_pos hdepth, arrayEntries?, entries?, entries?,
    Term.membersValue?_congr o.members hnumbers]

/-- The entries of an object in a line are those that the strict rule gives. -/
theorem entries?_of_lineEntries? (o : ObjectText) {entries : Entries}
    (h : o.lineEntries? = some entries) : o.entries? NumberText.strictValue? = some entries := by
  rw [lineEntries?] at h
  split at h
  · exact h
  · simp at h

/-- **Two readings of an object** have the same keys in the same order, and values that are
alike. -/
theorem alikeEntries {one other : NumberText → Option Value} (o : ObjectText)
    {entries entries' : Entries} (h : o.entries? one = some entries)
    (h' : o.entries? other = some entries') :
    AlikeEntries one other o.term.numbers entries entries' := by
  obtain ⟨members, hmembers, rfl⟩ := Option.map_eq_some_iff.1 h
  obtain ⟨members', hmembers', rfl⟩ := Option.map_eq_some_iff.1 h'
  exact (Term.alikeMembers o.members (fun n hn => hn) hmembers hmembers').entriesOf

/-- The text of an object without white space. -/
def compact (members : List (List Piece × Term)) : ObjectText where
  members := members
  text := (Term.object members).lexemes.flatMap Lexeme.text
  spells := Spells.flatMap _
  oneLine := by
    intro hmem
    obtain ⟨l, -, hl⟩ := List.mem_flatMap.1 hmem
    exact absurd (Lexeme.le_of_mem_text hl) (by decide)

end ObjectText

/-- **Lines and array of the same objects.** The array can be read if every text in it has
a meaning, and the lines if the array can, no object is too deep and no number out of
range. If both can be read, then for the values of the same objects in the same order, each
number read by the rule of its format, so that their records have the same keys in the same
order and the same values place by place, up to the two values of a number. The formats agree
if no object is too deep and all numbers are read alike, as integers of 64 bits but minus zero
are, and numbers that are rounded once. -/
theorem parse_formats (objects : List ObjectText) (source : String) :
    ((parse (arrayText objects) source).toOption.isSome = true ↔
      ∀ o ∈ objects, ∀ pieces ∈ o.term.strings, (decode pieces).isSome = true) ∧
    ((parse (lineText objects) source).toOption.isSome = true ↔
      (parse (arrayText objects) source).toOption.isSome = true ∧
        ∀ o ∈ objects, o.term.depth ≤ 127 ∧
          ∀ n ∈ o.term.numbers, n.strictValue?.isSome = true) ∧
    (∀ records records', (parse (lineText objects) source).toOption = some records →
      (parse (arrayText objects) source).toOption = some records' →
        objects.mapM (ObjectText.entries? NumberText.strictValue?) = some records ∧
          objects.mapM (ObjectText.entries? fun n => some n.relaxedValue) = some records' ∧
          records.length = records'.length ∧
          List.Forall₂ (fun o entries => AlikeEntries NumberText.strictValue?
            (fun n => some n.relaxedValue) o.term.numbers entries.1 entries.2)
            objects (records.zip records')) ∧
    ((∀ o ∈ objects, o.term.depth ≤ 127 ∧ ∀ n ∈ o.term.numbers, n.ReadAlike) →
      (parse (lineText objects) source).toOption =
        (parse (arrayText objects) source).toOption) ∧
    ∀ n : NumberText, n.IsPlain → n.ReadAlike := by
  have hlines := parse_lineText objects source
  have harray := parse_arrayText objects source
  refine ⟨?_, ?_, fun records records' h h' => ?_, fun h => ?_,
    fun n => NumberText.readAlike_of_isPlain⟩
  · simp only [harray, isSome_mapM_iff, ObjectText.isSome_arrayEntries?_iff]
  · simp only [hlines, harray, isSome_mapM_iff, ObjectText.isSome_lineEntries?_iff,
      ObjectText.isSome_arrayEntries?_iff]
    constructor
    · intro h
      exact ⟨fun o ho => (h o ho).2.2, fun o ho => ⟨(h o ho).1, (h o ho).2.1⟩⟩
    · rintro ⟨hstrings, h⟩ o ho
      exact ⟨(h o ho).1, (h o ho).2, hstrings o ho⟩
  · have hstrict : objects.mapM (ObjectText.entries? NumberText.strictValue?) = some records :=
      mapM_of_some (fun o _ entries => o.entries?_of_lineEntries?) (hlines.symm.trans h)
    have hrelaxed : objects.mapM (ObjectText.entries? fun n => some n.relaxedValue) =
      some records' := harray.symm.trans h'
    exact ⟨hstrict, hrelaxed, forall₂_zip_of_mapM
      (fun o _ entries entries' he he' => o.alikeEntries he he') hstrict hrelaxed⟩
  · rw [hlines, harray]
    exact mapM_congr fun o ho => o.lineEntries?_eq (h o ho).1 (h o ho).2

/-- A digit by its value. -/
def digit (value : Nat) : Fin 10 :=
  ⟨value % 10, Nat.mod_lt value (Nat.succ_pos 9)⟩

/-- One digit before the point may be a zero. -/
theorem leadingZero_digit (first : Fin 10) : first = 0 → (Digits.mk first []).others = [] :=
  fun _ => rfl

/-- A number with one digit before the point. -/
def short (negative : Bool) (first : Fin 10) (fraction : Option Digits)
    (power : Option PowerText) : Term :=
  .number ⟨negative, ⟨first, []⟩, fraction, power, leadingZero_digit first⟩

/-- An object with the field `a`. -/
def single (member : Term) : ObjectText :=
  .compact [([.plain 'a' (by decide)], member)]

/-- The number `1.5e2`, and an array with an escape and an integer. -/
def sampleObjects : List ObjectText :=
  [single (short false (digit 1) (some ⟨digit 5, []⟩) (some ⟨false, none, ⟨digit 2, []⟩⟩)),
    single (.array [.word .null, .string [.short .tab], short true (digit 7) none none])]

theorem parse_formats_sample :
    (∀ o ∈ sampleObjects, o.term.depth ≤ 127 ∧ ∀ n ∈ o.term.numbers, n.ReadAlike) ∧
      (parse (lineText sampleObjects) "r").toOption =
        (parse (arrayText sampleObjects) "r").toOption ∧
      (parse (arrayText sampleObjects) "r").toOption.isSome = true := by
  obtain ⟨hread, -, -, hagree, hplain⟩ := parse_formats sampleObjects "r"
  have hnumbers : ∀ o ∈ sampleObjects, ∀ n ∈ o.term.numbers, n.IsPlain := by decide
  have hdepth : ∀ o ∈ sampleObjects, o.term.depth ≤ 127 := by decide
  have halike : ∀ o ∈ sampleObjects, o.term.depth ≤ 127 ∧ ∀ n ∈ o.term.numbers, n.ReadAlike :=
    fun o ho => ⟨hdepth o ho, fun n hn => hplain n (hnumbers o ho n hn)⟩
  exact ⟨halike, hagree halike, hread.2 (by decide)⟩

/-- Arrays inside one another. -/
def nested : Nat → Term
  | 0 => .array []
  | levels + 1 => .array [nested levels]

/-- Minus zero, a double in a line and an integer in an array. -/
def minusZero : ObjectText :=
  single (short true (digit 0) none none)

/-- The number `1e400`, above all doubles. -/
def tooLarge : ObjectText :=
  single (short false (digit 1) none (some ⟨false, none, ⟨digit 4, [digit 0, digit 0]⟩⟩))

/-- The number `3e23`, which needs a second rounding since `1e23` is no double. -/
def roundedTwice : ObjectText :=
  single (short false (digit 3) none (some ⟨false, none, ⟨digit 2, [digit 3]⟩⟩))

/-- 127 arrays in an object. -/
def tooDeep : ObjectText :=
  single (nested 126)

/-- Two lists of records are different if they are written differently. -/
theorem ne_of_texts_ne {one other : Option (List Entries)}
    (h : one.map (List.map fun e => (Value.object e).compact) ≠
      other.map (List.map fun e => (Value.object e).compact)) : one ≠ other := by
  rintro rfl
  exact h rfl

/-- **The formats do not agree on all objects**: neither on minus zero, nor on a number that
is too large or rounded twice, nor on an object that is too deep. -/
theorem not_parse_formats :
    (parse (lineText [minusZero]) "r").toOption ≠
        (parse (arrayText [minusZero]) "r").toOption ∧
      (parse (lineText [tooLarge]) "r").toOption ≠
        (parse (arrayText [tooLarge]) "r").toOption ∧
      (parse (lineText [roundedTwice]) "r").toOption ≠
        (parse (arrayText [roundedTwice]) "r").toOption ∧
      (parse (lineText [tooDeep]) "r").toOption ≠
        (parse (arrayText [tooDeep]) "r").toOption := by
  simp only [parse_lineText, parse_arrayText]
  refine ⟨ne_of_texts_ne ?_, ne_of_texts_ne ?_, ne_of_texts_ne ?_, ne_of_texts_ne ?_⟩
  all_goals decide +kernel

end Records

end RecordQuery
