import Mathlib.Data.List.Forall2
import RecordQuery.Proofs.Names
import RecordQuery.Records

/-!
# Records one a line

A text of records that is not an array is read line by line, and two counts go along: that of
the lines, blank ones included, and that of the records. The first line that is wrong ends the
reading, and its error tells one of the counts. This file says what comes of it without
following the loop (`RecordQuery.Records.parse_lines`).

There are three kinds of lines. A **blank** one moves the count of lines only, one that **is a
record** moves both (`RecordQuery.Records.IsRecord`), and of any other the error is known from
the two counts in front of it (`RecordQuery.Records.Fails`). So what lines give behind others
is what they give alone, with the counts moved by those in front
(`RecordQuery.Records.ofLines_append`), and neither count depends on anything but the lines
themselves: the records number as many as the lines that are not blank.

What the lines of a text are is said by cutting it at its first line feed and going on behind it
(`RecordQuery.Text.IsLines`).
-/

namespace RecordQuery

namespace Text

/-! ### Lines of a text -/

/-- **The lines of a text.** -/
inductive IsLines : (text : List Char) → (lines : List (List Char)) → Prop
  /-- Behind the last line feed there may be nothing. -/
  | done : IsLines [] []
  /-- What no line feed ends is a line. -/
  | last {line : List Char} (hne : line ≠ []) (hline : '\n' ∉ line) : IsLines line [line]
  /-- A line feed ends a line. -/
  | feed {line rest : List Char} {lines : List (List Char)} (hline : '\n' ∉ line)
      (hreturn : line.getLast? ≠ some '\r') (hrest : IsLines rest lines) :
      IsLines (line ++ '\n' :: rest) (line :: lines)
  /-- A carriage return right in front of a line feed is not part of the line. -/
  | returned {line rest : List Char} {lines : List (List Char)} (hline : '\n' ∉ line)
      (hrest : IsLines rest lines) : IsLines (line ++ '\r' :: '\n' :: rest) (line :: lines)

section Lines

variable {line : List Char} (hline : '\n' ∉ line)
include hline

theorem ne_feed_of_mem : ∀ c ∈ line, (c == '\n') = false := by
  intro c hc
  refine beq_eq_false_iff_ne.2 ?_
  rintro rfl
  exact hline hc

/-- A text without a line feed is one line, unless it is empty. -/
theorem lines_of_notMem (hne : line ≠ []) : lines line = [line] := by
  have hfilter : [line].filter (fun last => !last.isEmpty) = [line] := by
    simpa using hne
  rw [lines, pieces_of_uncut (ne_feed_of_mem hline)]
  exact hfilter

/-- **A line feed ends the first line.** -/
theorem lines_append_feed (rest : List Char) :
    lines (line ++ '\n' :: rest) = dropReturn line :: lines rest := by
  rw [lines, pieces_append_cut (ne_feed_of_mem hline) rfl, lines]
  obtain ⟨first, others, hpieces⟩ :=
    List.exists_cons_of_ne_nil (pieces_ne_nil (· == '\n') rest)
  rw [hpieces]
  rfl

end Lines

theorem dropReturn_of_ne {line : List Char} (h : line.getLast? ≠ some '\r') :
    dropReturn line = line :=
  if_neg h

theorem dropReturn_append (line : List Char) : dropReturn (line ++ ['\r']) = line := by
  rw [dropReturn, if_pos (by simp), List.dropLast_concat]

/-- Every text has its lines: by recursion, behind the first line feed. -/
theorem isLines_lines (text : List Char) : IsLines text (lines text) := by
  by_cases hfeed : '\n' ∈ text
  · obtain ⟨line, rest, htext, hline⟩ := List.eq_append_cons_of_mem hfeed
    have hrest := isLines_lines rest
    rw [htext, lines_append_feed hline]
    by_cases hreturn : line.getLast? = some '\r'
    · obtain ⟨shorter, rfl⟩ := List.getLast?_eq_some_iff.1 hreturn
      rw [dropReturn_append, List.append_assoc]
      exact .returned (fun hmem => hline (List.mem_append_left _ hmem)) hrest
    · rw [dropReturn_of_ne hreturn]
      exact .feed hline hreturn hrest
  · by_cases hne : text = []
    · rw [hne]
      exact .done
    · rw [lines_of_notMem hfeed hne]
      exact .last hne hfeed
termination_by text.length
decreasing_by
  rw [htext, List.length_append, List.length_cons]
  omega

theorem IsLines.eq_lines {text : List Char} {cut : List (List Char)} (h : IsLines text cut) :
    cut = lines text := by
  induction h with
  | done => rfl
  | last hne hline => rw [lines_of_notMem hline hne]
  | feed hline hreturn _ ih => rw [lines_append_feed hline, dropReturn_of_ne hreturn, ← ih]
  | @returned line rest cut hline _ ih =>
    have hreturn : '\n' ∉ line ++ ['\r'] := by
      rw [List.mem_append]
      exact fun hmem => hmem.elim hline (by simp)
    have hsplit : line ++ '\r' :: '\n' :: rest = (line ++ ['\r']) ++ '\n' :: rest := by simp
    rw [hsplit, lines_append_feed hreturn, dropReturn_append, ← ih]

/-- **The lines of a text are those it is cut into.** -/
theorem isLines_iff {text : List Char} {cut : List (List Char)} :
    IsLines text cut ↔ cut = lines text := by
  constructor
  · exact IsLines.eq_lines
  · rintro rfl
    exact isLines_lines text

end Text

namespace Records

open RecordQuery.Json (Entries Value)

/-! ### One line -/

/-- Whether a line is not blank. -/
def isWritten (line : List Char) : Bool :=
  !Text.allBlank line

/-- **Whether a line is a record**: a JSON object. -/
def IsRecord (line : List Char) : Prop :=
  ∃ entries, Json.read (String.ofList line) = .ok (.object entries)

/-- The entries of a line that is a record. -/
def entries? (line : List Char) : Option Entries :=
  match Json.read (String.ofList line) with
  | .ok (.object entries) => some entries
  | _ => none

theorem isRecord_iff {line : List Char} : IsRecord line ↔ (entries? line).isSome = true := by
  rw [IsRecord, entries?]
  rcases Json.read (String.ofList line) with fault | value
  · simp
  · cases value <;> simp

instance : DecidablePred IsRecord := fun _ =>
  decidable_of_iff _ isRecord_iff.symm

/-- Whether every line that is not blank is a record. -/
def AreRecords (lines : List (List Char)) : Prop :=
  ∀ line ∈ lines, isWritten line = true → IsRecord line

instance : DecidablePred AreRecords := fun lines =>
  inferInstanceAs (Decidable (∀ line ∈ lines, isWritten line = true → IsRecord line))

/-- **How a line fails** that is neither blank nor a record, given its number and the number of
records in front of it. -/
inductive Fails (source : String) (number index : Nat) (line : List Char) : Error → Prop
  /-- A line that is no JSON value fails with its number. -/
  | invalid {fault : Json.Fault} (h : Json.read (String.ofList line) = .error fault) :
      Fails source number index line (.invalidLine source number fault)
  /-- A line that is another value fails with the number of records. -/
  | notAnObject {value : Value} (h : Json.read (String.ofList line) = .ok value)
      (hvalue : ∀ entries, value ≠ .object entries) :
      Fails source number index line (.notAnObject source index)

section Line

variable {source : String} {number index : Nat} {line : List Char}

/-- A line that is not a record fails. -/
theorem exists_fails (h : ¬ IsRecord line) : ∃ error, Fails source number index line error := by
  rcases hread : Json.read (String.ofList line) with fault | value
  · exact ⟨_, .invalid hread⟩
  · refine ⟨_, .notAnObject hread fun entries hvalue => h ⟨entries, ?_⟩⟩
    rw [hread, hvalue]

/-- Another value is no record. -/
theorem record_of_ne {value : Value} (hvalue : ∀ entries, value ≠ .object entries) :
    record source index value = .error (.notAnObject source index) := by
  cases value with
  | object entries => exact absurd rfl (hvalue entries)
  | _ => rfl

variable (lines : List (List Char))

/-- A blank line counts as a line. -/
theorem ofLines_blank (h : isWritten line = false) :
    ofLines source number index (line :: lines) = ofLines source (number + 1) index lines := by
  rw [ofLines, if_pos (by simpa [isWritten] using h)]

/-- A record counts as a line and as a record. -/
theorem ofLines_record (h : isWritten line = true) {entries : Entries}
    (hread : Json.read (String.ofList line) = .ok (.object entries)) :
    ofLines source number index (line :: lines) =
      (ofLines source (number + 1) (index + 1) lines).map (entries :: ·) := by
  rw [ofLines, if_neg (by simpa [isWritten] using h), hread]
  simp only [record]
  cases ofLines source (number + 1) (index + 1) lines <;> rfl

/-- A line that fails ends the reading. -/
theorem ofLines_fails (h : isWritten line = true) {error : Error}
    (hfails : Fails source number index line error) :
    ofLines source number index (line :: lines) = .error error := by
  rw [ofLines, if_neg (by simpa [isWritten] using h)]
  cases hfails with
  | invalid hread => rw [hread]
  | notAnObject hread hvalue =>
    rw [hread]
    simp only [record_of_ne hvalue]

end Line

/-! ### Lines behind one another -/

section Run

variable {source : String}

/-- **Lines behind others** are read as alone, with the counts moved by those in front. -/
theorem ofLines_append (number index : Nat) (lines others : List (List Char)) :
    ofLines source number index (lines ++ others) =
      (ofLines source number index lines).bind fun records =>
        (ofLines source (number + lines.length) (index + records.length) others).map
          (records ++ ·) := by
  induction lines generalizing number index with
  | nil =>
    have hnil : ofLines source number index [] = .ok [] := rfl
    rw [List.nil_append, hnil]
    cases hothers : ofLines source number index others <;> simp [Except.bind, Except.map, hothers]
  | cons line lines ih =>
    have hnumber : number + 1 + lines.length = number + (line :: lines).length := by
      rw [List.length_cons]
      omega
    rw [List.cons_append]
    cases hwritten : isWritten line with
    | false => rw [ofLines_blank _ hwritten, ofLines_blank _ hwritten, ih, hnumber]
    | true =>
      by_cases hrecord : IsRecord line
      · obtain ⟨entries, hread⟩ := hrecord
        rw [ofLines_record _ hwritten hread, ofLines_record _ hwritten hread, ih, hnumber]
        cases ofLines source (number + 1) (index + 1) lines with
        | error error => rfl
        | ok records =>
          have hindex : index + 1 + records.length = index + (entries :: records).length := by
            rw [List.length_cons]
            omega
          simp only [Except.bind, Except.map, hindex]
          cases ofLines source (number + (line :: lines).length)
            (index + (entries :: records).length) others <;> rfl
      · obtain ⟨error, hfails⟩ := exists_fails hrecord
        rw [ofLines_fails _ hwritten hfails, ofLines_fails _ hwritten hfails]
        rfl

/-- **Lines are read** exactly if every one that is not blank is a record, and then these are
the records, one a line. -/
theorem ofLines_eq_ok_iff {number index : Nat} {lines : List (List Char)}
    {records : List Entries} :
    ofLines source number index lines = .ok records ↔
      List.Forall₂ (fun line entries => Json.read (String.ofList line) = .ok (.object entries))
        (lines.filter isWritten) records := by
  induction lines generalizing number index records with
  | nil =>
    rw [ofLines, List.filter_nil, List.forall₂_nil_left_iff, Except.ok.injEq, eq_comm]
  | cons line lines ih =>
    cases hwritten : isWritten line with
    | false => rw [ofLines_blank _ hwritten, List.filter_cons_of_neg (by simp [hwritten]), ih]
    | true =>
      rw [List.filter_cons_of_pos hwritten, List.forall₂_cons_left_iff]
      constructor
      · intro h
        by_cases hrecord : IsRecord line
        · obtain ⟨entries, hread⟩ := hrecord
          rw [ofLines_record _ hwritten hread] at h
          cases hlines : ofLines source (number + 1) (index + 1) lines with
          | error error =>
            rw [hlines] at h
            exact absurd h (by simp [Except.map])
          | ok others =>
            rw [hlines] at h
            exact ⟨entries, others, hread, ih.1 hlines, (Except.ok.inj h).symm⟩
        · obtain ⟨error, hfails⟩ := @exists_fails source number index line hrecord
          rw [ofLines_fails _ hwritten hfails] at h
          exact absurd h (by simp)
      · rintro ⟨entries, others, hread, hothers, rfl⟩
        rw [ofLines_record _ hwritten hread, ih.2 hothers]
        rfl

/-- Lines that are records are read. -/
theorem AreRecords.exists_ok {lines : List (List Char)} (h : AreRecords lines) (source : String)
    (number index : Nat) : ∃ records, ofLines source number index lines = .ok records := by
  induction lines generalizing number index with
  | nil => exact ⟨[], rfl⟩
  | cons line lines ih =>
    have hlines : AreRecords lines := fun other hmem => h other (List.mem_cons_of_mem _ hmem)
    cases hwritten : isWritten line with
    | false =>
      rw [ofLines_blank _ hwritten]
      exact ih hlines _ _
    | true =>
      obtain ⟨entries, hread⟩ := h line List.mem_cons_self hwritten
      obtain ⟨records, hrecords⟩ := ih hlines (number + 1) (index + 1)
      refine ⟨entries :: records, ?_⟩
      rw [ofLines_record _ hwritten hread, hrecords]
      rfl

/-- Behind lines that are records, the first that fails ends the reading. Its error tells of the
lines in front how many they are, or how many of them are not blank. -/
theorem AreRecords.ofLines_wrong {before : List (List Char)} (h : AreRecords before)
    {number index : Nat} {wrong : List Char} (hwritten : isWritten wrong = true) {error : Error}
    (hfails : Fails source (number + before.length) (index + before.countP isWritten) wrong error)
    (after : List (List Char)) :
    ofLines source number index (before ++ wrong :: after) = .error error := by
  obtain ⟨records, hrecords⟩ := h.exists_ok source number index
  -- every line in front that is not blank has become one record
  have hcount : before.countP isWritten = records.length := by
    rw [List.countP_eq_length_filter, (ofLines_eq_ok_iff.1 hrecords).length_eq]
  rw [hcount] at hfails
  rw [ofLines_append, hrecords]
  simp only [Except.bind, ofLines_fails after hwritten hfails]
  rfl

/-- Lines that are not all records have a first one that is none. -/
theorem exists_wrong {lines : List (List Char)} (h : ¬ AreRecords lines) :
    ∃ before wrong after, lines = before ++ wrong :: after ∧ AreRecords before ∧
      isWritten wrong = true ∧ ¬ IsRecord wrong := by
  induction lines with
  | nil => exact absurd (fun _ hmem => absurd hmem List.not_mem_nil) h
  | cons line lines ih =>
    by_cases hline : isWritten line = true → IsRecord line
    · have hlines : ¬ AreRecords lines := fun hlines => h (List.forall_mem_cons.2 ⟨hline, hlines⟩)
      obtain ⟨before, wrong, after, rfl, hbefore, hwrong⟩ := ih hlines
      exact ⟨line :: before, wrong, after, rfl, List.forall_mem_cons.2 ⟨hline, hbefore⟩, hwrong⟩
    · obtain ⟨hwritten, hrecord⟩ := Classical.not_imp.1 hline
      exact ⟨[], line, lines, rfl, fun _ hmem => absurd hmem List.not_mem_nil, hwritten, hrecord⟩

/-- **Lines fail** with the first one that is neither blank nor a record. -/
theorem ofLines_eq_error_iff {number index : Nat} {lines : List (List Char)} {error : Error} :
    ofLines source number index lines = .error error ↔
      ∃ before wrong after, lines = before ++ wrong :: after ∧ AreRecords before ∧
        isWritten wrong = true ∧
        Fails source (number + before.length) (index + before.countP isWritten) wrong error := by
  constructor
  · intro h
    have hlines : ¬ AreRecords lines := by
      intro hlines
      obtain ⟨records, hrecords⟩ := hlines.exists_ok source number index
      exact absurd (h.symm.trans hrecords) (by simp)
    obtain ⟨before, wrong, after, rfl, hbefore, hwritten, hwrong⟩ := exists_wrong hlines
    obtain ⟨found, hfails⟩ := exists_fails hwrong
    obtain rfl : found = error :=
      Except.error.inj ((hbefore.ofLines_wrong hwritten hfails after).symm.trans h)
    exact ⟨before, wrong, after, rfl, hbefore, hwritten, hfails⟩
  · rintro ⟨before, wrong, after, rfl, hbefore, hwritten, hfails⟩
    exact hbefore.ofLines_wrong hwritten hfails after

/-- **Lines are read** if and only if all of them are blank or records. -/
theorem exists_ok_iff {number index : Nat} {lines : List (List Char)} :
    (∃ records, ofLines source number index lines = .ok records) ↔ AreRecords lines := by
  refine ⟨fun ⟨records, hrecords⟩ => ?_, fun h => h.exists_ok source number index⟩
  by_contra hlines
  obtain ⟨before, wrong, after, rfl, hbefore, hwritten, hwrong⟩ := exists_wrong hlines
  obtain ⟨error, hfails⟩ := exists_fails hwrong
  exact absurd ((hbefore.ofLines_wrong hwritten hfails after).symm.trans hrecords) (by simp)

end Run

/-! ### A text -/

/-- **A text of records one a line.** It is read exactly if every line that is not blank is a
record, and the records are those of these lines, one a line and in their order. Otherwise the
first line that is neither blank nor a record decides the error: one that is no JSON value fails
with its number, counted from one over all lines, and another value fails with the number of
lines in front of it that are not blank. -/
theorem parse_lines (text source : String)
    (h : (Text.trimLeft text.toList).head? ≠ some '[') :
    ∃ lines, (∀ cut, Text.IsLines text.toList cut ↔ cut = lines) ∧
      ((∃ records, parse text source = .ok records) ↔ AreRecords lines) ∧
      (∀ records, parse text source = .ok records ↔
        List.Forall₂ (fun line entries => Json.read (String.ofList line) = .ok (.object entries))
          (lines.filter isWritten) records) ∧
      ∀ error, parse text source = .error error ↔
        ∃ before wrong after, lines = before ++ wrong :: after ∧ AreRecords before ∧
          isWritten wrong = true ∧
          Fails source (before.length + 1) (before.countP isWritten) wrong error := by
  have harray : isArray text = false := beq_eq_false_iff_ne.2 h
  have hparse : parse text source = ofLines source 1 0 (Text.lines text.toList) := by
    rw [parse, harray]
    rfl
  refine ⟨Text.lines text.toList, fun cut => Text.isLines_iff, ?_, fun records => ?_,
    fun error => ?_⟩
  · rw [hparse]
    exact exists_ok_iff
  · rw [hparse]
    exact ofLines_eq_ok_iff
  · rw [hparse, ofLines_eq_error_iff]
    simp only [Nat.add_comm 1, Nat.zero_add]

/-- White space of several kinds, a record, a blank line and a line that is no JSON value, with
a line behind it that fails as well. -/
def brokenLines : String :=
  "\u3000\n\x7b\"a\":1\x7d\r\n \n\x7boops\x7d\n["

/-- A record, an empty line and a number, with a line behind it that is no JSON value. -/
def numberLines : String :=
  "\x7b\"a\":1\x7d\n\n7\n\x7b"

theorem parse_lines_broken :
    ((Text.trimLeft brokenLines.toList).head? ≠ some '[' ∧
      ∃ fault, parse brokenLines "r" = .error (.invalidLine "r" 4 fault)) ∧
    ((Text.trimLeft numberLines.toList).head? ≠ some '[' ∧
      parse numberLines "r" = .error (.notAnObject "r" 1)) := by
  have hbroken : (Text.trimLeft brokenLines.toList).head? ≠ some '[' := by decide +kernel
  have hnumber : (Text.trimLeft numberLines.toList).head? ≠ some '[' := by decide +kernel
  obtain ⟨lines, hlines, -, -, herror⟩ := parse_lines brokenLines "r" hbroken
  obtain ⟨others, hothers, -, -, herrorOther⟩ := parse_lines numberLines "r" hnumber
  obtain rfl := (hlines _).1 (Text.isLines_lines _)
  obtain rfl := (hothers _).1 (Text.isLines_lines _)
  refine ⟨⟨hbroken, ?_⟩, hnumber, ?_⟩
  · have hwrong : (Json.read (String.ofList "\x7boops\x7d".toList)).isOk = false := by
      decide +kernel
    rcases hread : Json.read (String.ofList "\x7boops\x7d".toList) with fault | value
    · exact ⟨fault, (herror _).2 ⟨["\u3000".toList, "\x7b\"a\":1\x7d".toList, " ".toList], _,
        ["[".toList], by decide +kernel, by decide +kernel, by decide, .invalid hread⟩⟩
    · rw [hread] at hwrong
      cases hwrong
  · have hwrong : ¬ IsRecord "7".toList := by decide +kernel
    have hvalue : (Json.read (String.ofList "7".toList)).isOk = true := by decide +kernel
    rcases hread : Json.read (String.ofList "7".toList) with fault | value
    · rw [hread] at hvalue
      cases hvalue
    · refine (herrorOther _).2 ⟨["\x7b\"a\":1\x7d".toList, []], _, ["\x7b".toList],
        by decide +kernel, by decide +kernel, by decide, .notAnObject hread ?_⟩
      rintro entries rfl
      exact hwrong ⟨entries, hread⟩

end Records

end RecordQuery
