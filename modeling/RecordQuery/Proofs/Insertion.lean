import RecordQuery.Proofs.Joining
import RecordQuery.Proofs.Trailing

/-!
# Blank lines and line ends among records

Lines that are blank can be put anywhere into a text of records, as its first, between any two of
its lines and behind the last (`RecordQuery.Records.Insertion`). The records stay, and so does the
number of records in front of an error, while its line moves by the number of lines that were
put in front of it (`RecordQuery.Records.Insertion.parse_result`).

The last line of a text is different from the others: if it ends in a carriage return this belongs
to it, and no longer does with a line feed behind it. Then the value of the line is the same, but
not what is wrong with it if it has none (`RecordQuery.Records.Insertion.parse_result_withFault`).
For the other lines a carriage return in front of the line feed makes no difference, so that all
line feeds of a text can be written in two characters
(`RecordQuery.Records.parse_withReturns`).
-/

namespace RecordQuery

namespace Text

/-! ### Lines between line feeds -/

/-- **Lines as they are read** from a text of them: a carriage return is dropped at the end of
each but the last. -/
def asRead (lines : List (List Char)) : List (List Char) :=
  lines.dropLast.map dropReturn ++ lines.getLast?.toList

theorem asRead_concat (front : List (List Char)) (last : List Char) :
    asRead (front ++ [last]) = front.map dropReturn ++ [last] := by
  simp [asRead]

/-- Line feeds between lines are white space. -/
theorem filter_join (lines : List (List Char)) :
    (join ['\n'] lines).filter (!isBlank ·) = lines.flatMap (List.filter (!isBlank ·)) := by
  have hfeed : isBlank '\n' = true := by decide
  cases lines with
  | nil => rfl
  | cons first others =>
    rw [join_cons_eq, List.filter_append, List.filter_flatMap, List.flatMap_cons]
    simp [hfeed]

theorem filter_of_allBlank {line : List Char} (h : allBlank line = true) :
    line.filter (!isBlank ·) = [] := by
  simpa [allBlank] using h

end Text

namespace Records

/-! ### Lines with and without a carriage return -/

/-- **Lines with the same value**, if they have one, or both blank. What is wrong with them may
differ. -/
structure SameValue (line other : List Char) : Prop where
  isWritten_eq : isWritten other = isWritten line
  toOption_eq : (Json.read (String.ofList other)).toOption =
    (Json.read (String.ofList line)).toOption

/-- A line has the value that it has without a carriage return at its end. -/
theorem sameValue_dropReturn (line : List Char) : SameValue line (Text.dropReturn line) := by
  have hreturn : Text.isBlank '\r' = true := by decide
  by_cases h : line.getLast? = some '\r'
  · obtain ⟨shorter, rfl⟩ := List.getLast?_eq_some_iff.1 h
    rw [Text.dropReturn_append]
    refine ⟨by simp [isWritten, Text.allBlank, hreturn], ?_⟩
    rw [Json.toOption_read_append (by decide)]
  · rw [Text.dropReturn_of_ne h]
    exact ⟨rfl, rfl⟩

section Returns

variable {source : String}

/-- Lines with the same values are the same records, and fail alike but for the fault. -/
theorem ofLines_of_sameValue (fault : Json.Fault) (number index : Nat)
    {lines others : List (List Char)} (h : List.Forall₂ SameValue lines others) :
    (ofLines source number index others).mapError (Error.withFault fault) =
      (ofLines source number index lines).mapError (Error.withFault fault) := by
  induction h generalizing number index with
  | nil => rfl
  | @cons line other lines others hvalues _ ih =>
    obtain ⟨hwritten, hread⟩ := hvalues
    cases hline : isWritten line with
    | false =>
      rw [hline] at hwritten
      rw [ofLines_blank _ hwritten, ofLines_blank _ hline, ih]
    | true =>
      rw [hline] at hwritten
      rcases hvalue : Json.read (String.ofList line) with failed | value
      · rcases hother : Json.read (String.ofList other) with failed' | value
        · rw [ofLines_fails _ hwritten (.invalid hother), ofLines_fails _ hline (.invalid hvalue)]
          rfl
        · rw [hvalue, hother] at hread
          cases hread
      · have hother : Json.read (String.ofList other) = .ok value := by
          rw [hvalue] at hread
          rcases hfound : Json.read (String.ofList other) with failed | found
          · rw [hfound] at hread
            cases hread
          · rw [hfound] at hread
            exact congrArg Except.ok (Option.some.inj hread)
        by_cases hobject : ∃ entries, value = .object entries
        · obtain ⟨entries, rfl⟩ := hobject
          rw [ofLines_record _ hwritten hother, ofLines_record _ hline hvalue, mapError_map,
            mapError_map, ih]
        · have hne : ∀ entries, value ≠ .object entries := fun entries h => hobject ⟨entries, h⟩
          rw [ofLines_fails _ hwritten (.notAnObject hother hne),
            ofLines_fails _ hline (.notAnObject hvalue hne)]

/-- The same of lines as they are read. -/
theorem withFault_asRead (fault : Json.Fault) (number index : Nat) (lines : List (List Char)) :
    (ofLines source number index (Text.asRead lines)).mapError (Error.withFault fault) =
      (ofLines source number index lines).mapError (Error.withFault fault) := by
  refine ofLines_of_sameValue fault number index ?_
  rcases List.eq_nil_or_concat' lines with rfl | ⟨front, last, rfl⟩
  · exact .nil
  · rw [Text.asRead_concat]
    refine List.rel_append ?_ (.cons ⟨rfl, rfl⟩ .nil)
    rw [List.forall₂_map_right_iff, List.forall₂_same]
    exact fun line _ => sameValue_dropReturn line

/-- If nothing is to be dropped at the end of the last line, or it is blank, each line is read
without a carriage return. -/
theorem ofLines_asRead (number index : Nat) {lines : List (List Char)}
    (h : ∀ last ∈ lines.getLast?, isWritten last = true → Text.dropReturn last = last) :
    ofLines source number index (Text.asRead lines) =
      ofLines source number index (lines.map Text.dropReturn) := by
  rcases List.eq_nil_or_concat' lines with rfl | ⟨front, last, rfl⟩
  · rfl
  · rw [Text.asRead_concat, List.map_append, ofLines_append, ofLines_append]
    cases hwritten : isWritten last with
    | true => rw [List.map_singleton, h last (by simp) hwritten]
    | false =>
      have hdropped : isWritten (Text.dropReturn last) = false :=
        (sameValue_dropReturn last).isWritten_eq.trans hwritten
      simp only [List.map_singleton, ofLines_blank _ hwritten, ofLines_blank _ hdropped]

/-- A text of lines is read line by line. -/
theorem parse_join {lines : List (List Char)} (huncut : ∀ line ∈ lines, '\n' ∉ line)
    (harray : isArray (String.ofList (Text.join ['\n'] lines)) = false) :
    parse (String.ofList (Text.join ['\n'] lines)) source =
      ofLines source 1 0 (Text.asRead lines) := by
  rw [parse_of_notArray harray, String.toList_ofList]
  rcases List.eq_nil_or_concat' lines with rfl | ⟨front, last, rfl⟩
  · rfl
  · have hfront : ∀ line ∈ front, '\n' ∉ line := fun line hmem =>
      huncut line (List.mem_append_left _ hmem)
    rw [Text.join_concat, Text.lines_feeds hfront, Text.asRead_concat,
      ofLines_append_lines _ _ _ (huncut last (by simp))]

end Returns

/-! ### Blank lines between lines -/

/-- A line with the lines that are inserted in front of it. -/
structure Row where
  /-- The lines that are inserted. -/
  inserted : List (List Char)
  /-- The line that was there. -/
  line : List Char

/-- **Blank lines inserted anywhere** into a text. -/
structure Insertion (text : String) where
  /-- The lines of the text, each with those inserted in front of it. -/
  rows : List Row
  /-- The lines inserted behind the last one. -/
  behind : List (List Char)
  /-- The lines of the text are what is between its line feeds. -/
  lines_eq : rows.map Row.line = Text.pieces (· == '\n') text.toList
  /-- What is inserted are blank lines. -/
  blank : ∀ row ∈ rows, ∀ line ∈ row.inserted, '\n' ∉ line ∧ Text.allBlank line = true
  blank_behind : ∀ line ∈ behind, '\n' ∉ line ∧ Text.allBlank line = true

namespace Insertion

/-- The lines with those inserted. -/
def lines (rows : List Row) (behind : List (List Char)) : List (List Char) :=
  rows.flatMap (fun row => row.inserted ++ [row.line]) ++ behind

/-- How many lines are inserted in front of one of the first rows. -/
def count (rows : List Row) (number : Nat) : Nat :=
  ((rows.take number).flatMap Row.inserted).length

/-- **The text with the inserted lines.** -/
def result {text : String} (insertion : Insertion text) : String :=
  String.ofList (Text.join ['\n'] (lines insertion.rows insertion.behind))

/-- Where a line of the text is among those inserted. -/
def moved {text : String} (insertion : Insertion text) (number : Nat) : Nat :=
  number + count insertion.rows number

end Insertion

section Insertion

variable {source : String}

theorem ofLines_of_blank (number index : Nat) {inserted : List (List Char)}
    (h : ∀ line ∈ inserted, isWritten line = false) (lines : List (List Char)) :
    ofLines source number index (inserted ++ lines) =
      ofLines source (number + inserted.length) index lines := by
  induction inserted generalizing number with
  | nil => rfl
  | cons line inserted ih =>
    obtain ⟨hline, hinserted⟩ := List.forall_mem_cons.1 h
    rw [List.cons_append, ofLines_blank _ hline, ih _ hinserted, List.length_cons,
      Nat.add_right_comm, Nat.add_assoc]

theorem Insertion.count_cons (row : Row) (rows : List Row) (number : Nat) :
    Insertion.count (row :: rows) (number + 1) =
      row.inserted.length + Insertion.count rows number := by
  simp [Insertion.count]

/-- If blank lines move the rows behind a row, they and those in front of this row move them
together, from any index on. -/
theorem ofLines_behind {row : Row} {rows : List Row} {behind : List (List Char)}
    (h : ofLines source 0 0 (Insertion.lines rows behind) =
      (ofLines source 0 0 (rows.map Row.line)).mapError
        (Error.move (fun number => number + Insertion.count rows (number + 1)) id)) (index : Nat) :
    ofLines source (0 + row.inserted.length + 1) index (Insertion.lines rows behind) =
      (ofLines source (0 + 1) index (rows.map Row.line)).mapError (Error.move
        (fun number => number + Insertion.count (row :: rows) (number + 1)) id) := by
  let alone := ofLines source 0 0 (rows.map Row.line)
  calc ofLines source (0 + row.inserted.length + 1) index (Insertion.lines rows behind)
      = (ofLines source 0 0 (Insertion.lines rows behind)).mapError
          (Error.move (· + (row.inserted.length + 1)) (· + index)) := by
        rw [← ofLines_move, Nat.zero_add index, Nat.add_assoc]
    _ = alone.mapError (Error.move (fun number =>
          number + Insertion.count rows (number + 1) + (row.inserted.length + 1))
          (· + index)) := by
        rw [h, mapError_mapError, Error.move_comp]
        rfl
    _ = (alone.mapError (Error.move (· + 1) (· + index))).mapError (Error.move (fun number =>
          number + Insertion.count (row :: rows) (number + 1)) id) := by
        rw [mapError_mapError, Error.move_comp]
        congr 2
        funext number
        simp only [Function.comp_apply, Insertion.count_cons]
        omega
    _ = _ := by rw [← ofLines_move, Nat.zero_add index]

/-- Blank lines move the lines behind them, counted from none. -/
theorem ofLines_inserted {rows : List Row} {behind : List (List Char)}
    (hrows : ∀ row ∈ rows, ∀ line ∈ row.inserted, isWritten line = false)
    (hbehind : ∀ line ∈ behind, isWritten line = false) :
    ofLines source 0 0 (Insertion.lines rows behind) =
      (ofLines source 0 0 (rows.map Row.line)).mapError
        (Error.move (fun number => number + Insertion.count rows (number + 1)) id) := by
  induction rows with
  | nil =>
    have hnil := @ofLines_of_blank source 0 0 behind hbehind []
    rw [List.append_nil] at hnil
    rw [Insertion.lines, List.flatMap_nil, List.nil_append, hnil]
    rfl
  | cons row rows ih =>
    obtain ⟨hrow, hrows⟩ := List.forall_mem_cons.1 hrows
    have hlines : Insertion.lines (row :: rows) behind =
        row.inserted ++ row.line :: Insertion.lines rows behind := by
      simp [Insertion.lines]
    have hrest := @ofLines_behind source row rows behind (ih hrows)
    rw [hlines, ofLines_of_blank 0 0 hrow, List.map_cons]
    cases hwritten : isWritten row.line with
    | false => rw [ofLines_blank _ hwritten, ofLines_blank _ hwritten, hrest]
    | true =>
      by_cases hrecord : IsRecord row.line
      · obtain ⟨entries, hread⟩ := hrecord
        rw [ofLines_record _ hwritten hread, ofLines_record _ hwritten hread, mapError_map, hrest]
      · obtain ⟨error, hfails⟩ := @exists_fails source 0 0 row.line hrecord
        rw [ofLines_fails _ hwritten (hfails.move row.inserted.length 0),
          ofLines_fails _ hwritten hfails]
        cases hfails with
        | invalid _ => simp [Except.mapError, Error.move, Insertion.count]
        | notAnObject _ _ => rfl

/-- Blank lines move the lines behind them by as many as are in front. -/
theorem ofLines_inserted_one {rows : List Row} {behind : List (List Char)}
    (hrows : ∀ row ∈ rows, ∀ line ∈ row.inserted, isWritten line = false)
    (hbehind : ∀ line ∈ behind, isWritten line = false) :
    ofLines source 1 0 (Insertion.lines rows behind) =
      (ofLines source 1 0 (rows.map Row.line)).mapError
        (Error.move (fun number => number + Insertion.count rows number) id) := by
  have hone : ∀ lines, ofLines source 1 0 lines =
      (ofLines source 0 0 lines).mapError (Error.move (· + 1) (· + 0)) :=
    fun lines => ofLines_move 0 0 1 0 lines
  rw [hone, hone, ofLines_inserted hrows hbehind, mapError_mapError, mapError_mapError,
    Error.move_comp, Error.move_comp]
  congr 2
  funext number
  simp only [Function.comp_apply]
  omega

namespace Insertion

variable {text : String} (insertion : Insertion text)

theorem join_rows : Text.join ['\n'] (insertion.rows.map Row.line) = text.toList := by
  rw [insertion.lines_eq, Text.join_pieces]

theorem uncut : ∀ line ∈ insertion.rows.map Row.line, '\n' ∉ line := by
  intro line hmem hfeed
  rw [insertion.lines_eq] at hmem
  exact absurd (Text.isCut_of_mem_pieces hmem hfeed).1 (by simp)

theorem isWritten_inserted : ∀ row ∈ insertion.rows, ∀ line ∈ row.inserted,
    isWritten line = false := by
  intro row hrow line hline
  rw [isWritten, (insertion.blank row hrow line hline).2]
  rfl

theorem isWritten_behind : ∀ line ∈ insertion.behind, isWritten line = false := by
  intro line hline
  rw [isWritten, (insertion.blank_behind line hline).2]
  rfl

theorem uncut_lines : ∀ line ∈ lines insertion.rows insertion.behind, '\n' ∉ line := by
  intro line hmem
  rcases List.mem_append.1 hmem with hmem | hmem
  · obtain ⟨row, hrow, hmem⟩ := List.mem_flatMap.1 hmem
    rcases List.mem_append.1 hmem with hmem | hmem
    · exact (insertion.blank row hrow line hmem).1
    · rw [List.mem_singleton.1 hmem]
      exact insertion.uncut row.line (List.mem_map_of_mem hrow)
  · exact (insertion.blank_behind line hmem).1

/-- The inserted lines have no part in the choice of the format. -/
theorem isArray_result : isArray insertion.result = isArray text := by
  have hblank : ∀ {inserted : List (List Char)}, (∀ line ∈ inserted, isWritten line = false) →
      inserted.flatMap (List.filter (!Text.isBlank ·)) = [] := by
    intro inserted h
    refine List.flatMap_eq_nil_iff.2 fun line hline => Text.filter_of_allBlank ?_
    simpa [isWritten] using h line hline
  have hrows : (insertion.rows.flatMap fun row => row.inserted ++ [row.line]).flatMap
      (List.filter (!Text.isBlank ·)) =
        (insertion.rows.map Row.line).flatMap (List.filter (!Text.isBlank ·)) := by
    rw [List.flatMap_assoc, List.flatMap_map]
    refine List.flatMap_congr fun row hrow => ?_
    rw [List.flatMap_append, hblank (insertion.isWritten_inserted row hrow)]
    simp
  rw [isArray, isArray, Text.head?_trimLeft, Text.head?_trimLeft, result, String.toList_ofList,
    Text.filter_join, lines, List.flatMap_append, hblank insertion.isWritten_behind,
    List.append_nil, hrows, ← Text.filter_join, insertion.join_rows]

/-- Without a carriage return at the end of the text there is none at the end of its last
line. -/
theorem dropReturn_last (hreturn : text.toList.getLast? ≠ some '\r') :
    ∀ last ∈ (insertion.rows.map Row.line).getLast?, Text.dropReturn last = last := by
  intro last hlast
  obtain ⟨front, hfront⟩ := List.getLast?_eq_some_iff.1 hlast
  rw [← insertion.join_rows, hfront, Text.join_concat] at hreturn
  exact Text.dropReturn_of_append hreturn

/-- With the inserted lines it is the last line as well, or a blank one is. -/
theorem dropReturn_last_lines (hreturn : text.toList.getLast? ≠ some '\r') :
    ∀ last ∈ (lines insertion.rows insertion.behind).getLast?, isWritten last = true →
      Text.dropReturn last = last := by
  intro last hlast hwritten
  rcases List.eq_nil_or_concat' insertion.behind with hbehind | ⟨front, line, hbehind⟩
  · rcases List.eq_nil_or_concat' insertion.rows with hrows | ⟨front, row, hrows⟩
    · simp [hrows, hbehind, lines] at hlast
    · obtain rfl : row.line = last := by simpa [hrows, hbehind, lines] using hlast
      exact insertion.dropReturn_last hreturn row.line (by simp [hrows])
  · obtain rfl : line = last := by simpa [hbehind, lines] using hlast
    have hblank := insertion.isWritten_behind line (by simp [hbehind])
    exact absurd (hblank.symm.trans hwritten) (by decide)

section Parse

variable (harray : isArray text = false)
include harray

theorem parse_rows (source : String) :
    parse text source = ofLines source 1 0 (Text.asRead (insertion.rows.map Row.line)) := by
  have htext : String.ofList (Text.join ['\n'] (insertion.rows.map Row.line)) = text := by
    rw [insertion.join_rows, String.ofList_toList]
  rw [← parse_join insertion.uncut (htext.symm ▸ harray), htext]

theorem parse_result_eq (source : String) :
    parse insertion.result source =
      ofLines source 1 0 (Text.asRead (lines insertion.rows insertion.behind)) :=
  parse_join insertion.uncut_lines (insertion.isArray_result.trans harray)

/-- **Blank lines move the lines behind them**; the fault of a line that was the last may
change, since a carriage return is dropped if a line feed follows it. -/
theorem parse_result_withFault (fault : Json.Fault) (source : String) :
    (parse insertion.result source).mapError (Error.withFault fault) =
      (parse text source).mapError (Error.withFault fault ∘ Error.move insertion.moved id) := by
  rw [insertion.parse_result_eq harray, withFault_asRead,
    ofLines_inserted_one insertion.isWritten_inserted insertion.isWritten_behind,
    mapError_mapError, Error.withFault_comp_move, Error.withFault_comp_move, ← mapError_mapError,
    ← mapError_mapError, insertion.parse_rows harray, withFault_asRead]
  rfl

/-- Blank lines move the lines behind them, faults included, unless the text ends with a
carriage return. -/
theorem parse_result (hreturn : text.toList.getLast? ≠ some '\r') (source : String) :
    parse insertion.result source =
      (parse text source).mapError (Error.move insertion.moved id) := by
  -- without carriage returns at their ends, blank lines are inserted into the lines as well
  let dropped := insertion.rows.map fun row =>
    Row.mk (row.inserted.map Text.dropReturn) (Text.dropReturn row.line)
  have hlines : (lines insertion.rows insertion.behind).map Text.dropReturn =
      lines dropped (insertion.behind.map Text.dropReturn) := by
    simp [lines, dropped, List.map_flatMap, List.flatMap_map]
  have htext : (insertion.rows.map Row.line).map Text.dropReturn = dropped.map Row.line := by
    simp [dropped, Function.comp_def]
  have hcount : count dropped = count insertion.rows := by
    funext number
    simp [count, dropped, ← List.map_take, Function.comp_def]
  have hrows : ∀ row ∈ dropped, ∀ line ∈ row.inserted, isWritten line = false :=
    List.forall_mem_map.2 fun row hrow => List.forall_mem_map.2 fun line hline =>
      (sameValue_dropReturn line).isWritten_eq.trans (insertion.isWritten_inserted row hrow line hline)
  have hbehind : ∀ line ∈ insertion.behind.map Text.dropReturn, isWritten line = false :=
    List.forall_mem_map.2 fun line hline =>
      (sameValue_dropReturn line).isWritten_eq.trans (insertion.isWritten_behind line hline)
  rw [insertion.parse_result_eq harray,
    ofLines_asRead 1 0 (insertion.dropReturn_last_lines hreturn), hlines,
    ofLines_inserted_one hrows hbehind, hcount, ← htext, insertion.parse_rows harray,
    ofLines_asRead 1 0 fun last hlast _ => insertion.dropReturn_last hreturn last hlast]
  rfl

end Parse

end Insertion

end Insertion

/-! ### Lines that end in two characters -/

/-- A text with a carriage return in front of every line feed. -/
def withReturns (text : List Char) : List Char :=
  text.flatMap fun c => if c = '\n' then ['\r', '\n'] else [c]

theorem withReturns_of_uncut {line : List Char} (h : '\n' ∉ line) : withReturns line = line := by
  refine (List.flatMap_congr fun c hc => if_neg ?_).trans (List.flatMap_singleton' line)
  rintro rfl
  exact h hc

/-- Carriage returns are white space. -/
theorem filter_withReturns (text : List Char) :
    (withReturns text).filter (!Text.isBlank ·) = text.filter (!Text.isBlank ·) := by
  have hfeed : Text.isBlank '\n' = true := by decide
  have hreturn : Text.isBlank '\r' = true := by decide
  induction text with
  | nil => rfl
  | cons c text ih =>
    rw [withReturns] at ih ⊢
    rw [List.flatMap_cons, List.filter_append, ih]
    split
    · next hc => simp [hc, hfeed, hreturn]
    · rw [← List.filter_append, List.singleton_append]

/-- The lines stay the same: by induction on how they are cut off the text. -/
theorem isLines_withReturns {text : List Char} {lines : List (List Char)}
    (h : Text.IsLines text lines) (hreturn : '\r' ∉ text) :
    Text.IsLines (withReturns text) lines := by
  induction h with
  | done => exact .done
  | last hne hline =>
    rw [withReturns_of_uncut hline]
    exact .last hne hline
  | @feed line rest lines hline _ _ ih =>
    have hrest := ih fun hmem => hreturn (by simp [hmem])
    have htext : withReturns (line ++ '\n' :: rest) = line ++ '\r' :: '\n' :: withReturns rest := by
      rw [withReturns, List.flatMap_append, List.flatMap_cons]
      exact congrArg (· ++ _) (withReturns_of_uncut hline)
    rw [htext]
    exact .returned hline hrest
  | returned _ _ _ => exact absurd (by simp) hreturn

/-- **A carriage return in front of every line feed** changes nothing. -/
theorem parse_withReturns {text : String} (harray : isArray text = false)
    (hreturn : '\r' ∉ text.toList) (source : String) :
    parse (String.ofList (withReturns text.toList)) source = parse text source := by
  have hlines := (isLines_withReturns (Text.isLines_lines text.toList) hreturn).eq_lines
  have hboth : isArray (String.ofList (withReturns text.toList)) = false := by
    rw [isArray_eq_false_iff] at harray ⊢
    rwa [String.toList_ofList, filter_withReturns]
  rw [parse_of_notArray hboth, parse_of_notArray harray, String.toList_ofList, ← hlines]

/-! ### Texts -/

/-- **Texts of records go behind one another.** With a line feed between them, two texts that are
no arrays give the records of both, and of two errors the first. The error of the second counts
the lines and the records of the first as well; the first may not end with a carriage return,
which would become a part of the line feed.

So blank lines may stand anywhere: they change no record and no count of records, and move the
line of an error by as many as are in front of it. With a carriage return at its end the text may
lose this character, and then a line may be wrong for another reason. Line feeds may all have a
carriage return in front. -/
theorem parse_joined (source : String) :
    (∀ a b : String, (Text.trimLeft a.toList).head? ≠ some '[' →
        (Text.trimLeft b.toList).head? ≠ some '[' → a.toList.getLast? ≠ some '\r' →
        parse (a ++ "\n" ++ b) source =
          match parse a source with
          | .error error => .error error
          | .ok records =>
            match parse b source with
            | .error error => .error (error.move (· + (a.toList.count '\n' + 1))
                (· + records.length))
            | .ok others => .ok (records ++ others)) ∧
      (∀ (text : String) (insertion : Insertion text),
        (Text.trimLeft text.toList).head? ≠ some '[' →
        (∀ fault, (parse insertion.result source).mapError (Error.withFault fault) =
          (parse text source).mapError (Error.withFault fault ∘ Error.move insertion.moved id)) ∧
        (text.toList.getLast? ≠ some '\r' →
          parse insertion.result source =
            (parse text source).mapError (Error.move insertion.moved id))) ∧
      ∀ text : String, (Text.trimLeft text.toList).head? ≠ some '[' → '\r' ∉ text.toList →
        parse (String.ofList (withReturns text.toList)) source = parse text source := by
  refine ⟨fun a b ha hb hreturn => ?_,
    fun text insertion h => ⟨fun fault => ?_, fun hreturn => ?_⟩, fun text h hreturn => ?_⟩
  · rw [parse_append (beq_eq_false_iff_ne.2 ha) (beq_eq_false_iff_ne.2 hb) hreturn]
    rcases parse a source with error | records
    · rfl
    · rcases parse b source with error | others <;> rfl
  · exact insertion.parse_result_withFault (beq_eq_false_iff_ne.2 h) fault source
  · exact insertion.parse_result (beq_eq_false_iff_ne.2 h) hreturn source
  · exact parse_withReturns (beq_eq_false_iff_ne.2 h) hreturn source

/-- Two records, with a blank line between them. -/
def twoRecords : String :=
  "\x7b\"a\":1\x7d\n\u3000\n\x7b\x7d"

/-- A number behind an empty line. -/
def oneNumber : String :=
  "\n7"

/-- Blank lines of several kinds around the two lines of a text. -/
def surround {text : String} {first last : List Char}
    (h : Text.pieces (· == '\n') text.toList = [first, last]) : Insertion text where
  rows := [⟨[[' ']], first⟩, ⟨[['\r'], []], last⟩]
  behind := [[]]
  lines_eq := h.symm
  blank := List.forall_mem_cons.2 ⟨(by decide : ∀ line ∈ [[' ']], _),
    List.forall_mem_singleton.2 (by decide : ∀ line ∈ [['\r'], []], _)⟩
  blank_behind := by decide

/-- A record and a line that breaks off. -/
def brokenOff : String :=
  "\x7b\x7d\n\x7b\"b"

/-- The same with a carriage return at the end. -/
def brokenOffReturn : String :=
  "\x7b\x7d\n\x7b\"b\r"

theorem parse_joined_sample :
    ((Text.trimLeft twoRecords.toList).head? ≠ some '[' ∧
      (Text.trimLeft oneNumber.toList).head? ≠ some '[' ∧
      twoRecords.toList.getLast? ≠ some '\r' ∧
      parse (twoRecords ++ "\n" ++ oneNumber) "r" = .error (.notAnObject "r" 2)) ∧
    ((Text.trimLeft brokenOff.toList).head? ≠ some '[' ∧
      brokenOff.toList.getLast? ≠ some '\r' ∧
      ∃ insertion : Insertion brokenOff,
        parse insertion.result "r" = .error (.invalidLine "r" 5 .unfinished)) ∧
    ((Text.trimLeft brokenOffReturn.toList).head? ≠ some '[' ∧
      parse brokenOffReturn "r" = .error (.invalidLine "r" 2 .malformed) ∧
      ∃ insertion : Insertion brokenOffReturn,
        (parse insertion.result "r").mapError (Error.withFault .malformed) =
          .error (.invalidLine "r" 5 .malformed)) ∧
    (Text.trimLeft numberLines.toList).head? ≠ some '[' ∧ '\r' ∉ numberLines.toList ∧
      parse (String.ofList (withReturns numberLines.toList)) "r" = .error (.notAnObject "r" 1) := by
  obtain ⟨hjoin, hinsert, hreturns⟩ := parse_joined "r"
  have hfailed : ∀ {text : String} {error : Error},
      (parse text "r").map List.length = .error error → parse text "r" = .error error := by
    intro text error h
    rcases hparse : parse text "r" with found | records
    · rw [hparse] at h
      exact congrArg Except.error (Except.error.inj h)
    · rw [hparse] at h
      cases h
  have htwo : (Text.trimLeft twoRecords.toList).head? ≠ some '[' := by decide +kernel
  have hone : (Text.trimLeft oneNumber.toList).head? ≠ some '[' := by decide +kernel
  have hend : twoRecords.toList.getLast? ≠ some '\r' := by decide +kernel
  have hplain : (Text.trimLeft brokenOff.toList).head? ≠ some '[' := by decide +kernel
  have hplainEnd : brokenOff.toList.getLast? ≠ some '\r' := by decide +kernel
  have hreturn : (Text.trimLeft brokenOffReturn.toList).head? ≠ some '[' := by decide +kernel
  have hlines : (Text.trimLeft numberLines.toList).head? ≠ some '[' := by decide +kernel
  have hfeeds : '\r' ∉ numberLines.toList := by decide +kernel
  have hbroken : parse brokenOff "r" = .error (.invalidLine "r" 2 .unfinished) :=
    hfailed (by decide +kernel)
  have hbrokenReturn : parse brokenOffReturn "r" = .error (.invalidLine "r" 2 .malformed) :=
    hfailed (by decide +kernel)
  have hpieces : Text.pieces (· == '\n') brokenOff.toList =
      ["\x7b\x7d".toList, "\x7b\"b".toList] := by decide +kernel
  have hpiecesReturn : Text.pieces (· == '\n') brokenOffReturn.toList =
      ["\x7b\x7d".toList, "\x7b\"b\r".toList] := by decide +kernel
  refine ⟨⟨htwo, hone, hend, ?_⟩, ⟨hplain, hplainEnd, surround hpieces, ?_⟩,
    ⟨hreturn, hbrokenReturn, surround hpiecesReturn, ?_⟩, hlines, hfeeds, ?_⟩
  · have hlength : (parse twoRecords "r").map List.length = .ok 2 := by decide +kernel
    have hnumber : parse oneNumber "r" = .error (.notAnObject "r" 0) := hfailed (by decide +kernel)
    rw [hjoin twoRecords oneNumber htwo hone hend, hnumber]
    rcases hparse : parse twoRecords "r" with error | records
    · rw [hparse] at hlength
      cases hlength
    · rw [hparse] at hlength
      have hrecords : records.length = 2 := Except.ok.inj hlength
      simp only [Error.move, hrecords]
  · rw [(hinsert brokenOff _ hplain).2 hplainEnd, hbroken]
    rfl
  · rw [(hinsert brokenOffReturn _ hreturn).1 .malformed, hbrokenReturn]
    rfl
  · rw [hreturns numberLines hlines hfeeds]
    exact hfailed (by decide +kernel)

end Records

end RecordQuery
