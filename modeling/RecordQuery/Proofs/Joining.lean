import Mathlib.Data.List.TakeWhile
import RecordQuery.Proofs.Lines

/-!
# Texts of records behind one another

A text of records that is not an array can be put behind another: with a line feed between them
the two give the records of the first and then those of the second
(`RecordQuery.Records.parse_append`). The two counts that go along with the lines go on across the
line feed, so an error of the second text tells higher ones than it does alone
(`RecordQuery.Records.Error.move`).

Reading starts with any two counts, and what it gives depends on them only through its error
(`RecordQuery.Records.ofLines_move`). With the lines of both texts in one list
(`RecordQuery.Text.lines_feeds`) there is nothing else to prove, but for the places where the
texts meet: the first text may end in a line feed of its own, and so in an empty line that it does
not have alone, and it may not end in a carriage return, which would become a part of the line
feed.
-/

namespace RecordQuery

namespace Text

/-! ### Lines behind lines -/

/-- **Lines in front of a text** that each end with a line feed are lines in front of its
lines. -/
theorem lines_feeds {front : List (List Char)} (h : ∀ line ∈ front, '\n' ∉ line)
    (text : List Char) :
    lines (front.flatMap (· ++ ['\n']) ++ text) = front.map dropReturn ++ lines text := by
  induction front with
  | nil => rfl
  | cons line front ih =>
    obtain ⟨hline, hfront⟩ := List.forall_mem_cons.1 h
    rw [List.flatMap_cons, List.append_assoc, List.append_assoc, List.singleton_append,
      lines_append_feed hline, ih hfront]
    rfl

/-- Every text is lines that each end with a line feed, and what is behind the last one. -/
theorem exists_feeds (text : List Char) :
    ∃ (front : List (List Char)) (last : List Char),
      text = front.flatMap (· ++ ['\n']) ++ last ∧ (∀ line ∈ front, '\n' ∉ line) ∧
        '\n' ∉ last ∧ front.length = text.count '\n' := by
  obtain ⟨front, last, hpieces⟩ :=
    (List.eq_nil_or_concat' (pieces (· == '\n') text)).resolve_left (pieces_ne_nil _ _)
  have huncut : ∀ line ∈ front ++ [last], '\n' ∉ line := by
    intro line hmem hfeed
    rw [← hpieces] at hmem
    exact absurd (isCut_of_mem_pieces hmem hfeed).1 (by simp)
  have hlength := pieces_length (· == '\n') text
  rw [hpieces, List.length_append, List.length_singleton] at hlength
  refine ⟨front, last, ?_, fun line hmem => huncut line (List.mem_append_left _ hmem),
    huncut last (by simp), Nat.succ.inj hlength⟩
  rw [← join_concat, ← hpieces, join_pieces]

/-- What is behind some text has no carriage return at its end if the whole has none. -/
theorem dropReturn_of_append {front last : List Char}
    (h : (front ++ last).getLast? ≠ some '\r') : dropReturn last = last := by
  by_cases hnil : last = []
  · rw [hnil]
    rfl
  · rw [List.getLast?_append_of_ne_nil _ hnil] at h
    exact dropReturn_of_ne h

/-- What decides the format of a text is its first character that is not white space. -/
theorem head?_trimLeft (text : List Char) :
    (trimLeft text).head? = (text.filter (!isBlank ·)).head? := by
  rw [trimLeft, List.head?_filter, List.find?_eq_head?_dropWhile_not]
  simp

end Text

namespace Records

open RecordQuery.Json (Entries)

/-! ### Errors with their counts moved -/

namespace Error

/-- **An error with its counts moved**: that of its line, and that of the records in front. -/
def move (line index : Nat → Nat) : Error → Error
  | .invalidLine path number fault => .invalidLine path (line number) fault
  | .notAnObject path number => .notAnObject path (index number)
  | error => error

/-- An error with another fault of the same line. -/
def withFault (fault : Json.Fault) : Error → Error
  | .invalidLine path number _ => .invalidLine path number fault
  | error => error

theorem move_comp (line index line' index' : Nat → Nat) :
    move line' index' ∘ move line index = move (line' ∘ line) (index' ∘ index) := by
  funext error
  cases error <;> rfl

theorem withFault_comp_move (fault : Json.Fault) (line index : Nat → Nat) :
    withFault fault ∘ move line index = move line index ∘ withFault fault := by
  funext error
  cases error <;> rfl

end Error

section Run

variable {source : String}

theorem mapError_mapError {ε ε' ε'' α : Type} (result : Except ε α) (f : ε → ε') (g : ε' → ε'') :
    (result.mapError f).mapError g = result.mapError (g ∘ f) := by
  cases result <;> rfl

theorem mapError_map {ε ε' α β : Type} (result : Except ε α) (f : ε → ε') (g : α → β) :
    (result.map g).mapError f = (result.mapError f).map g := by
  cases result <;> rfl

theorem Fails.move {number index : Nat} {line : List Char} {error : Error}
    (h : Fails source number index line error) (d e : Nat) :
    Fails source (number + d) (index + e) line (error.move (· + d) (· + e)) := by
  cases h with
  | invalid hread => exact .invalid hread
  | notAnObject hread hvalue => exact .notAnObject hread hvalue

/-- **Counts that start higher** are higher in the error, and the records are the same. -/
theorem ofLines_move (number index d e : Nat) (lines : List (List Char)) :
    ofLines source (number + d) (index + e) lines =
      (ofLines source number index lines).mapError (Error.move (· + d) (· + e)) := by
  induction lines generalizing number index with
  | nil => rfl
  | cons line lines ih =>
    cases hwritten : isWritten line with
    | false =>
      rw [ofLines_blank _ hwritten, ofLines_blank _ hwritten, ← ih, Nat.add_right_comm]
    | true =>
      by_cases hrecord : IsRecord line
      · obtain ⟨entries, hread⟩ := hrecord
        rw [ofLines_record _ hwritten hread, ofLines_record _ hwritten hread, mapError_map, ← ih,
          Nat.add_right_comm number, Nat.add_right_comm index]
      · obtain ⟨error, hfails⟩ := @exists_fails source number index line hrecord
        rw [ofLines_fails _ hwritten hfails, ofLines_fails _ hwritten (hfails.move d e)]
        rfl

/-- A line that is empty may be left away at the end. -/
theorem ofLines_append_lines (number index : Nat) (front : List (List Char)) {last : List Char}
    (h : '\n' ∉ last) :
    ofLines source number index (front ++ Text.lines last) =
      ofLines source number index (front ++ [last]) := by
  by_cases hlast : last = []
  · subst hlast
    rw [ofLines_append, ofLines_append]
    rfl
  · rw [Text.lines_of_notMem h hlast]

end Run

/-! ### One text behind another -/

theorem isArray_eq_false_iff {text : String} :
    isArray text = false ↔ (text.toList.filter (!Text.isBlank ·)).head? ≠ some '[' := by
  rw [isArray, beq_eq_false_iff_ne, Text.head?_trimLeft]

theorem parse_of_notArray {text : String} (h : isArray text = false) (source : String) :
    parse text source = ofLines source 1 0 (Text.lines text.toList) := by
  rw [parse, h]
  rfl

/-- **A text behind another.** -/
theorem parse_append {a b : String} (ha : isArray a = false) (hb : isArray b = false)
    (hreturn : a.toList.getLast? ≠ some '\r') (source : String) :
    parse (a ++ "\n" ++ b) source =
      (parse a source).bind fun records =>
        ((parse b source).mapError (Error.move (· + (a.toList.count '\n' + 1))
          (· + records.length))).map (records ++ ·) := by
  have hboth : isArray (a ++ "\n" ++ b) = false := by
    rw [isArray_eq_false_iff] at ha hb ⊢
    have hfeed : "\n".toList.filter (!Text.isBlank ·) = [] := by decide
    rw [String.toList_append, String.toList_append, List.filter_append, List.filter_append, hfeed,
      List.append_nil, List.head?_append]
    cases hhead : (a.toList.filter (!Text.isBlank ·)).head? with
    | none => exact hb
    | some c => rwa [hhead] at ha
  obtain ⟨front, last, htext, hfront, hlast, hcount⟩ := Text.exists_feeds a.toList
  have hdrop : Text.dropReturn last = last := Text.dropReturn_of_append (htext ▸ hreturn)
  have hlines : Text.lines (a ++ "\n" ++ b).toList =
      (front.map Text.dropReturn ++ [last]) ++ Text.lines b.toList := by
    have hsplit : (a ++ "\n" ++ b).toList =
        (front ++ [last]).flatMap (· ++ ['\n']) ++ b.toList := by
      simp [htext]
    have hfeeds : ∀ line ∈ front ++ [last], '\n' ∉ line := by
      simpa [or_imp, forall_and] using And.intro hfront hlast
    rw [hsplit, Text.lines_feeds hfeeds, List.map_append, List.map_singleton, hdrop]
  have hfirst : parse a source = ofLines source 1 0 (front.map Text.dropReturn ++ [last]) := by
    rw [parse_of_notArray ha, htext, Text.lines_feeds hfront, ofLines_append_lines _ _ _ hlast]
  have hlength : (front.map Text.dropReturn ++ [last]).length = a.toList.count '\n' + 1 := by
    simp [hcount]
  rw [parse_of_notArray hboth, hlines, ofLines_append, ← hfirst, hlength, parse_of_notArray hb]
  simp only [ofLines_move]

end Records

end RecordQuery
