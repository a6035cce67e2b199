import Mathlib.Data.List.DropRight
import Mathlib.Data.List.Forall2
import RecordQuery.Report.Table

/-!
# Lines of a table

A line of a table has its cells between bars, each filled up with blanks to the width of its
column (`RecordQuery.Report.Table.IsRow`). A cell may have bars and blanks in it, so where it
ends is not a matter of the next bar. It is a matter of the width: a line that was filled by
some cells of a column's width shows no others, blanks at their ends apart
(`RecordQuery.Report.Table.IsRow.unique`).

For this the columns of a piece and of what follows it have to add up. The columns of a text
are counted from its end, and a character may take away columns again that were counted behind
it, as the letter of a flag does. `RecordQuery.Text.Tail.lent` says how many may be taken, and
the invariant of the count is that so many are there
(`RecordQuery.Text.Suffix.IsCovered.ofList`). So what is behind a blank or a bar never matters
(`RecordQuery.Text.Suffix.ofList_append`).

The widths of a table are wide enough for every cell in it
(`RecordQuery.Report.Table.covers_widths`).
-/

namespace RecordQuery

/-! ### Columns that add up -/

namespace Text

/-- The columns of a start that a character in front of it may take away. -/
def Tail.lent : Tail → Nat
  | .joinedIndicator => 1
  | .joinedOdd => 1
  | .ligature .joinedConsonant => 1
  | .ligature .subscript => 1
  | _ => 0

/-- A ligature lends no more than it has, with a letter in front of it. -/
theorem Ligature.lent_withLetter? {ending : Ligature} {c : Char} {longer : Option Ligature}
    {change : Int} (h : ending.withLetter? c = some (longer, change)) :
    ((longer.elim .nothing Tail.ligature).lent : Int) ≤ (Tail.ligature ending).lent + change := by
  cases ending <;> simp only [Ligature.withLetter?] at h
  all_goals repeat' split at h
  all_goals cases h
  all_goals exact of_decide_eq_true rfl

theorem Ligature.lent_extend? {ending : Ligature} {c : Char} {longer : Option Ligature}
    {change : Int} (h : ending.extend? c = some (longer, change)) :
    ((longer.elim .nothing Tail.ligature).lent : Int) ≤ (Tail.ligature ending).lent + change := by
  rw [Ligature.extend?] at h
  split at h
  · exact lent_withLetter? h
  · next joined hjoined =>
    split at h
    · obtain ⟨rfl, rfl⟩ := Prod.mk.inj (Option.some.inj h)
      cases ending <;> cases hjoined
      all_goals exact of_decide_eq_true rfl
    · split at h
      · obtain ⟨rfl, rfl⟩ := Prod.mk.inj (Option.some.inj h)
        exact Int.le_of_eq (Int.add_zero _).symm
      · exact lent_withLetter? h

/-- **A start lends no more than it has**, with a character in front of it. -/
theorem Tail.lent_extend? {tail longer : Tail} {c : Char} {change : Int}
    (h : tail.extend? c = some (longer, change)) : (longer.lent : Int) ≤ tail.lent + change := by
  cases tail with
  | ligature ending =>
    obtain ⟨⟨found, added⟩, hfound, heq⟩ := Option.map_eq_some_iff.1 h
    obtain ⟨rfl, rfl⟩ := Prod.mk.inj heq
    exact Ligature.lent_extend? hfound
  | joinedTag letters =>
    obtain ⟨tail, htail, heq⟩ := Option.map_eq_some_iff.1 h
    obtain ⟨rfl, rfl⟩ := Prod.mk.inj heq
    simp only [extendTag?] at htail
    repeat' split at htail
    all_goals cases htail
    all_goals exact Int.le_refl 0
  | joinedDigits digits =>
    obtain ⟨tail, htail, heq⟩ := Option.map_eq_some_iff.1 h
    obtain ⟨rfl, rfl⟩ := Prod.mk.inj heq
    simp only [extendDigits?] at htail
    repeat' split at htail
    all_goals cases htail
    all_goals exact Int.le_refl 0
  | _ =>
    simp only [Tail.extend?, extendJoined?] at h
    repeat' split at h
    all_goals cases h
    all_goals exact of_decide_eq_true rfl

/-- Characters of tables without a code in common. -/
theorem not_inRanges_of_apart {table other : CodeRanges}
    (h : ∀ range ∈ table, ∀ last ∈ other, last.2 < range.1 ∨ range.2 < last.1) {c : Char}
    (hc : inRanges table c = true) : inRanges other c = false := by
  rw [Bool.eq_false_iff]
  intro hother
  simp only [inRanges, List.any_eq_true, Bool.and_eq_true, decide_eq_true_eq] at hc hother
  obtain ⟨range, hrange, hlow, hhigh⟩ := hc
  obtain ⟨last, hlast, hlow', hhigh'⟩ := hother
  have := h range hrange last hlast
  omega

/-- What a character starts by itself lends no more than the character takes. -/
theorem Tail.lent_opening (c : Char) : (Tail.opening c).lent ≤ charWidth c := by
  rw [Tail.opening]
  split
  · next ending hending =>
    cases ending with
    | subscript =>
      -- a subscript is a letter, so that it takes a column itself
      have hc : inRanges Ligature.subscriptRanges c = true := by
        simp only [Ligature.opening?] at hending
        repeat' split at hending
        all_goals first | assumption | exact absurd hending (by simp)
      have hextender : isExtender c = false :=
        not_inRanges_of_apart (by decide +kernel) hc
      have hinvisible : inRanges invisibleRanges c = false :=
        not_inRanges_of_apart (by decide +kernel) hc
      rw [charWidth, isZeroWidth, hextender, hinvisible]
      simp only [Bool.false_and, Bool.or_self, Bool.false_eq_true, if_false]
      split
      · decide
      · split <;> decide
    | joinedConsonant =>
      simp only [Ligature.opening?] at hending
      repeat' split at hending
      all_goals exact absurd hending (by simp)
    | _ => exact Nat.zero_le _
  · repeat' split
    all_goals exact Nat.zero_le _

namespace Suffix

/-- Whether the columns are there that the start has lent. -/
def IsCovered (suffix : Suffix) : Prop :=
  suffix.tail.lent ≤ suffix.columns

/-- The same end of a text, with further columns behind it. -/
def shift (more : Nat) (suffix : Suffix) : Suffix :=
  { suffix with columns := suffix.columns + more }

theorem isCovered_join (c : Char) {columns : Nat} {tail : Tail} (h : tail.lent ≤ columns) :
    (join c columns tail).IsCovered := by
  rw [join, IsCovered]
  split
  · rw [prependBasic]
    repeat' split
    all_goals exact Nat.zero_le _
  · split
    · next longer change hextend =>
      have hlent := Tail.lent_extend? hextend
      dsimp only
      omega
    · exact Nat.le_trans (Tail.lent_opening c) (Nat.le_add_left ..)

theorem lent_behind_le (selector : Selector) (tail : Tail) :
    (tail.behind selector).lent ≤ tail.lent := by
  cases tail <;> simp only [Tail.behind]
  all_goals first
    | exact Nat.zero_le _
    | (split <;> first | exact Nat.le_refl _ | exact Nat.zero_le _)

theorem lent_released_le (tail : Tail) : tail.released.lent ≤ tail.lent := by
  cases tail <;> simp only [Tail.released]
  all_goals first | exact Nat.le_refl _ | exact Nat.zero_le _

/-- What a selector makes of a character lends nothing. -/
theorem lent_select? {selector : Selector} {tail longer : Tail} {c : Char} {columns : Nat}
    (h : selector.select? tail c = some (longer, columns)) : longer.lent = 0 := by
  cases selector <;> simp only [Selector.select?] at h
  all_goals
    split at h
    · obtain ⟨rfl, -⟩ := Prod.mk.inj (Option.some.inj h)
      rfl
    · exact absurd h (by simp)

/-- **One character in front** keeps what is lent covered. -/
theorem IsCovered.prepend {suffix : Suffix} (h : suffix.IsCovered) (c : Char) :
    (prepend c suffix).IsCovered := by
  have htail : (if suffix.selectors.isEmpty then suffix.tail else suffix.tail.released).lent ≤
      suffix.columns := by
    split
    · exact h
    · exact Nat.le_trans (lent_released_le _) h
  rw [Suffix.prepend]
  split
  · next tail columns hselect =>
    obtain ⟨selector, -, hselector⟩ := List.exists_of_findSome?_eq_some hselect
    rw [IsCovered, lent_select? hselector]
    exact Nat.zero_le _
  · dsimp only
    split
    · exact Nat.le_trans (lent_behind_le _ _) htail
    · exact isCovered_join c htail

/-- **What the start of a text has lent is covered**, whatever the text. -/
theorem IsCovered.ofList (text : List Char) : (ofList text).IsCovered := by
  induction text with
  | nil => exact Nat.le_refl 0
  | cons c text ih => exact ih.prepend c

theorem join_shift (c : Char) {columns : Nat} {tail : Tail} (h : tail.lent ≤ columns)
    (more : Nat) : join c (columns + more) tail = (join c columns tail).shift more := by
  rw [join, join]
  split
  · rw [prependBasic, prependBasic]
    repeat' split
    all_goals simp only [shift, Nat.add_right_comm]
  · split
    · next longer change hextend =>
      have hlent := Tail.lent_extend? hextend
      have hsum : ((columns + more : Nat) + change).toNat = (columns + change).toNat + more := by
        omega
      rw [hsum]
      rfl
    · simp only [shift, Nat.add_right_comm]

/-- Columns further behind do not change what a character adds. -/
theorem prepend_shift (c : Char) {suffix : Suffix} (h : suffix.IsCovered) (more : Nat) :
    prepend c (suffix.shift more) = (prepend c suffix).shift more := by
  have htail : (if suffix.selectors.isEmpty then suffix.tail else suffix.tail.released).lent ≤
      suffix.columns := by
    split
    · exact h
    · exact Nat.le_trans (lent_released_le _) h
  rw [prepend, prepend]
  change (match suffix.selectors.findSome? fun selector => selector.select? suffix.tail c with
    | some (tail, columns) => _
    | none => _) = _
  cases suffix.selectors.findSome? fun selector => selector.select? suffix.tail c with
  | some found => exact congrArg (Suffix.mk · _ _) (Nat.add_right_comm ..)
  | none =>
    dsimp only
    cases selector? c with
    | some selector => rfl
    | none => exact join_shift c htail more

/-- The end of a text that nothing in front of it joins, with so many columns. -/
def apart (columns : Nat) : Suffix :=
  ⟨columns, .nothing, []⟩

/-- **Texts side by side**: in front of a text that nothing joins, a text has the columns that
it has by itself. -/
theorem ofList_append {back : List Char} {more : Nat} (h : ofList back = apart more)
    (front : List Char) : ofList (front ++ back) = (ofList front).shift more := by
  induction front with
  | nil =>
    rw [List.nil_append, h, ofList_nil, shift, empty, Nat.zero_add]
    rfl
  | cons c front ih =>
    rw [List.cons_append, ofList_cons, ih, prepend_shift c (.ofList front), ofList_cons]

/-- What no selector is in force for. -/
theorem prepend_of_join {c : Char} (hform : hasTwoForms c = false)
    (hmark : isQuotationMark c = false) (hselector : selector? c = none)
    (hjoin : ∀ columns tail, join c columns tail = apart (columns + 1))
    (suffix : Suffix) : prepend c suffix = apart (suffix.columns + 1) := by
  have hnone : (suffix.selectors.findSome? fun selector => selector.select? suffix.tail c) =
      none := by
    refine List.findSome?_eq_none_iff.2 fun selector _ => ?_
    cases selector <;> simp [Selector.select?, narrowsAsText, hform, hmark]
  rw [prepend, hnone, hselector]
  exact hjoin _ _

/-- A blank is joined to nothing. -/
theorem prepend_blank (suffix : Suffix) : prepend ' ' suffix = apart (suffix.columns + 1) :=
  prepend_of_join (by decide +kernel) (by decide) (by decide) (fun _ _ => rfl) suffix

/-- The bar between two columns is joined to nothing. -/
theorem prepend_bar (suffix : Suffix) : prepend '┆' suffix = apart (suffix.columns + 1) := by
  refine prepend_of_join (by decide +kernel) (by decide) (by decide) (fun columns tail => ?_) suffix
  have hextend : tail.extend? '┆' = none := by
    cases tail with
    | ligature ending =>
      cases ending with
      | lamed joined | ya joined | consonant joined | orkhonI joined =>
        cases joined <;> decide +kernel
      | _ => decide +kernel
    | _ => rfl
  have hwidth : charWidth '┆' = 1 := by decide +kernel
  have hopening : Tail.opening '┆' = .nothing := by decide +kernel
  rw [join, if_neg (by decide), hextend]
  simp only [hwidth, hopening]
  rfl

/-- Blanks are as many columns. -/
theorem ofList_blanks (count : Nat) : ofList (List.replicate count ' ') = apart count := by
  induction count with
  | zero => rfl
  | succ count ih => rw [List.replicate_succ, ofList_cons, ih, prepend_blank]; rfl

end Suffix

end Text

namespace Report.Table

open Text (displayWidth)
open Text.Suffix (apart ofList ofList_append ofList_blanks prepend_bar prepend_blank)

/-! ### Cells in a line -/

/-- **A cell in its column**: behind a blank, and filled up with blanks, at least one, to two
columns more than the width. -/
def Fills (width : Nat) (cell : String) (piece : List Char) : Prop :=
  (∃ blanks, piece = ' ' :: cell.toList ++ List.replicate blanks ' ' ++ [' ']) ∧
    displayWidth (String.ofList piece) = width + 2

/-- What stands between the outer bars of a line: the cells in their columns, with a bar
between neighbours. -/
inductive Between : List Nat → List String → List Char → Prop
  /-- One cell. -/
  | last {width : Nat} {cell : String} {piece : List Char} (h : Fills width cell piece) :
      Between [width] [cell] piece
  /-- A cell in front of others. -/
  | cons {width : Nat} {cell : String} {piece : List Char} (h : Fills width cell piece)
      {widths : List Nat} {cells : List String} {others : List Char}
      (hothers : Between widths cells others) :
      Between (width :: widths) (cell :: cells) (piece ++ '┆' :: others)

/-- **A line that shows cells** in columns of the given widths. -/
def IsRow (widths : List Nat) (cells : List String) (line : List Char) : Prop :=
  ∃ between, Between widths cells between ∧ line = '│' :: between ++ ['│']

/-- A cell without the blanks at its end, of which a line does not tell how many there are. -/
def stripped (cell : String) : List Char :=
  cell.toList.rdropWhile (· == ' ')

theorem displayWidth_ofList (text : List Char) :
    displayWidth (String.ofList text) = (ofList text).columns := by
  rw [displayWidth, String.toList_ofList]

/-- What is longer by a bar is wider. -/
theorem displayWidth_lt_bar (piece others : List Char) :
    displayWidth (String.ofList piece) <
      displayWidth (String.ofList (piece ++ '┆' :: others)) := by
  have hbar : ofList ('┆' :: others) = apart ((ofList others).columns + 1) :=
    prepend_bar (ofList others)
  rw [displayWidth_ofList, displayWidth_ofList, ofList_append hbar]
  exact Nat.lt_add_of_pos_right (Nat.succ_pos _)

/-- **Where a column ends** is a matter of its width, whatever bars are in it. -/
theorem piece_unique {piece other others others' : List Char}
    (hwidth : displayWidth (String.ofList piece) = displayWidth (String.ofList other))
    (h : piece ++ '┆' :: others = other ++ '┆' :: others') : piece = other ∧ others = others' := by
  -- of two pieces that start a line the longer one has a bar more, and is wider
  have hwider : ∀ {piece other others others' extra : List Char},
      displayWidth (String.ofList piece) = displayWidth (String.ofList other) →
      other = piece ++ extra → '┆' :: others = extra ++ '┆' :: others' → extra = [] := by
    intro piece other others others' extra hwidth hother hextra
    cases extra with
    | nil => rfl
    | cons c extra =>
      obtain ⟨rfl, -⟩ := List.cons.inj hextra
      have hless := displayWidth_lt_bar piece extra
      rw [← hother] at hless
      omega
  rcases List.append_eq_append_iff.1 h with ⟨extra, hother, hextra⟩ | ⟨extra, hpiece, hextra⟩
  · obtain rfl := hwider hwidth hother hextra
    exact ⟨by simpa using hother.symm, by simpa using hextra⟩
  · obtain rfl := hwider hwidth.symm hpiece hextra
    exact ⟨by simpa using hpiece, by simpa using hextra.symm⟩

theorem rdropWhile_blanks (text : List Char) (blanks : Nat) :
    (text ++ List.replicate blanks ' ').rdropWhile (· == ' ') = text.rdropWhile (· == ' ') := by
  induction blanks with
  | zero => rw [List.replicate_zero, List.append_nil]
  | succ blanks ih =>
    rw [List.replicate_succ', ← List.append_assoc, List.rdropWhile_concat_pos _ _ _ rfl, ih]

/-- A piece shows one cell. -/
theorem Fills.stripped_eq {width width' : Nat} {cell cell' : String} {piece : List Char}
    (h : Fills width cell piece) (h' : Fills width' cell' piece) :
    stripped cell' = stripped cell := by
  obtain ⟨⟨blanks, hpiece⟩, -⟩ := h
  obtain ⟨⟨blanks', hpiece'⟩, -⟩ := h'
  have hcells : cell'.toList ++ List.replicate blanks' ' ' =
      cell.toList ++ List.replicate blanks ' ' :=
    List.cons.inj (List.append_cancel_right (hpiece'.symm.trans hpiece)) |>.2
  rw [stripped, stripped, ← rdropWhile_blanks cell.toList blanks, ← hcells, rdropWhile_blanks]

theorem Between.ne_nil {cells : List String} {text : List Char} : ¬ Between [] cells text := by
  rintro ⟨⟩

theorem Between.unique {widths : List Nat} {cells others : List String} {text : List Char}
    (h : Between widths cells text) (hothers : Between widths others text) :
    others.map stripped = cells.map stripped := by
  induction h generalizing others with
  | last h =>
    cases hothers with
    | last h' => exact congrArg (· :: []) (h.stripped_eq h')
    | cons h' hrest => exact absurd hrest Between.ne_nil
  | @cons width cell piece h widths cells rest hrest ih =>
    generalize htext : piece ++ '┆' :: rest = text at hothers
    cases hothers with
    | last h' => exact absurd hrest Between.ne_nil
    | cons h' hrest' =>
      obtain ⟨rfl, rfl⟩ := piece_unique (h.2.trans h'.2.symm) htext
      rw [List.map_cons, List.map_cons, h.stripped_eq h', ih hrest']

/-- **The cells can be read off the line**: in columns of the same widths no other cells are
shown by it, blanks at their ends apart. -/
theorem IsRow.unique {widths : List Nat} {cells others : List String} {line : List Char}
    (h : IsRow widths cells line) (hothers : IsRow widths others line) :
    others.map stripped = cells.map stripped := by
  obtain ⟨between, hbetween, rfl⟩ := h
  obtain ⟨between', hbetween', hline⟩ := hothers
  obtain rfl : between = between' := by simpa using hline
  exact hbetween.unique hbetween'

/-! ### Cells that fit -/

/-- A cell that fits is filled up to the width of its column. -/
theorem fills_padded {width : Nat} {cell : String} (h : displayWidth cell ≤ width) :
    Fills width cell (padded width cell) := by
  refine ⟨⟨_, rfl⟩, ?_⟩
  have hblanks : ofList (List.replicate (width - displayWidth cell) ' ' ++ [' ']) =
      apart (width - displayWidth cell + 1) := by
    rw [← List.replicate_succ', ofList_blanks]
  have hpadded : ofList (padded width cell) =
      apart ((ofList cell.toList).columns + (width - displayWidth cell + 1) + 1) := by
    rw [padded, List.append_assoc, List.cons_append, Text.Suffix.ofList_cons, prepend_blank,
      ofList_append hblanks]
    rfl
  rw [displayWidth_ofList, hpadded, apart]
  change displayWidth cell + _ + 1 = _
  omega

/-- A line of cells that fit shows them. -/
theorem isRow_textLine {widths : List Nat} {cells : List String} (hne : cells ≠ [])
    (h : List.Forall₂ (fun width cell => displayWidth cell ≤ width) widths cells) :
    IsRow widths cells (textLine widths cells) := by
  refine ⟨_, ?_, rfl⟩
  induction h with
  | nil => exact absurd rfl hne
  | @cons width cell widths cells hcell hcells ih =>
    cases hcells with
    | nil => exact .last (fills_padded hcell)
    | cons hnext hcells =>
      rw [List.zipWith_cons_cons, List.zipWith_cons_cons, Text.join_cons_cons, List.append_assoc]
      exact .cons (fills_padded hcell) (ih (by simp))

/-! ### Widths -/

/-- Whether columns are wide enough for cells. -/
def Covers (widths : List Nat) (cells : List String) : Prop :=
  List.Forall₂ (fun width cell => cellWidth cell ≤ width) widths cells

/-- One more row leaves columns wide enough for other cells, and makes them wide enough for its
own. -/
theorem covers_zipWith {widths : List Nat} {row : List String} (hrow : row.length = widths.length) :
    (∀ cells, Covers widths cells → Covers (List.zipWith max widths (row.map cellWidth)) cells) ∧
      Covers (List.zipWith max widths (row.map cellWidth)) row := by
  induction widths generalizing row with
  | nil =>
    obtain rfl := List.length_eq_zero_iff.1 hrow
    exact ⟨fun _ h => h, .nil⟩
  | cons width widths ih =>
    obtain ⟨cell, row, rfl⟩ := List.exists_cons_of_length_eq_add_one hrow
    obtain ⟨hkeeps, hcovers⟩ := ih (Nat.succ.inj hrow)
    refine ⟨fun cells h => ?_, .cons (Nat.le_max_right ..) hcovers⟩
    cases h with
    | cons hcell hcells => exact .cons (Nat.le_trans hcell (Nat.le_max_left ..)) (hkeeps _ hcells)

/-- All rows leave columns wide enough for other cells, and make them wide enough for theirs. -/
theorem covers_foldl {rows : List (List String)} {widths : List Nat}
    (hrows : ∀ row ∈ rows, row.length = widths.length) :
    let wider := rows.foldl (fun widths row => List.zipWith max widths (row.map cellWidth)) widths
    wider.length = widths.length ∧ (∀ cells, Covers widths cells → Covers wider cells) ∧
      ∀ row ∈ rows, Covers wider row := by
  induction rows generalizing widths with
  | nil => exact ⟨rfl, fun _ h => h, fun row hrow => absurd hrow List.not_mem_nil⟩
  | cons row rows ih =>
    obtain ⟨hrow, hothers⟩ := List.forall_mem_cons.1 hrows
    obtain ⟨hkeeps, hcovers⟩ := covers_zipWith hrow
    have hstep : (List.zipWith max widths (row.map cellWidth)).length = widths.length := by
      rw [List.length_zipWith, List.length_map, hrow, Nat.min_self]
    obtain ⟨hlength, hlater, hrest⟩ :=
      ih fun other hother => (hothers other hother).trans hstep.symm
    exact ⟨hlength.trans hstep, fun cells h => hlater _ (hkeeps _ h),
      List.forall_mem_cons.2 ⟨hlater _ hcovers, hrest⟩⟩

section Widths

variable {table : Table} (h : ∀ row ∈ table.rows, row.length = table.head.length)
include h

/-- **The widths of a table**: one for every column, each wide enough for the title and for the
cells of every row. -/
theorem covers_widths : table.widths.length = table.head.length ∧
    Covers table.widths table.head ∧ ∀ row ∈ table.rows, Covers table.widths row := by
  have hrows : ∀ row ∈ table.rows, row.length = (table.head.map cellWidth).length :=
    fun row hrow => (h row hrow).trans (List.length_map _).symm
  obtain ⟨hlength, hkeeps, hcovers⟩ := covers_foldl hrows
  have hhead : Covers (table.head.map cellWidth) table.head := by
    rw [Covers, List.forall₂_map_left_iff]
    exact List.forall₂_same.2 fun cell _ => Nat.le_refl _
  exact ⟨hlength.trans (List.length_map _), hkeeps _ hhead, hcovers⟩

end Widths

/-! ### Lines of a row -/

/-- The line of a cell in a line of its row; it is empty below the last line of the cell. -/
def lineOf (index : Nat) (cell : String) : String :=
  ((cellLines cell)[index]?).getD ""

theorem le_foldl_max (first : Nat) (counts : List Nat) :
    first ≤ counts.foldl max first ∧ ∀ count ∈ counts, count ≤ counts.foldl max first := by
  induction counts generalizing first with
  | nil => exact ⟨Nat.le_refl _, fun count hcount => absurd hcount List.not_mem_nil⟩
  | cons count counts ih =>
    obtain ⟨hfirst, hcounts⟩ := ih (max first count)
    exact ⟨Nat.le_trans (Nat.le_max_left ..) hfirst,
      List.forall_mem_cons.2 ⟨Nat.le_trans (Nat.le_max_right ..) hfirst, hcounts⟩⟩

/-- A cell is as wide as its widest line. -/
theorem displayWidth_lineOf_le (index : Nat) (cell : String) :
    displayWidth (lineOf index cell) ≤ cellWidth cell := by
  rw [lineOf]
  cases hline : (cellLines cell)[index]? with
  | none => exact Nat.zero_le _
  | some line =>
    exact (le_foldl_max 1 _).2 _ (List.mem_map_of_mem (List.mem_of_getElem? hline))

/-- **Lines that show the cells of a row**: each shows one line of every cell, and there are as
many as the highest cell has. -/
structure ShowsRow (widths : List Nat) (row : List String) (lines : List (List Char)) : Prop where
  length_eq : lines.length = (row.map fun cell => (cellLines cell).length).foldl max 0
  isRow : ∀ index line, lines[index]? = some line → IsRow widths (row.map (lineOf index)) line

/-- **The lines of a row show its cells**, in columns that are wide enough. -/
theorem showsRow_rowLines {widths : List Nat} {row : List String} (hne : row ≠ [])
    (h : Covers widths row) : ShowsRow widths row (rowLines widths row) := by
  refine ⟨by rw [rowLines, List.length_map, List.length_range, List.map_map]; rfl,
    fun index line hline => ?_⟩
  rw [rowLines, List.getElem?_map] at hline
  obtain ⟨found, hfound, rfl⟩ := Option.map_eq_some_iff.1 hline
  obtain ⟨hrange, hget⟩ := List.getElem?_eq_some_iff.1 hfound
  rw [List.getElem_range] at hget
  subst hget
  rw [List.map_map]
  refine isRow_textLine (by simpa using hne) ?_
  rw [List.forall₂_map_right_iff]
  exact h.imp fun width cell hcell => Nat.le_trans (displayWidth_lineOf_le _ _) hcell

end Report.Table

end RecordQuery
