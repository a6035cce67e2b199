import RecordQuery.Proofs.Names
import RecordQuery.Proofs.Tables
import RecordQuery.Report

/-!
# Lines of a report on matches

A report on matches for people is read line by line, by eye or by a program, and the line of a
match is found by counting: a label, a blank line, three lines of the head, and then one line
for each match with a rule between neighbours. This file proves the count, whatever the fields
of the records read.

What it rests on is said of one cell. The text of a field takes one line there, because a line
feed is written as two characters, and it takes at most sixty characters, because a longer text
is cut (`RecordQuery.Report.ShowsText`). The order of the two matters: a text grows when its
line feeds are written out, and it is the grown text that is measured and cut.

A line shows a record if the cells that it has between its bars show the fields of the record
(`RecordQuery.Report.ShowsRecord`). No other cells are shown by it.
-/

namespace RecordQuery

/-- Joining lines and ending the last one is ending each of them. -/
theorem Text.join_append_feed {lines : List (List Char)} (h : lines ≠ []) :
    join ['\n'] lines ++ ['\n'] = lines.flatMap (· ++ ['\n']) := by
  obtain ⟨front, last, rfl⟩ := (List.eq_nil_or_concat' lines).resolve_left h
  rw [join_concat, List.flatMap_append]
  simp

namespace Report

open RecordQuery.Json (Entries Value)
open RecordQuery.Query (FieldList)

/-! ### Rows of one line -/

namespace Table

/-- A cell without a line feed has one line. -/
theorem cellLines_of_notMem {cell : String} (h : '\n' ∉ cell.toList) : cellLines cell = [cell] := by
  have huncut : ∀ c ∈ cell.toList, (c == '\n') = false := by
    intro c hc
    rw [beq_eq_false_iff_ne]
    rintro rfl
    exact h hc
  rw [cellLines, Text.pieces_of_uncut huncut, List.map_singleton, String.ofList_toList]

/-- The cells of a row without a line feed are the lines of its first line. -/
theorem map_lineOf_zero {row : List String} (h : ∀ cell ∈ row, '\n' ∉ cell.toList) :
    row.map (lineOf 0) = row := by
  refine (List.map_congr_left fun cell hcell => ?_).trans (List.map_id _)
  rw [lineOf, cellLines_of_notMem (h cell hcell), List.getElem?_cons_zero, Option.getD_some, id_eq]

/-- A row of cells without a line feed is one line, if it has a cell. -/
theorem rowLines_of_notMem (widths : List Nat) {row : List String} (hne : row ≠ [])
    (h : ∀ cell ∈ row, '\n' ∉ cell.toList) : rowLines widths row = [textLine widths row] := by
  have hcells : row.map cellLines = row.map fun cell => [cell] :=
    List.map_congr_left fun cell hcell => cellLines_of_notMem (h cell hcell)
  have hheight : ((row.map fun cell => [cell]).map List.length).foldl max 0 = 1 := by
    obtain ⟨first, others, rfl⟩ := List.exists_cons_of_ne_nil hne
    rw [List.map_map, List.map_cons, List.foldl_cons]
    have hone : max 0 ((List.length ∘ fun cell : String => [cell]) first) = 1 := rfl
    rw [hone]
    clear hcells h hne
    induction others with
    | nil => rfl
    | cons next others ih => exact ih
  have hline : (row.map fun cell => [cell]).map (fun lines => (lines[0]?).getD "") = row := by
    rw [List.map_map]
    exact List.map_id row
  rw [rowLines, hcells, hheight, List.range_one, List.map_singleton, hline]

/-- **The lines between the rules** of a table whose rows are one line each: these lines in
their order, with a dashed rule between neighbours. -/
theorem bodyLines_of_single (widths : List Nat) {rows : List (List String)}
    (h : ∀ row ∈ rows, rowLines widths row = [textLine widths row]) :
    bodyLines widths rows =
      (rows.map (textLine widths)).intersperse (rowRule.line widths) := by
  induction rows with
  | nil => rfl
  | cons row rows ih =>
    have hrow := h row List.mem_cons_self
    cases rows with
    | nil => exact hrow
    | cons next rows =>
      have hrest := ih fun other hother => h other (List.mem_cons_of_mem row hother)
      rw [bodyLines, hrow, hrest]
      rfl

end Table

/-! ### Cells -/

/-- A text with a backslash and an `n` for every line feed: these two between the pieces that
the line feeds separate. -/
def writtenOut (text : String) : List Char :=
  Text.join ['\\', 'n'] (Text.pieces (· == '\n') text.toList)

theorem toList_oneLine (text : String) : (oneLine text).toList = writtenOut text := by
  rw [oneLine, String.toList_ofList, writtenOut, Text.join_pieces_eq_flatMap]
  refine List.flatMap_congr fun c _ => ?_
  rw [cellChar]
  by_cases hc : c = '\n'
  · rw [if_pos hc, if_pos (beq_iff_eq.2 hc)]
  · rw [if_neg hc, if_neg (by simpa using hc)]

/-- **How a text is shown in a cell**: on one line of at most sixty characters, in full if it
fits once its line feeds are written out, and else by the start of what is written out and three
points. -/
structure ShowsText (text cell : String) : Prop where
  /-- The cell has at most sixty characters. -/
  length_le : cell.length ≤ 60
  /-- The cell is one line. -/
  newline_notMem : '\n' ∉ cell.toList
  /-- A text that fits is shown in full. -/
  whole : (writtenOut text).length ≤ 60 → cell.toList = writtenOut text
  /-- A longer one is cut. -/
  cut : 60 < (writtenOut text).length →
    cell.toList = (writtenOut text).take 57 ++ ['.', '.', '.']

theorem truncate_of_le {text : String} {most : Nat} (h : text.length ≤ most) :
    truncate text most = text :=
  if_pos h

theorem toList_truncate_of_lt {text : String} {most : Nat} (h : most < text.length) :
    (truncate text most).toList = text.toList.take (most - 3) ++ ['.', '.', '.'] := by
  rw [truncate, if_neg (Nat.not_le.2 h), String.toList_append, String.toList_ofList]
  rfl

/-- A text that is cut has as many characters as it may have. -/
theorem length_truncate_le {most : Nat} (hmost : 3 ≤ most) (text : String) :
    (truncate text most).length ≤ most := by
  rcases Nat.lt_or_ge most text.length with h | h
  · have htake : (text.toList.take (most - 3)).length ≤ most - 3 := List.length_take_le _ _
    rw [← String.length_toList, toList_truncate_of_lt h, List.length_append]
    simp only [List.length_cons, List.length_nil]
    omega
  · rw [truncate_of_le h]
    exact h

/-- A cell has no line feed. -/
theorem newline_notMem_cell (record : Entries) (column : String) :
    '\n' ∉ (cell record column).toList := by
  have honeLine : ∀ text, '\n' ∉ (oneLine text).toList := by
    intro text hmem
    rw [oneLine, String.toList_ofList] at hmem
    obtain ⟨c, -, hc⟩ := List.mem_flatMap.1 hmem
    rw [cellChar] at hc
    split at hc
    · exact absurd hc (by decide)
    · next hne => exact hne (List.mem_singleton.1 hc).symm
  intro hmem
  rw [cell, truncate] at hmem
  split at hmem
  · exact honeLine _ hmem
  · rw [String.toList_append, String.toList_ofList] at hmem
    rcases List.mem_append.1 hmem with h | h
    · exact honeLine _ (List.mem_of_mem_take h)
    · exact absurd h (by decide)

section Cell

variable {record : Entries} {column : String}

/-- **The cell of a field shows its text.** -/
theorem showsText_cell {text : String} (h : Record.fieldText record column = some text) :
    ShowsText text (cell record column) := by
  have hcell : cell record column = truncate (oneLine text) widestCell := by
    rw [cell, h, Option.getD_some]
  have hlength : (oneLine text).length = (writtenOut text).length := by
    rw [← String.length_toList, toList_oneLine]
  refine ⟨?_, newline_notMem_cell record column, fun hfits => ?_, fun hlong => ?_⟩
  · rw [hcell]
    exact length_truncate_le (by decide) _
  · rw [hcell, truncate_of_le (hlength ▸ hfits), toList_oneLine]
  · rw [hcell, toList_truncate_of_lt (hlength ▸ hlong), toList_oneLine]
    rfl

/-- The cell of a field without a text is empty. -/
theorem cell_of_fieldText_none (h : Record.fieldText record column = none) :
    cell record column = "" := by
  rw [cell, h]
  rfl

end Cell

/-- **How a field of a record is shown in a cell**: by its text, or by nothing if it is absent or
null. -/
structure ShowsField (record : Entries) (column cell : String) : Prop where
  /-- An absent field, or null, leaves the cell empty. -/
  absent : Json.field? record column = none ∨ Json.field? record column = some .null → cell = ""
  /-- The text of any other field is shown. -/
  present : ∀ value text, Json.field? record column = some value → value.text? = some text →
    ShowsText text cell

/-- **A cell shows its field.** -/
theorem showsField_cell (record : Entries) (column : String) :
    ShowsField record column (cell record column) where
  absent h := by
    refine cell_of_fieldText_none ?_
    rw [Record.fieldText_entries]
    rcases h with h | h <;> rw [h] <;> rfl
  present value text hvalue htext := by
    refine showsText_cell ?_
    rw [Record.fieldText_entries, hvalue]
    exact htext

/-! ### Lines of a table -/

/-- A line of a frame: for each column a run of one character, two longer than the column is
wide, with a crossing between neighbours. -/
def ruled (left fill cross right : Char) (widths : List Nat) : List Char :=
  left :: Text.join [cross] (widths.map fun width => List.replicate (width + 2) fill) ++ [right]

/-- The lines of a framed table, given the lines between its rules. -/
def framed (widths : List Nat) (head rows : List (List Char)) : List (List Char) :=
  ruled '┌' '─' '┬' '┐' widths :: head ++
    ruled '╞' '═' '╪' '╡' widths :: rows.intersperse (ruled '├' '╌' '┼' '┤' widths) ++
    [ruled '└' '─' '┴' '┘' widths]

/-- **A line that shows a record**: a cell for every column, which shows its field. -/
def ShowsRecord (widths : List Nat) (columns : FieldList) (record : Entries)
    (line : List Char) : Prop :=
  ∃ cells, Table.IsRow widths cells line ∧ List.Forall₂ (ShowsField record) columns.names cells

section Records

variable {columns : FieldList} (hne : columns.names ≠ [])

/-- No cell of a record has a line feed. -/
theorem newline_notMem_cells (columns : FieldList) (record : Entries) :
    ∀ text ∈ columns.names.map (cell record), '\n' ∉ text.toList := by
  intro text htext
  obtain ⟨column, -, rfl⟩ := List.mem_map.1 htext
  exact newline_notMem_cell record column

include hne in
/-- **A record is one line of the table**, whatever its fields read, if there is a column. -/
theorem rowLines_cells (widths : List Nat) (record : Entries) :
    Table.rowLines widths (columns.names.map (cell record)) =
      [Table.textLine widths (columns.names.map (cell record))] :=
  Table.rowLines_of_notMem widths (by simpa using hne) (newline_notMem_cells columns record)

/-- The line of a record in a table of records. -/
def recordLine (columns : FieldList) (records : List Entries) (record : Entries) : List Char :=
  Table.textLine (table columns records).widths (columns.names.map (cell record))

include hne in
/-- The lines of a table of records: under the head, one line for each record in their order. -/
theorem lines_table (records : List Entries) :
    (table columns records).lines =
      framed (table columns records).widths
        (Table.rowLines (table columns records).widths columns.names)
        (records.map (recordLine columns records)) := by
  have hrows : ∀ row ∈ (table columns records).rows,
      Table.rowLines (table columns records).widths row =
        [Table.textLine (table columns records).widths row] := by
    intro row hrow
    obtain ⟨record, -, rfl⟩ := List.mem_map.1 hrow
    exact rowLines_cells hne _ record
  have hlines : (table columns records).rows.map
      (Table.textLine (table columns records).widths) = records.map (recordLine columns records) :=
    List.map_map
  rw [Table.lines, Table.bodyLines_of_single _ hrows, hlines]
  rfl

/-- Every row of a table of records has a cell for every column. -/
theorem length_rows (columns : FieldList) (records : List Entries) :
    ∀ row ∈ (table columns records).rows, row.length = (table columns records).head.length := by
  intro row hrow
  obtain ⟨record, -, rfl⟩ := List.mem_map.1 hrow
  exact List.length_map _

theorem length_widths_table (columns : FieldList) (records : List Entries) :
    (table columns records).widths.length = columns.names.length :=
  (Table.covers_widths (length_rows columns records)).1

include hne in
/-- **The head of the table** shows the names of the columns. -/
theorem showsRow_head (records : List Entries) :
    Table.ShowsRow (table columns records).widths columns.names
      (Table.rowLines (table columns records).widths columns.names) :=
  Table.showsRow_rowLines hne (Table.covers_widths (length_rows columns records)).2.1

include hne in
/-- **The line of a record** shows it. -/
theorem showsRecord_recordLine {records : List Entries} {record : Entries}
    (h : record ∈ records) :
    ShowsRecord (table columns records).widths columns record
      (recordLine columns records record) := by
  have hcovers : Table.Covers (table columns records).widths (columns.names.map (cell record)) :=
    (Table.covers_widths (length_rows columns records)).2.2 _ (List.mem_map_of_mem h)
  have hrow := Table.showsRow_rowLines (by simpa using hne) hcovers
  have hline := hrow.isRow 0 (recordLine columns records record)
    (by rw [rowLines_cells hne, recordLine]; rfl)
  rw [Table.map_lineOf_zero (newline_notMem_cells columns record)] at hline
  refine ⟨_, hline, ?_⟩
  rw [List.forall₂_map_right_iff]
  exact List.forall₂_same.2 fun column _ => showsField_cell record column

end Records

/-! ### Lines without a line feed -/

section Newline

variable (widths : List Nat)

/-- What stands between two ends, with a character between its pieces, has no line feed if none
of these has one. -/
theorem newline_notMem_between {left cross right : Char} (h : '\n' ∉ [left, cross, right])
    {pieces : List (List Char)} (hpieces : ∀ piece ∈ pieces, '\n' ∉ piece) :
    '\n' ∉ left :: Text.join [cross] pieces ++ [right] := by
  simp only [List.mem_cons, List.not_mem_nil, or_false, not_or] at h
  obtain ⟨hleft, hcross, hright⟩ := h
  intro hmem
  rw [List.mem_append, List.mem_cons, List.mem_singleton] at hmem
  rcases hmem with (hmem | hmem) | hmem
  · exact hleft hmem
  · rcases Text.mem_join hmem with hmem | ⟨piece, hpiece, hmem⟩
    · exact hcross (List.mem_singleton.1 hmem)
    · exact hpieces piece hpiece hmem
  · exact hright hmem

theorem newline_notMem_ruled {left fill cross right : Char}
    (h : '\n' ∉ [left, cross, right]) (hfill : '\n' ≠ fill) :
    '\n' ∉ ruled left fill cross right widths := by
  refine newline_notMem_between h fun piece hpiece hmem => ?_
  obtain ⟨width, -, rfl⟩ := List.mem_map.1 hpiece
  exact hfill (List.eq_of_mem_replicate hmem)

/-- A row of cells without a line feed has none. -/
theorem newline_notMem_textLine {cells : List String} (h : ∀ cell ∈ cells, '\n' ∉ cell.toList) :
    '\n' ∉ Table.textLine widths cells := by
  refine newline_notMem_between (by decide) fun piece hpiece hmem => ?_
  obtain ⟨i, hi⟩ := List.getElem?_of_mem hpiece
  obtain ⟨width, cell, -, hcell, rfl⟩ := List.getElem?_zipWith_eq_some.1 hi
  have hnone := h cell (List.mem_of_getElem? hcell)
  simp [Table.padded, hnone] at hmem

end Newline

theorem mem_of_mem_intersperse {α : Type} {separator item : α} {items : List α}
    (h : item ∈ items.intersperse separator) : item = separator ∨ item ∈ items := by
  obtain ⟨i, hi⟩ := List.getElem?_of_mem h
  rw [List.getElem?_intersperse] at hi
  split at hi
  · exact .inr (List.mem_of_getElem? hi)
  · split at hi
    · exact .inl (Option.some.inj hi).symm
    · exact absurd hi (by simp)

/-- No line of a framed table has a line feed in it, if none does between its rules. -/
theorem newline_notMem_framed (widths : List Nat) {head rows : List (List Char)}
    (hhead : ∀ line ∈ head, '\n' ∉ line) (hrows : ∀ line ∈ rows, '\n' ∉ line) :
    ∀ line ∈ framed widths head rows, '\n' ∉ line := by
  intro line hline
  simp only [framed, List.mem_append, List.mem_cons, List.not_mem_nil, or_false] at hline
  rcases hline with ((rfl | hline) | rfl | hline) | rfl
  · exact newline_notMem_ruled widths (by decide) (by decide)
  · exact hhead line hline
  · exact newline_notMem_ruled widths (by decide) (by decide)
  · rcases mem_of_mem_intersperse hline with rfl | hline
    · exact newline_notMem_ruled widths (by decide) (by decide)
    · exact hrows line hline
  · exact newline_notMem_ruled widths (by decide) (by decide)

/-! ### The report -/

/-- The first line of a report: how many records match. -/
def labelLine (count : Nat) : String :=
  "SEARCH matched " ++ toString count ++ (if count = 1 then " record" else " records")

theorem matchedLabel_eq (count : Nat) : matchedLabel count = labelLine count := by
  delta matchedLabel labelLine
  split
  · exact String.append_empty
  · exact String.append_assoc

theorem newline_notMem_labelLine (count : Nat) : '\n' ∉ (labelLine count).toList := by
  have hdigits : '\n' ∉ (toString count).toList := by
    intro hdigit
    rw [Nat.toString_eq_ofList_toDigits, String.toList_ofList] at hdigit
    exact absurd (Nat.isDigit_of_mem_toDigits (by decide) (by decide) hdigit) (by decide)
  intro hmem
  delta labelLine at hmem
  simp only [String.toList_append, List.mem_append] at hmem
  rcases hmem with (hmem | hmem) | hmem
  · exact absurd hmem (by decide)
  · exact hdigits hmem
  · split at hmem
    · exact absurd hmem (by decide)
    · exact absurd hmem (by decide)

section Report

variable {columns : FieldList} {records : List Entries}

/-- The lines of a report on matches. -/
def reportLines (columns : FieldList) (records : List Entries) : List (List Char) :=
  let widths := (table columns records).widths
  (labelLine records.length).toList :: [] ::
    framed widths [Table.textLine widths columns.names] (records.map (recordLine columns records))

/-- The report is its lines, each with a line feed behind it. -/
theorem toList_matchesText (hrecords : records ≠ []) (hcolumns : columns.names ≠ [])
    (hnames : ∀ name ∈ columns.names, '\n' ∉ name.toList) :
    (matchesText false columns records).toList =
      (reportLines columns records).flatMap (· ++ ['\n']) := by
  have hempty : records.isEmpty = false := by simpa using hrecords
  have htable : (table columns records).lines ≠ [] := by
    rw [lines_table hcolumns]
    simp [framed]
  have hlines : reportLines columns records =
      (labelLine records.length).toList :: [] :: (table columns records).lines := by
    rw [lines_table hcolumns, Table.rowLines_of_notMem _ hcolumns hnames]
    rfl
  rw [hlines, List.flatMap_cons, List.flatMap_cons, ← Text.join_append_feed htable, matchesText,
    hempty, bold, Table.text, matchedLabel_eq]
  simp

/-- No line of the report has a line feed in it. -/
theorem newline_notMem_reportLines (hnames : ∀ name ∈ columns.names, '\n' ∉ name.toList) :
    ∀ line ∈ reportLines columns records, '\n' ∉ line := by
  refine List.forall_mem_cons.2 ⟨newline_notMem_labelLine _, List.forall_mem_cons.2
    ⟨List.not_mem_nil, newline_notMem_framed _ ?_ fun line hline => ?_⟩⟩
  · exact List.forall_mem_singleton.2 (newline_notMem_textLine _ hnames)
  · obtain ⟨record, -, rfl⟩ := List.mem_map.1 hline
    exact newline_notMem_textLine _ (newline_notMem_cells columns record)

end Report

/-- **One line for each match.** A report without color on at least one match, with at least one
column and no line feed in a column name, is so many lines, each with a line feed behind it and
none in it: a label, an empty line, three lines of the head, a line for each match in their
order with a dashed rule between neighbours, and a rule at the end; five lines and twice as many
as there are matches. The line of the head shows the names of the columns, and the line of a
match has a cell for each column. A field that is absent or null leaves its cell empty, and the
text of any other field is shown on one line of at most sixty characters. A line shows no other
cells, the number of blanks at their ends apart. -/
theorem matchesText_rows {columns : FieldList} {records : List Entries} (hrecords : records ≠ [])
    (hcolumns : columns.names ≠ []) (hnames : ∀ name ∈ columns.names, '\n' ∉ name.toList) :
    ∃ (lines : List (List Char)) (widths : List Nat) (head : List Char),
      (matchesText false columns records).toList = lines.flatMap (· ++ ['\n']) ∧
        (∀ line ∈ lines, '\n' ∉ line) ∧
        lines.length = 2 * records.length + 5 ∧
        widths.length = columns.names.length ∧
        lines.take 5 = [(labelLine records.length).toList, [], ruled '┌' '─' '┬' '┐' widths, head,
          ruled '╞' '═' '╪' '╡' widths] ∧
        Table.IsRow widths columns.names head ∧
        (∀ i record, records[i]? = some record →
          ∃ line, lines[2 * i + 5]? = some line ∧ ShowsRecord widths columns record line) ∧
        (∀ i, i + 1 < records.length →
          lines[2 * i + 6]? = some (ruled '├' '╌' '┼' '┤' widths)) ∧
        lines.getLast? = some (ruled '└' '─' '┴' '┘' widths) ∧
        ∀ cells others line, Table.IsRow widths cells line → Table.IsRow widths others line →
          others.map Table.stripped = cells.map Table.stripped := by
  have hlength : ((records.map (recordLine columns records)).intersperse
      (ruled '├' '╌' '┼' '┤' (table columns records).widths)).length =
        2 * records.length - 1 := by
    rw [List.length_intersperse, List.length_map]
  have hpos : 0 < records.length := List.length_pos_iff.2 hrecords
  refine ⟨reportLines columns records, (table columns records).widths,
    Table.textLine (table columns records).widths columns.names,
    toList_matchesText hrecords hcolumns hnames, newline_notMem_reportLines hnames, ?_,
    length_widths_table columns records, rfl, ?_, ?_, ?_, ?_,
    fun cells others line h hothers => h.unique hothers⟩
  · simp only [reportLines, framed, List.length_cons, List.length_append, List.length_nil, hlength]
    omega
  · have hhead := (showsRow_head hcolumns records).isRow 0
      (Table.textLine (table columns records).widths columns.names)
      (by rw [Table.rowLines_of_notMem _ hcolumns hnames]; rfl)
    rwa [Table.map_lineOf_zero hnames] at hhead
  · intro i record hrecord
    have hi : i < records.length := (List.getElem?_eq_some_iff.1 hrecord).1
    refine ⟨_, ?_, showsRecord_recordLine hcolumns (List.mem_of_getElem? hrecord)⟩
    -- five lines stand in front of the first record
    change (_ ++ [_])[2 * i]? = _
    rw [List.getElem?_append_left (by omega), List.getElem?_intersperse_two_mul, List.getElem?_map,
      hrecord]
    rfl
  · intro i hi
    change (_ ++ [_])[2 * i + 1]? = _
    rw [List.getElem?_append_left (by omega), List.getElem?_intersperse_two_mul_add_one]
    rwa [List.length_map]
  · simp [reportLines, framed, List.getLast?_cons]

/-- Columns of which one has a name that is not ASCII. -/
def sampleColumns : FieldList :=
  ⟨["note", "größe"]⟩

/-- Two records: with a text of two lines and a null, and with a text of sixty characters of which
the last is a line feed. -/
def sampleRecords : List Entries :=
  [[("größe", .null), ("note", .string "Ada\nLovelace")],
    [("größe", .string (String.ofList (List.replicate 59 'é' ++ ['\n'])))]]

/-- The last text fits until its line feed is written out. -/
theorem matchesText_rows_sample :
    sampleRecords ≠ [] ∧ sampleColumns.names ≠ [] ∧
      (∀ name ∈ sampleColumns.names, '\n' ∉ name.toList) ∧
      ∃ (lines : List (List Char)) (widths : List Nat),
        (matchesText false sampleColumns sampleRecords).toList = lines.flatMap (· ++ ['\n']) ∧
          lines.length = 9 ∧ widths.length = 2 ∧
          ∃ note size, (∃ line, lines[5]? = some line ∧ Table.IsRow widths [note, ""] line) ∧
            (∃ line, lines[7]? = some line ∧ Table.IsRow widths ["", size] line) ∧
            note.toList = "Ada\\nLovelace".toList ∧
            size.toList = List.replicate 57 'é' ++ ['.', '.', '.'] := by
  have hrecords : sampleRecords ≠ [] := List.cons_ne_nil _ _
  have hcolumns : sampleColumns.names ≠ [] := List.cons_ne_nil _ _
  have hnames : ∀ name ∈ sampleColumns.names, '\n' ∉ name.toList := by decide
  obtain ⟨lines, widths, -, htext, -, hlength, hwidths, -, -, hrecord, -⟩ :=
    matchesText_rows hrecords hcolumns hnames
  obtain ⟨first, hfirst, cells, hrow, hcells⟩ := hrecord 0 _ rfl
  obtain ⟨second, hsecond, others, hother, hothers⟩ := hrecord 1 _ rfl
  cases hcells with
  | @cons _ note _ _ hnote hcells =>
  cases hcells with
  | cons hnull hcells =>
  cases hcells
  cases hothers with
  | cons habsent hothers =>
  cases hothers with
  | @cons _ size _ _ hsize hothers =>
  cases hothers
  have htwo : ShowsText "Ada\nLovelace" note := hnote.present (.string _) _ rfl rfl
  have hsixty : ShowsText (String.ofList (List.replicate 59 'é' ++ ['\n'])) size :=
    hsize.present (.string _) _ rfl rfl
  obtain rfl := hnull.absent (.inr rfl)
  obtain rfl := habsent.absent (.inl rfl)
  exact ⟨hrecords, hcolumns, hnames, lines, widths, htext, hlength, hwidths, note, size,
    ⟨first, hfirst, hrow⟩, ⟨second, hsecond, hother⟩,
    (htwo.whole (by decide +kernel)).trans (by decide +kernel),
    (hsixty.cut (by decide +kernel)).trans (by decide +kernel)⟩

end Report

end RecordQuery
