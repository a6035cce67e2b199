/-!
# Cutting a text into pieces and joining pieces

Field lists are cut at bars and commas, descriptions and table cells at line
feeds. Cutting keeps every piece, empty ones included, so that joining the pieces
again gives back the text (`RecordQuery.Text.pieces_length`,
`RecordQuery.Text.join_pieces`). The lines of a file are such pieces, less the
empty piece after a final line feed and the carriage return of a two-character
line end (`RecordQuery.Text.lines`).
-/

namespace RecordQuery.Text

/-! ### Pieces -/

/-- Puts a character in front of the first piece. -/
def consPiece (c : Char) : List (List Char) → List (List Char)
  | [] => [[c]]
  | piece :: rest => (c :: piece) :: rest

/-- The pieces of a text between the characters at which it is cut. There is one
more piece than there are cuts, so the empty text has one piece. -/
def pieces (isCut : Char → Bool) : List Char → List (List Char)
  | [] => [[]]
  | c :: text => if isCut c then [] :: pieces isCut text else consPiece c (pieces isCut text)

@[simp] theorem pieces_nil (isCut : Char → Bool) : pieces isCut [] = [[]] := rfl

theorem pieces_cons (isCut : Char → Bool) (c : Char) (text : List Char) :
    pieces isCut (c :: text) =
      if isCut c then [] :: pieces isCut text else consPiece c (pieces isCut text) := rfl

theorem pieces_ne_nil (isCut : Char → Bool) (text : List Char) : pieces isCut text ≠ [] := by
  cases text with
  | nil => simp
  | cons c text =>
    rw [pieces_cons]
    split
    · simp
    · cases pieces isCut text <;> simp [consPiece]

/-- **Cuts and pieces**: every cut adds one piece. -/
theorem pieces_length (isCut : Char → Bool) (text : List Char) :
    (pieces isCut text).length = text.countP isCut + 1 := by
  induction text with
  | nil => rfl
  | cons c text ih =>
    rw [pieces_cons]
    split
    · next h => simp [h, ih]
    · next h =>
      have hlen : ∀ ps : List (List Char), ps ≠ [] → (consPiece c ps).length = ps.length := by
        intro ps hps
        cases ps with
        | nil => exact absurd rfl hps
        | cons p ps => rfl
      rw [hlen _ (pieces_ne_nil isCut text), ih]
      simp [h]

/-! ### Joining -/

/-- The texts in order, with a separator between neighbours. -/
def join (separator : List Char) : List (List Char) → List Char
  | [] => []
  | [piece] => piece
  | piece :: rest => piece ++ separator ++ join separator rest

@[simp] theorem join_nil (separator : List Char) : join separator [] = [] := rfl

@[simp] theorem join_singleton (separator piece : List Char) :
    join separator [piece] = piece := rfl

@[simp] theorem join_cons_cons (separator first second : List Char)
    (rest : List (List Char)) :
    join separator (first :: second :: rest) =
      first ++ separator ++ join separator (second :: rest) := rfl

theorem join_consPiece (separator : List Char) (c : Char) {ps : List (List Char)}
    (h : ps ≠ []) : join separator (consPiece c ps) = c :: join separator ps := by
  match ps, h with
  | [p], _ => rfl
  | p :: q :: rest, _ => rfl

/-- **Joining undoes cutting**: the pieces between the occurrences of one character,
joined by that character, are the text. -/
theorem join_pieces (cut : Char) (text : List Char) :
    join [cut] (pieces (· == cut) text) = text := by
  induction text with
  | nil => rfl
  | cons c text ih =>
    rw [pieces_cons]
    split
    · next h =>
      have hc : c = cut := eq_of_beq h
      cases hps : pieces (· == cut) text with
      | nil => exact absurd hps (pieces_ne_nil _ _)
      | cons p ps => rw [join_cons_cons, ← hps, ih, hc]; rfl
    · rw [join_consPiece _ _ (pieces_ne_nil _ _), ih]

/-- The strings in order, with a separator between neighbours. -/
def joinStrings (separator : String) (texts : List String) : String :=
  String.ofList (join separator.toList (texts.map String.toList))

/-! ### Lines -/

/-- A line without the carriage return at its end. -/
def dropReturn (line : List Char) : List Char :=
  if line.getLast? = some '\r' then line.dropLast else line

/-- The lines of a text. A line ends at a line feed, with one carriage return before
it dropped; what follows the last line feed is a line only if it is not empty. -/
def lines (text : List Char) : List (List Char) :=
  let cut := pieces (· == '\n') text
  cut.dropLast.map dropReturn ++ (cut.getLast?.toList.filter fun last => !last.isEmpty)

end RecordQuery.Text
