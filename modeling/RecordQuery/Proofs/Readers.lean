import RecordQuery.Json.Reader
import RecordQuery.Json.Relaxed
import RecordQuery.Proofs.Lexing

/-!
# The two readers on JSON

Both readers of JSON texts cut a text of RFC 8259 into its lexemes
(`RecordQuery.Json.Strict.reads`, `RecordQuery.Json.Relaxed.reads`), so each reads any
text of a term for the value of the term under its own rule for numbers
(`RecordQuery.Json.read_eq`, `RecordQuery.Json.readRelaxed_eq`). Keys, texts, literals
and the order of everything are the same for both; they differ in the numbers, and in
how many containers may be inside one another.

The relaxed reader accepts more, and most of what has to be shown for it is that what it
adds does not get in the way: a number in the strict syntax is never taken for one in
hexadecimal digits, a literal is a name that ends where the literal does, and no lexeme
starts a comment.
-/

namespace RecordQuery.Json

open RecordQuery.Decimal (Numeral)

/-! ### The rules for numbers -/

namespace NumberText

/-- The parts of a number, as both rules read them. -/
def numeral (n : NumberText) : Numeral :=
  ⟨n.negative, n.whole.values, (n.fraction.map Digits.values).getD [],
    (n.power.map PowerText.value).getD 0⟩

/-- The digits of a number before its point, as a number. -/
def magnitude (n : NumberText) : Nat :=
  n.numeral.wholeValue

/-- Whether a number has neither a point nor an exponent. -/
def isInteger (n : NumberText) : Bool :=
  n.fraction.isNone && n.power.isNone

/-- The value of a number for the strict reader, if it is in range. -/
def strictValue? (n : NumberText) : Option Value :=
  match if n.isInteger then Strict.integer? n.negative n.magnitude else none with
  | some value => some (.number (.integer value))
  | none => n.numeral.byWord?.map fun x => .number (.float x)

/-- The value of a number for the relaxed reader. -/
def relaxedValue (n : NumberText) : Value :=
  if n.isInteger then Relaxed.wholeNumber n.negative n.magnitude
  else Relaxed.doubleNumber n.numeral

/-- A zero in front of the point stands alone. -/
theorem values_ne (n : NumberText) (d : Nat) (ds : List Nat) : n.whole.values ≠ 0 :: d :: ds := by
  intro h
  obtain ⟨hfirst, hothers⟩ := List.cons.inj h
  rw [n.leadingZero (Fin.ext hfirst)] at hothers
  exact absurd hothers (by simp)

end NumberText

/-- The lexemes of the strict reader. -/
def strictReading : Reading where
  word := fun w => .scalar w.value
  word_eq := fun _ => .inl rfl
  number := NumberText.strictValue?

/-- The lexemes of the relaxed reader. -/
def relaxedReading : Reading where
  word := fun w => .word (String.ofList w.text) w.value
  word_eq := fun _ => .inr ⟨_, rfl⟩
  number := fun n => some n.relaxedValue

theorem mark?_char (m : Mark) : mark? m.char = some m.token := by
  cases m <;> rfl

theorem isBroken_token (m : Mark) : m.token.isBroken = false := by
  cases m <;> rfl

theorem mem_startChars_of_mark (m : Mark) : m.char ∈ startChars := by
  cases m <;> decide

theorem mem_startChars_of_digit (d : Fin 10) : Nat.digitChar d.val ∈ startChars := by
  have hall : ∀ d : Fin 10, Nat.digitChar d.val ∈ startChars := by decide
  exact hall d

theorem mark?_digitChar (d : Fin 10) : mark? (Nat.digitChar d.val) = none := by
  have hall : ∀ d : Fin 10, (mark? (Nat.digitChar d.val)).isNone = true := by decide
  exact Option.isNone_iff_eq_none.1 (hall d)

/-- A character that is no digit is not the first of a number without a sign. -/
theorem digitChar_ne (d : Fin 10) {c : Char} (hc : isDigit c = false) :
    Nat.digitChar d.val ≠ c := by
  intro h
  rw [← h, isDigit_digitChar] at hc
  exact absurd hc (by simp)

namespace Strict

/-! ### White space -/

theorem tokens_nil : tokens [] = [] := by
  rw [tokens.eq_def]

theorem tokens_gap {c : Char} (cs : List Char) (h : isGap c = true) :
    tokens (c :: cs) = tokens cs := by
  have hspace : isSpace c = true := by
    simp only [isGap, Bool.or_eq_true, beq_iff_eq] at h
    rcases h with ((rfl | rfl) | rfl) | rfl <;> rfl
  rw [tokens.eq_def]
  exact if_pos hspace

theorem tokens_cons {c : Char} (cs : List Char) (h : isSpace c = false) :
    tokens (c :: cs) = if (token c cs).1.isBroken then [(token c cs).1]
      else (token c cs).1 :: tokens (token c cs).2 := by
  rw [tokens.eq_def]
  exact if_neg (by simp [h])

theorem tokens_start {c : Char} (cs : List Char) (h : c ∈ startChars) :
    tokens (c :: cs) = if (token c cs).1.isBroken then [(token c cs).1]
      else (token c cs).1 :: tokens (token c cs).2 := by
  have hall : startChars.all (fun c => !isSpace c) = true := by decide
  exact tokens_cons cs (by simpa using List.all_eq_true.1 hall c h)

/-! ### Texts -/

theorem text_escape (read : List Char) {cs rest : List Char} {d : Char}
    (h : escape cs = .ok (d, rest)) : text read ('\\' :: cs) = text (d :: read) rest := by
  rw [text.eq_def]
  dsimp only
  rw [if_neg (by decide), if_pos rfl]
  split
  · next d' rest' h' =>
    obtain ⟨rfl, rfl⟩ : d = d' ∧ rest = rest' := by simpa [h] using h'
    rfl
  · next fault h' => exact absurd (h.symm.trans h') (by simp)

theorem text_escape_error (read : List Char) {cs : List Char} {fault : Fault}
    (h : escape cs = .error fault) : text read ('\\' :: cs) = (.brokenText fault, []) := by
  rw [text.eq_def]
  dsimp only
  rw [if_neg (by decide), if_pos rfl]
  split
  · next d' rest' h' => exact absurd (h.symm.trans h') (by simp)
  · next fault' h' =>
    obtain rfl : fault = fault' := by simpa [h] using h'
    rfl

theorem readsText : ReadsText text where
  closing read rest := by
    rw [text.eq_def]
    rfl
  plain read rest {c} h := by
    simp only [isPlain, Bool.and_eq_true, decide_eq_true_eq, bne_iff_ne] at h
    obtain ⟨⟨hcode, hquote⟩, hslash⟩ := h
    rw [text.eq_def]
    simp [hquote, hslash, Nat.not_lt.2 hcode]
  short read rest e := text_escape read (by cases e <;> rfl)
  unit read {cs rest c} h := text_escape read h
  fault read {cs fault} h := text_escape_error read h

/-! ### Numbers -/

theorem wholePart_text (n : NumberText) {rest : List Char}
    (hrest : ∀ c ∈ rest.head?, isDigit c = false) :
    wholePart (n.whole.text ++ rest) = .ok (n.whole.values, rest) := by
  rw [wholePart, someDigits_text n.whole hrest]
  split
  · next d ds _ heq => exact absurd (congrArg Prod.fst (Except.ok.inj heq)) (n.values_ne d ds)
  · rfl

theorem fraction_text (f : Option Digits) {rest : List Char}
    (hrest : ∀ c ∈ rest.head?, c ∈ powerChars) :
    fraction (NumberText.fractionText f ++ rest) = .ok (f.map Digits.values, rest) := by
  rcases f with _ | ds
  · cases rest with
    | nil => rfl
    | cons c rest =>
      have hall : powerChars.all (fun c => c != '.') = true := by decide
      have hc : c ≠ '.' := by simpa using List.all_eq_true.1 hall c (hrest c rfl)
      rw [NumberText.fractionText, List.nil_append, fraction, if_neg hc]
      rfl
  · have hdigit : ∀ c ∈ rest.head?, isDigit c = false := fun c hc =>
      not_isDigit_of_mem (List.mem_cons_of_mem _ (hrest c hc))
    rw [NumberText.fractionText, List.cons_append, fraction, if_pos rfl,
      someDigits_text ds hdigit]
    rfl

theorem numberValue?_eq (n : NumberText) :
    (numberValue? n.negative n.whole.values (n.fraction.map Digits.values)
      (n.power.map PowerText.value)).map .number = n.strictValue? := by
  have hnumber : numberValue? n.negative n.whole.values (n.fraction.map Digits.values)
      (n.power.map PowerText.value) =
        match if n.isInteger then integer? n.negative n.magnitude else none with
        | some value => some (.integer value)
        | none => n.numeral.byWord?.map .float := by
    rcases n with ⟨negative, whole, _ | f, _ | p, hzero⟩ <;> rfl
  rw [hnumber, NumberText.strictValue?]
  cases if n.isInteger then integer? n.negative n.magnitude else none with
  | some value => rfl
  | none => exact Option.map_map _ _ _

theorem number_text (n : NumberText) {rest : List Char} (hrest : Stops rest) :
    IsToken rest (number n.negative (n.unsignedText ++ rest)) (n.strictValue?.map .scalar) := by
  have hwhole := wholePart_text n fun c hc =>
    not_isDigit_of_mem (mem_head_fraction n.fraction n.power hrest c hc)
  have hfraction := fraction_text n.fraction (mem_head_power n.power hrest)
  have hpower := exponent_text n.power hrest
  rw [← numberValue?_eq, NumberText.unsignedText, List.append_assoc, List.append_assoc]
  simp only [number, numberParts, bind, Except.bind, hwhole, hfraction, hpower]
  rcases numberValue? n.negative n.whole.values (n.fraction.map Digits.values)
      (n.power.map PowerText.value) with _ | value
  · rfl
  · exact ⟨rfl, rfl⟩

/-! ### Tokens -/

theorem token_mark (m : Mark) (rest : List Char) : token m.char rest = (m.token, rest) := by
  rw [token, mark?_char]

theorem token_digit (d : Fin 10) (rest : List Char) :
    token (Nat.digitChar d.val) rest = number false (Nat.digitChar d.val :: rest) := by
  simp only [token, mark?_digitChar]
  rw [if_neg (digitChar_ne d (by decide)), if_neg (digitChar_ne d (by decide)),
    if_pos (isDigit_digitChar d)]

theorem token_number (n : NumberText) {rest : List Char} (hrest : Stops rest) :
    ∃ c cs, c ∈ startChars ∧ n.text ++ rest = c :: cs ∧
      IsToken rest (token c cs) (n.strictValue?.map .scalar) := by
  have hnumber := number_text n hrest
  rw [NumberText.text]
  split
  · next hnegative =>
    rw [hnegative] at hnumber
    exact ⟨'-', n.unsignedText ++ rest, by decide, rfl, hnumber⟩
  · next hnegative =>
    rw [eq_false_of_ne_true hnegative] at hnumber
    refine ⟨_, _, mem_startChars_of_digit n.whole.first, rfl, ?_⟩
    rw [token_digit]
    exact hnumber

theorem token_word (w : Word) (rest : List Char) :
    ∃ c cs, c ∈ startChars ∧ w.text ++ rest = c :: cs ∧ token c cs = (.scalar w.value, rest) := by
  rcases w with _ | _ | _
  · exact ⟨'n', _, by decide, rfl, rfl⟩
  · exact ⟨'f', _, by decide, rfl, rfl⟩
  · exact ⟨'t', _, by decide, rfl, rfl⟩

/-- **The strict reader cuts a JSON text into its lexemes.** -/
theorem reads : Reads strictReading tokens := by
  refine .of_token tokens_nil tokens_gap tokens_start fun l rest hstops => ?_
  cases l with
  | mark m => exact ⟨_, _, mem_startChars_of_mark m, rfl, isBroken_token m, token_mark m rest⟩
  | word w =>
    obtain ⟨c, cs, hc, htext, htoken⟩ := token_word w rest
    exact ⟨c, cs, hc, htext, rfl, htoken⟩
  | number n => exact token_number n (hstops trivial)
  | string pieces =>
    have htext := (readsText.text_pieces pieces [] rest).isToken
    refine ⟨'"', closedText pieces rest, by decide, ?_, htext⟩
    simp [Lexeme.text, closedText]

end Strict

namespace Relaxed

/-! ### White space -/

theorem tokens_nil : tokens [] = [] := by
  rw [tokens.eq_def]

theorem tokens_gap {c : Char} (cs : List Char) (h : isGap c = true) :
    tokens (c :: cs) = tokens cs := by
  have hspace : isSpace c = true := by
    simp only [isGap, Bool.or_eq_true, beq_iff_eq] at h
    rcases h with ((rfl | rfl) | rfl) | rfl <;> decide
  rw [tokens.eq_def]
  exact if_pos hspace

/-- No lexeme starts a comment. -/
theorem tokens_start {c : Char} (cs : List Char) (h : c ∈ startChars) :
    tokens (c :: cs) = if (token c cs).1.isBroken then [(token c cs).1]
      else (token c cs).1 :: tokens (token c cs).2 := by
  have hall : startChars.all (fun c => !isSpace c && c != '/') = true := by decide
  obtain ⟨hspace, hslash⟩ := Bool.and_eq_true_iff.1 (List.all_eq_true.1 hall c h)
  rw [tokens.eq_def]
  exact (if_neg (by simpa using hspace)).trans (if_neg (by simpa using hslash))

/-! ### Texts -/

theorem text_escape (read : List Char) {cs rest ds : List Char}
    (h : escape cs = .ok (ds, rest)) :
    text '"' read ('\\' :: cs) = text '"' (ds.reverse ++ read) rest := by
  rw [text.eq_def]
  dsimp only
  rw [if_neg (by decide), if_pos rfl]
  split
  · next ds' rest' h' =>
    obtain ⟨rfl, rfl⟩ : ds = ds' ∧ rest = rest' := by simpa [h] using h'
    rfl
  · next fault h' => exact absurd (h.symm.trans h') (by simp)

theorem text_escape_error (read : List Char) {cs : List Char} {fault : Fault}
    (h : escape cs = .error fault) : text '"' read ('\\' :: cs) = (.brokenText fault, []) := by
  rw [text.eq_def]
  dsimp only
  rw [if_neg (by decide), if_pos rfl]
  split
  · next ds rest h' => exact absurd (h.symm.trans h') (by simp)
  · next fault' h' =>
    obtain rfl : fault = fault' := by simpa [h] using h'
    rfl

theorem escape_unit (cs : List Char) :
    escape ('u' :: cs) = match unicodeEscape cs with
      | .ok (d, rest) => .ok ([d], rest)
      | .error fault => .error fault := rfl

theorem readsText : ReadsText (text '"') where
  closing read rest := by
    rw [text.eq_def]
    rfl
  plain read rest {c} h := by
    simp only [isPlain, Bool.and_eq_true, decide_eq_true_eq, bne_iff_ne] at h
    obtain ⟨⟨hcode, hquote⟩, hslash⟩ := h
    have hfeed : c ≠ '\n' := by
      rintro rfl
      exact absurd hcode (by decide)
    have hreturn : c ≠ '\r' := by
      rintro rfl
      exact absurd hcode (by decide)
    rw [text.eq_def]
    simp [hquote, hslash, hfeed, hreturn]
  short read rest e := by
    have hescape : escape (e.letter :: rest) = .ok ([e.char], rest) := by cases e <;> rfl
    exact text_escape read hescape
  unit read {cs rest c} h := by
    have hescape : escape ('u' :: cs) = .ok ([c], rest) := by rw [escape_unit, h]
    exact text_escape read hescape
  fault read {cs fault} h := by
    have hescape : escape ('u' :: cs) = .error fault := by rw [escape_unit, h]
    exact text_escape_error read hescape

/-! ### Numbers -/

theorem fraction_text (f : Option Digits) {rest : List Char}
    (hrest : ∀ c ∈ rest.head?, c ∈ powerChars) :
    fraction (NumberText.fractionText f ++ rest) = (f.map Digits.values, rest) := by
  rcases f with _ | ds
  · cases rest with
    | nil => rfl
    | cons c rest =>
      have hall : powerChars.all (fun c => c != '.') = true := by decide
      have hc : c ≠ '.' := by simpa using List.all_eq_true.1 hall c (hrest c rfl)
      rw [NumberText.fractionText, List.nil_append, fraction, if_neg hc]
      rfl
  · have hdigit : ∀ c ∈ rest.head?, isDigit c = false := fun c hc =>
      not_isDigit_of_mem (List.mem_cons_of_mem _ (hrest c hc))
    rw [NumberText.fractionText, List.cons_append, fraction, if_pos rfl, digits_text ds hdigit]
    rfl

/-- The digits of a number before its point have no zero in front of others. -/
theorem not_leadingZero (n : NumberText) :
    ¬ (decide (n.whole.values.head? = some 0) && decide (1 < n.whole.values.length)) = true := by
  rcases hvalues : n.whole.values with _ | ⟨d, _ | ⟨d', ds⟩⟩
  · simp
  · simp
  · have hd : d ≠ 0 := by
      rintro rfl
      exact n.values_ne d' ds hvalues
    simp [hd]

theorem decimalValue?_eq (n : NumberText) :
    decimalValue? n.negative n.whole.values (n.fraction.map Digits.values)
      (n.power.map PowerText.value) = some n.relaxedValue := by
  unfold decimalValue?
  rw [if_neg (by simp [Digits.values]), if_neg (not_leadingZero n)]
  rcases n with ⟨negative, whole, _ | f, _ | p, hzero⟩ <;> rfl

theorem decimalNumber_text (n : NumberText) {rest : List Char} (hrest : Stops rest) :
    decimalNumber n.negative (n.unsignedText ++ rest) = (.scalar n.relaxedValue, rest) := by
  have hwhole := digits_text n.whole fun c hc =>
    not_isDigit_of_mem (mem_head_fraction n.fraction n.power hrest c hc)
  have hfraction := fraction_text n.fraction (mem_head_power n.power hrest)
  have hpower := exponent_text n.power hrest
  rw [NumberText.unsignedText, List.append_assoc, List.append_assoc]
  simp only [decimalNumber, hwhole, hfraction, hpower, decimalValue?_eq]

/-- What is behind the first digit of a number is another digit, or one of the
characters that may follow the digits. -/
theorem not_mem_head (n : NumberText) {rest : List Char} (hrest : Stops rest) {c : Char}
    (hc : isDigit c = false) (hnot : c ∉ '.' :: powerChars) :
    c ∉ (n.unsignedText ++ rest).tail.head? := by
  rw [NumberText.unsignedText, List.append_assoc, List.append_assoc]
  rcases hothers : n.whole.others with _ | ⟨d, ds⟩
  · have htail : (n.whole.text ++ (NumberText.fractionText n.fraction ++
        (NumberText.powerText n.power ++ rest))).tail =
        NumberText.fractionText n.fraction ++ (NumberText.powerText n.power ++ rest) := by
      rw [Digits.text, hothers]
      rfl
    rw [htail]
    exact fun hmem => hnot (mem_head_fraction n.fraction n.power hrest c hmem)
  · rw [Digits.text, hothers]
    rintro ⟨⟩
    exact digitChar_ne d hc rfl

/-- **A JSON number is not one in hexadecimal digits**, nor a name. -/
theorem number_text (n : NumberText) {rest : List Char} (hrest : Stops rest) :
    number n.negative (n.unsignedText ++ rest) = (.scalar n.relaxedValue, rest) := by
  have hfirst : ∀ c tail, n.unsignedText ++ rest = c :: tail → isDigit c = true := by
    rintro c tail htext
    obtain ⟨rfl, -⟩ := List.cons.inj htext
    exact isDigit_digitChar n.whole.first
  have hlower := not_mem_head n hrest (by decide : isDigit 'x' = false) (by decide)
  have hupper := not_mem_head n hrest (by decide : isDigit 'X' = false) (by decide)
  have hdecimal := decimalNumber_text n hrest
  unfold number
  split
  · next tail heq => exact absurd (hfirst _ _ heq) (by decide)
  · next tail heq => exact absurd (hfirst _ _ heq) (by decide)
  · next tail heq => exact absurd (by rw [heq]; rfl) hlower
  · next tail heq => exact absurd (by rw [heq]; rfl) hupper
  · exact hdecimal

/-! ### Names -/

/-- A name is read to its end. -/
theorem nameRest_text (read cs : List Char) {rest : List Char}
    (hcs : (cs.all fun c => c != '\\' && Text.continuesName c) = true) (hrest : Stops rest) :
    nameRest read false (cs ++ rest) = (nameToken (cs.reverse ++ read) false, rest) := by
  induction cs generalizing read with
  | nil =>
    rw [List.nil_append, List.reverse_nil, List.nil_append]
    cases rest with
    | nil => rw [nameRest.eq_def]
    | cons c rest =>
      have hall : stopChars.all (fun c => c != '\\' && !Text.continuesName c) = true := by
        decide +kernel
      obtain ⟨hslash, hname⟩ := Bool.and_eq_true_iff.1 (List.all_eq_true.1 hall c (hrest c rfl))
      rw [nameRest.eq_def]
      exact (if_neg (by simpa using hslash)).trans (if_neg (by simpa using hname))
  | cons c cs ih =>
    rw [List.all_cons, Bool.and_eq_true] at hcs
    obtain ⟨hc, hcs⟩ := hcs
    obtain ⟨hslash, hname⟩ := Bool.and_eq_true_iff.1 hc
    have hstep : nameRest read false (c :: (cs ++ rest)) =
        nameRest (c :: read) false (cs ++ rest) := by
      rw [nameRest.eq_def]
      exact (if_neg (by simpa using hslash)).trans (if_pos hname)
    rw [List.cons_append, hstep, ih _ hcs, List.reverse_cons, List.append_assoc]
    rfl

/-! ### Tokens -/

theorem token_mark (m : Mark) (rest : List Char) : token m.char rest = (m.token, rest) := by
  rw [token, mark?_char]

theorem token_digit (d : Fin 10) (rest : List Char) :
    token (Nat.digitChar d.val) rest = number false (Nat.digitChar d.val :: rest) := by
  have hquotes : ¬ (decide (Nat.digitChar d.val = '"') ||
      decide (Nat.digitChar d.val = '\x27')) = true := by
    simp [digitChar_ne d (by decide : isDigit '"' = false),
      digitChar_ne d (by decide : isDigit '\x27' = false)]
  have hsigns : ¬ (decide (Nat.digitChar d.val = '-') ||
      decide (Nat.digitChar d.val = '+')) = true := by
    simp [digitChar_ne d (by decide : isDigit '-' = false),
      digitChar_ne d (by decide : isDigit '+' = false)]
  have hdigit : startsNumber (Nat.digitChar d.val) = true := by
    rw [startsNumber, isDigit_digitChar]
    rfl
  simp only [token, mark?_digitChar]
  rw [if_neg hquotes, if_neg hsigns, if_pos hdigit]

theorem token_number (n : NumberText) {rest : List Char} (hrest : Stops rest) :
    ∃ c cs, c ∈ startChars ∧ n.text ++ rest = c :: cs ∧
      token c cs = (.scalar n.relaxedValue, rest) := by
  have hnumber := number_text n hrest
  rw [NumberText.text]
  split
  · next hnegative =>
    rw [hnegative] at hnumber
    exact ⟨'-', n.unsignedText ++ rest, by decide, rfl, hnumber⟩
  · next hnegative =>
    rw [eq_false_of_ne_true hnegative] at hnumber
    refine ⟨_, _, mem_startChars_of_digit n.whole.first, rfl, ?_⟩
    rw [token_digit]
    exact hnumber

/-- A literal is a name that stands for a value. -/
theorem token_word (w : Word) {rest : List Char} (hrest : Stops rest) :
    ∃ c cs, c ∈ startChars ∧ w.text ++ rest = c :: cs ∧
      token c cs = (.word (String.ofList w.text) w.value, rest) := by
  rcases w with _ | _ | _
  · exact ⟨'n', _, by decide, rfl,
      nameRest_text ['n'] ['u', 'l', 'l'] (by decide +kernel) hrest⟩
  · exact ⟨'f', _, by decide, rfl,
      nameRest_text ['f'] ['a', 'l', 's', 'e'] (by decide +kernel) hrest⟩
  · exact ⟨'t', _, by decide, rfl,
      nameRest_text ['t'] ['r', 'u', 'e'] (by decide +kernel) hrest⟩

/-- **The relaxed reader cuts a JSON text into its lexemes.** -/
theorem reads : Reads relaxedReading tokens := by
  refine .of_token tokens_nil tokens_gap tokens_start fun l rest hstops => ?_
  cases l with
  | mark m => exact ⟨_, _, mem_startChars_of_mark m, rfl, isBroken_token m, token_mark m rest⟩
  | word w =>
    obtain ⟨c, cs, hc, htext, htoken⟩ := token_word w (hstops trivial)
    exact ⟨c, cs, hc, htext, rfl, htoken⟩
  | number n =>
    obtain ⟨c, cs, hc, htext, htoken⟩ := token_number n (hstops trivial)
    exact ⟨c, cs, hc, htext, rfl, htoken⟩
  | string pieces =>
    have htext := (readsText.text_pieces pieces [] rest).isToken
    refine ⟨'"', closedText pieces rest, by decide, ?_, htext⟩
    simp [Lexeme.text, closedText]

end Relaxed

/-! ### Values of texts -/

variable {t : Term} {cs : List Char}

/-- **What the strict reader reads**: the value of a term, if no more than 127 containers
are inside one another and every number is in range. -/
theorem read_eq (h : Spells t.lexemes cs) :
    (read (String.ofList cs)).toOption =
      if t.depth ≤ 127 then t.value? NumberText.strictValue? else none := by
  have hvalue := Strict.reads.ofTokens_eq strictGrammar h
  have hdepth : strictGrammar.allows t.depth = decide (t.depth ≤ 127) := rfl
  simp only [hdepth, decide_eq_true_eq] at hvalue
  rw [read, readWithin, String.toList_ofList]
  exact hvalue

/-- **What the relaxed reader reads**: the value of a term, however deep it is. -/
theorem readRelaxed_eq (h : Spells t.lexemes cs) :
    (readRelaxed (String.ofList cs)).toOption = t.value? fun n => some n.relaxedValue := by
  have hvalue := Relaxed.reads.ofTokens_eq relaxedGrammar h
  have hdepth : relaxedGrammar.allows t.depth = true := rfl
  rw [if_pos hdepth] at hvalue
  rw [readRelaxed, String.toList_ofList]
  exact hvalue

end RecordQuery.Json
