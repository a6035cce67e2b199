import RecordQuery.Proofs.Building
import RecordQuery.Proofs.Scan

/-!
# Cutting a text into its lexemes

A reader cuts tokens off its text one after the other, and nothing in the text marks
where they end. For a text that spells lexemes (`RecordQuery.Json.Spells`) it finds the
ends that the text was made with: a number or a literal goes on while the characters do
that it may have, and what follows it, if anything, is white space or a mark
(`RecordQuery.Json.Stops`).

A reader is correct if it skips white space and takes one lexeme at a time
(`RecordQuery.Json.Reads`). From this alone the automaton builds the same from the
reader's tokens as from the lexemes (`RecordQuery.Json.Reads.run_tokens`), and so the
value of a term from any text of it (`RecordQuery.Json.Reads.ofTokens_eq`). The rest of
the file takes apart what both readers share: digits, exponents, and texts in quotation
marks, whose readers differ only in what they accept beyond the pieces of
`RecordQuery.Json.Piece` (`RecordQuery.Json.ReadsText.text_pieces`).
-/

namespace RecordQuery.Json

open RecordQuery.Query (dropWhile_run takeWhile_run)

/-! ### What may follow a lexeme -/

/-- White space and the marks. -/
def stopChars : List Char :=
  [' ', '\t', '\n', '\r', '[', ']', '\x7b', '\x7d', ':', ',']

/-- Whether a text starts with white space or a mark, if it has any character. -/
def Stops (rest : List Char) : Prop :=
  ∀ c ∈ rest.head?, c ∈ stopChars

theorem mem_stopChars_of_isGap {c : Char} (h : isGap c = true) : c ∈ stopChars := by
  simp only [isGap, Bool.or_eq_true, beq_iff_eq] at h
  rcases h with ((rfl | rfl) | rfl) | rfl <;> decide

theorem mem_stopChars_of_mark (m : Mark) : m.char ∈ stopChars := by
  cases m <;> decide

/-- What is behind an open lexeme starts with white space or a mark. -/
theorem Spells.stops {ls : List Lexeme} {cs : List Char} (h : Spells ls cs)
    (hmark : ∀ next ∈ ls.head?, next.IsMark) : Stops cs := by
  have hgap : ∀ gap rest : List Char, (∀ c ∈ gap, isGap c = true) → Stops rest →
      Stops (gap ++ rest) := by
    intro gap rest hgap hrest
    cases gap with
    | nil => exact hrest
    | cons c gap =>
      rintro d ⟨⟩
      exact mem_stopChars_of_isGap (hgap c (by simp))
  cases h with
  | blank hgap' => simpa using hgap _ [] hgap' (by simp [Stops])
  | lexeme hgap' l h =>
    refine hgap _ _ hgap' ?_
    cases l with
    | mark m =>
      rintro c ⟨⟩
      exact mem_stopChars_of_mark m
    | _ => exact absurd (hmark _ rfl) id

/-! ### Readers -/

/-- **A reader cuts a text into its lexemes**: it skips white space, and takes a lexeme
for the token it is, or ends with a broken token if the lexeme is none. -/
structure Reads (reading : Reading) (tokens : List Char → List Token) : Prop where
  nil : tokens [] = []
  gap : ∀ {c : Char} (cs : List Char), isGap c = true → tokens (c :: cs) = tokens cs
  known : ∀ {l : Lexeme} {rest : List Char} {token : Token}, (l.IsOpen → Stops rest) →
    l.token? reading = some token → tokens (l.text ++ rest) = token :: tokens rest
  broken : ∀ {l : Lexeme} {rest : List Char}, (l.IsOpen → Stops rest) →
    l.token? reading = none → ∃ token, token.isBroken = true ∧ tokens (l.text ++ rest) = [token]

/-- The characters that lexemes start with. -/
def startChars : List Char :=
  ['[', ']', '\x7b', '\x7d', ':', ',', '"', '-', '0', '1', '2', '3', '4', '5', '6', '7', '8', '9',
    'n', 't', 'f']

/-- Whether a result is a token and what follows it, or broken if there is no token. -/
def IsToken (rest : List Char) (result : Token × List Char) : Option Token → Prop
  | some token => token.isBroken = false ∧ result = (token, rest)
  | none => result.1.isBroken = true

/-- A reader that goes token by token is correct if it is correct for each lexeme. -/
theorem Reads.of_token {reading : Reading} {tokens : List Char → List Token}
    {token : Char → List Char → Token × List Char} (hnil : tokens [] = [])
    (hgap : ∀ {c : Char} (cs : List Char), isGap c = true → tokens (c :: cs) = tokens cs)
    (hstep : ∀ {c : Char} (cs : List Char), c ∈ startChars → tokens (c :: cs) =
      if (token c cs).1.isBroken then [(token c cs).1]
      else (token c cs).1 :: tokens (token c cs).2)
    (htoken : ∀ (l : Lexeme) (rest : List Char), (l.IsOpen → Stops rest) →
      ∃ c cs, c ∈ startChars ∧ l.text ++ rest = c :: cs ∧
        IsToken rest (token c cs) (l.token? reading)) :
    Reads reading tokens := by
  refine ⟨hnil, hgap, ?_, ?_⟩
  · intro l rest known hstops hknown
    obtain ⟨c, cs, hc, htext, hresult⟩ := htoken l rest hstops
    rw [hknown] at hresult
    obtain ⟨hbroken, hresult⟩ := hresult
    rw [htext, hstep cs hc, hresult, hbroken]
    rfl
  · intro l rest hstops hnone
    obtain ⟨c, cs, hc, htext, hresult⟩ := htoken l rest hstops
    rw [hnone] at hresult
    have hbroken : (token c cs).1.isBroken = true := hresult
    exact ⟨_, hbroken, by rw [htext, hstep cs hc, if_pos hbroken]⟩

/-- No broken token is taken. -/
theorem Build.step_broken (grammar : Grammar) (build : Build) {token : Token}
    (h : token.isBroken = true) : (step grammar build token).toOption = none := by
  cases build with
  | done value => rfl
  | inside frames expected =>
    cases token with
    | brokenText fault => cases expected <;> rfl
    | broken fault => cases expected <;> rfl
    | _ => exact absurd h (by simp [Token.isBroken])

namespace Reads

variable {reading : Reading} {tokens : List Char → List Token}

theorem gap_append (hreads : Reads reading tokens) {gap : List Char}
    (hgap : ∀ c ∈ gap, isGap c = true) (cs : List Char) : tokens (gap ++ cs) = tokens cs := by
  induction gap with
  | nil => rfl
  | cons c gap ih =>
    rw [List.cons_append, hreads.gap _ (hgap c (by simp)), ih fun d hd => hgap d (by simp [hd])]

/-- **The automaton on a text**: it builds from the tokens of a reader what it builds
from the lexemes. -/
theorem run_tokens (hreads : Reads reading tokens) (grammar : Grammar) {ls : List Lexeme}
    {cs : List Char} (h : Spells ls cs) (hls : ls.IsChain Lexeme.Follows) (build : Build) :
    (Build.run grammar build (tokens cs)).toOption = Build.follow grammar reading build ls := by
  induction h generalizing build with
  | @blank gap hgap =>
    have htokens : tokens gap = [] := by
      rw [← List.append_nil gap, hreads.gap_append hgap, hreads.nil]
    rw [htokens]
    rfl
  | @lexeme gap hgap l ls rest h ih =>
    obtain ⟨hnext, hls⟩ := List.isChain_cons.1 hls
    have hstops : l.IsOpen → Stops rest := fun hopen => h.stops fun next hmem =>
      hnext next hmem hopen
    rw [hreads.gap_append hgap, Build.follow_cons]
    rcases htoken : l.token? reading with _ | token
    · obtain ⟨token, hbroken, htokens⟩ := hreads.broken hstops htoken
      have hstep := Build.step_broken grammar build hbroken
      rw [htokens, Build.run_cons]
      rcases hs : Build.step grammar build token with fault | next
      · rfl
      · rw [hs] at hstep
        exact absurd hstep (by simp [Except.toOption])
    · rw [hreads.known hstops htoken, Build.run_cons, Option.bind_some]
      rcases Build.step grammar build token with fault | next
      · rfl
      · exact ih hls next

/-- **A reader reads a text of a term for the value of the term**, unless the term is too
deep for the grammar. -/
theorem ofTokens_eq (hreads : Reads reading tokens) (grammar : Grammar) {t : Term}
    {cs : List Char} (h : Spells t.lexemes cs) :
    (Build.ofTokens grammar (tokens cs)).toOption =
      if grammar.allows t.depth then t.value? reading.number else none := by
  have hvalue : Build.TakesValue .value := trivial
  have hrun := hreads.run_tokens grammar h t.apart (.inside [] .value)
  rw [Build.follow_lexemes t hvalue [] grammar.allows_zero, List.length_nil, Nat.zero_add] at hrun
  have hresult : (Build.ofTokens grammar (tokens cs)).toOption =
      (Build.run grammar (.inside [] .value) (tokens cs)).toOption.bind fun build =>
        build.result.toOption := by
    rw [Build.ofTokens]
    cases Build.run grammar (.inside [] .value) (tokens cs) <;> rfl
  rw [hresult, hrun]
  split
  · cases t.value? reading.number <;> rfl
  · rfl

end Reads

/-! ### Parts of numbers -/

section Numbers

variable {rest : List Char}

theorem isDigit_digitChar (d : Fin 10) : isDigit (Nat.digitChar d.val) = true := by
  have hall : ∀ d : Fin 10, isDigit (Nat.digitChar d.val) = true := by decide
  exact hall d

theorem digitValue_digitChar (d : Fin 10) : digitValue (Nat.digitChar d.val) = d.val := by
  have hall : ∀ d : Fin 10, digitValue (Nat.digitChar d.val) = d.val := by decide
  exact hall d

/-- Digits are read up to their end. -/
theorem digits_text (ds : Digits) (hrest : ∀ c ∈ rest.head?, isDigit c = false) :
    digits (ds.text ++ rest) = (ds.values, rest) := by
  have hall : ∀ c ∈ ds.text, isDigit c = true := by
    intro c hc
    obtain ⟨d, -, rfl⟩ := List.mem_map.1 hc
    exact isDigit_digitChar d
  rw [digits, takeWhile_run hall hrest, dropWhile_run hall hrest, Digits.text, List.map_map,
    Digits.values]
  refine congrArg (·, rest) (List.map_congr_left fun d _ => ?_)
  exact digitValue_digitChar d

theorem someDigits_text (ds : Digits) (hrest : ∀ c ∈ rest.head?, isDigit c = false) :
    someDigits (ds.text ++ rest) = .ok (ds.values, rest) := by
  rw [someDigits, digits_text ds hrest]
  rfl

/-- The characters that may stand behind the fraction of a number. -/
def powerChars : List Char :=
  'e' :: 'E' :: stopChars

theorem mem_head_power (power : Option PowerText) (hrest : Stops rest) :
    ∀ c ∈ (NumberText.powerText power ++ rest).head?, c ∈ powerChars := by
  rcases power with _ | p
  · exact fun c hc => List.mem_cons_of_mem _ (List.mem_cons_of_mem _ (hrest c hc))
  · rintro c ⟨⟩
    cases p.upper <;> decide

theorem mem_head_fraction (fraction : Option Digits) (power : Option PowerText)
    (hrest : Stops rest) :
    ∀ c ∈ (NumberText.fractionText fraction ++ (NumberText.powerText power ++ rest)).head?,
      c ∈ '.' :: powerChars := by
  rcases fraction with _ | ds
  · exact fun c hc => List.mem_cons_of_mem _ (mem_head_power power hrest c hc)
  · rintro c ⟨⟩
    exact List.mem_cons_self

/-- No character that may follow digits is a digit. -/
theorem not_isDigit_of_mem {c : Char} (hc : c ∈ '.' :: powerChars) : isDigit c = false := by
  have hall : ('.' :: powerChars).all (fun c => !isDigit c) = true := by decide
  simpa using List.all_eq_true.1 hall c hc

theorem sign_text (negative : Option Bool) (ds : Digits) (rest : List Char) :
    sign (PowerText.signText negative ++ (ds.text ++ rest)) =
      (negative.getD false, ds.text ++ rest) := by
  rcases negative with _ | _ | _
  · have hminus : Nat.digitChar ds.first.val ≠ '-' := fun h =>
      absurd (isDigit_digitChar ds.first) (by rw [h]; decide)
    have hplus : Nat.digitChar ds.first.val ≠ '+' := fun h =>
      absurd (isDigit_digitChar ds.first) (by rw [h]; decide)
    simp [PowerText.signText, Digits.text, sign, hminus, hplus]
  · rfl
  · rfl

/-- The exponent of a number is read to its end. -/
theorem exponent_text (power : Option PowerText) (hrest : Stops rest) :
    exponent (NumberText.powerText power ++ rest) = .ok (power.map PowerText.value, rest) := by
  have hdigit : ∀ c ∈ rest.head?, isDigit c = false := fun c hc =>
    not_isDigit_of_mem (List.mem_cons_of_mem _ (List.mem_cons_of_mem _
      (List.mem_cons_of_mem _ (hrest c hc))))
  rcases power with _ | p
  · cases rest with
    | nil => rfl
    | cons c rest =>
      have hall : stopChars.all (fun c => !(decide (c = 'e') || decide (c = 'E'))) = true := by
        decide
      have hc := List.all_eq_true.1 hall c (hrest c rfl)
      rw [NumberText.powerText, List.nil_append, exponent, if_neg (by simpa using hc)]
      rfl
  · have hc : (decide ((if p.upper then 'E' else 'e') = 'e') ||
        decide ((if p.upper then 'E' else 'e') = 'E')) = true := by
      cases p.upper <;> rfl
    rw [NumberText.powerText, PowerText.text, List.cons_append, List.append_assoc, exponent,
      if_pos hc, sign_text, someDigits_text p.digits hdigit]
    rfl

end Numbers

/-! ### Texts in quotation marks -/

theorem hexDigit?_char (d : HexDigit) : Text.hexDigit? d.char = some d.value.val := by
  have hall : ∀ (value : Fin 16) (upper : Bool),
      Text.hexDigit? (HexDigit.char ⟨value, upper⟩) = some value.val := by decide
  exact hall d.value d.upper

theorem codeUnit_text (u : UnitDigits) (rest : List Char) :
    codeUnit (u.text ++ rest) = .ok (u.value, rest) := by
  have hunit : codeUnit? (u.text ++ rest) = some (u.value, rest) := by
    simp [UnitDigits.text, codeUnit?, Text.hexNumber?, hexDigit?_char, UnitDigits.value]
  rw [codeUnit, hunit]

section Unicode

variable {u : UnitDigits}

theorem unicodeEscape_low (hlow : isLowSurrogate u.value = true) (rest : List Char) :
    unicodeEscape (u.text ++ rest) = .error .malformed := by
  simp only [unicodeEscape, codeUnit_text, hlow, if_true]

theorem unicodeEscape_single (hlow : isLowSurrogate u.value = false)
    (hhigh : isHighSurrogate u.value = false) (rest : List Char) :
    unicodeEscape (u.text ++ rest) = .ok (Char.ofNat u.value, rest) := by
  simp [unicodeEscape, codeUnit_text, hlow, hhigh]

theorem unicodeEscape_pair (hlow : isLowSurrogate u.value = false)
    (hhigh : isHighSurrogate u.value = true) (v : UnitDigits) (rest : List Char) :
    unicodeEscape (u.text ++ '\\' :: 'u' :: (v.text ++ rest)) =
      if isLowSurrogate v.value then .ok (pairedChar u.value v.value, rest)
      else .error .malformed := by
  simp [unicodeEscape, codeUnit_text, hlow, hhigh]

/-- A high surrogate needs the escape of a low one behind it. -/
theorem unicodeEscape_alone (hlow : isLowSurrogate u.value = false)
    (hhigh : isHighSurrogate u.value = true) {rest : List Char}
    (hrest : ∀ tail, rest ≠ '\\' :: 'u' :: tail) :
    ∃ fault, unicodeEscape (u.text ++ rest) = .error fault := by
  simp only [unicodeEscape, codeUnit_text, hlow, hhigh, if_true, Bool.false_eq_true, if_false]
  split
  · exact ⟨_, rfl⟩
  · exact ⟨_, rfl⟩
  · next tail => exact absurd rfl (hrest tail)
  · exact ⟨_, rfl⟩

end Unicode

/-- A reader of what stands between quotation marks, given the characters read before in
reverse. -/
structure ReadsText (text : List Char → List Char → Token × List Char) : Prop where
  closing : ∀ read rest, text read ('"' :: rest) = (.text (String.ofList read.reverse), rest)
  plain : ∀ read rest {c}, isPlain c = true → text read (c :: rest) = text (c :: read) rest
  short : ∀ read rest (e : Escape),
    text read ('\\' :: e.letter :: rest) = text (e.char :: read) rest
  unit : ∀ read {cs rest c}, unicodeEscape cs = .ok (c, rest) →
    text read ('\\' :: 'u' :: cs) = text (c :: read) rest
  fault : ∀ read {cs fault}, unicodeEscape cs = .error fault →
    text read ('\\' :: 'u' :: cs) = (.brokenText fault, [])

/-- What stands between quotation marks, and the mark behind it. -/
def closedText (pieces : List Piece) (rest : List Char) : List Char :=
  pieces.flatMap Piece.text ++ '"' :: rest

/-- Only the escape of a code unit starts like one. -/
theorem closedText_ne {pieces : List Piece} (h : ∀ v others, pieces ≠ .unit v :: others)
    (rest tail : List Char) : closedText pieces rest ≠ '\\' :: 'u' :: tail := by
  rcases pieces with _ | ⟨_ | e | v, pieces⟩
  · simp [closedText]
  · next c hc =>
    intro heq
    obtain rfl : c = '\\' := (List.cons.inj heq).1
    exact absurd hc (by decide)
  · intro heq
    have hletter : e.letter = 'u' := (List.cons.inj (List.cons.inj heq).2).1
    cases e <;> exact absurd hletter (by decide)
  · exact absurd rfl (h v pieces)

/-- Whether a result is the text of the characters read before and some others, or a
broken text if there are no others. -/
def IsText (read rest : List Char) (result : Token × List Char) : Option (List Char) → Prop
  | some cs => result = (.text (String.ofList (read.reverse ++ cs)), rest)
  | none => ∃ fault, result = (.brokenText fault, [])

/-- A text is a token. -/
theorem IsText.isToken {rest : List Char} {result : Token × List Char}
    {cs : Option (List Char)} (h : IsText [] rest result cs) :
    IsToken rest result (cs.map fun cs => .text (String.ofList cs)) := by
  rcases cs with _ | cs
  · obtain ⟨fault, hfault⟩ := h
    rw [hfault]
    rfl
  · exact ⟨rfl, h⟩

/-- One of the other characters has been read. -/
theorem isText_cons {read rest : List Char} {result : Token × List Char} {c : Char}
    {others : Option (List Char)} (h : IsText (c :: read) rest result others) :
    IsText read rest result (others.map (c :: ·)) := by
  rcases others with _ | cs
  · exact h
  · rw [IsText, List.reverse_cons, List.append_assoc] at h
    exact h

/-- **A text in quotation marks is read for what it stands for**, and is broken if it
has no meaning. -/
theorem ReadsText.text_pieces {text : List Char → List Char → Token × List Char}
    (htext : ReadsText text) (pieces : List Piece) (read rest : List Char) :
    IsText read rest (text read (closedText pieces rest)) (decode pieces) := by
  fun_induction decode pieces generalizing read with
  | case1 =>
    have hend : closedText [] rest = '"' :: rest := rfl
    rw [hend, htext.closing, IsText, List.append_nil]
  | case2 c hc pieces ih =>
    have hstart : closedText (.plain c hc :: pieces) rest = c :: closedText pieces rest := rfl
    rw [hstart, htext.plain _ _ hc]
    exact isText_cons (ih _)
  | case3 e pieces ih =>
    have hstart : closedText (.short e :: pieces) rest =
      '\\' :: e.letter :: closedText pieces rest := rfl
    rw [hstart, htext.short]
    exact isText_cons (ih _)
  | case4 u pieces hlow => exact ⟨_, htext.fault _ (unicodeEscape_low hlow _)⟩
  | case5 u hlow hhigh v pieces hv ih =>
    have hpair := unicodeEscape_pair (eq_false_of_ne_true hlow) hhigh v (closedText pieces rest)
    rw [if_pos hv] at hpair
    have hstart : closedText (.unit u :: .unit v :: pieces) rest =
      '\\' :: 'u' :: (u.text ++ '\\' :: 'u' :: (v.text ++ closedText pieces rest)) := rfl
    rw [hstart, htext.unit read hpair]
    exact isText_cons (ih _)
  | case6 u hlow hhigh v pieces hv =>
    have hpair := unicodeEscape_pair (eq_false_of_ne_true hlow) hhigh v (closedText pieces rest)
    rw [if_neg hv] at hpair
    exact ⟨_, htext.fault read hpair⟩
  | case7 u pieces hlow hhigh hother =>
    obtain ⟨fault, hfault⟩ := unicodeEscape_alone (eq_false_of_ne_true hlow) hhigh
      (closedText_ne hother rest)
    exact ⟨fault, htext.fault _ hfault⟩
  | case8 u pieces hlow hhigh ih =>
    have hsingle := unicodeEscape_single (eq_false_of_ne_true hlow) (eq_false_of_ne_true hhigh)
      (closedText pieces rest)
    have hstart : closedText (.unit u :: pieces) rest =
      '\\' :: 'u' :: (u.text ++ closedText pieces rest) := rfl
    rw [hstart, htext.unit read hsingle]
    exact isText_cons (ih _)

end RecordQuery.Json
