import RecordQuery.Proofs.Meaning

/-!
# Lexemes make up a value

The automaton of `RecordQuery.Json.Token`, run on the lexemes of a term, builds the
value of the term, or refuses some lexeme if the term has none
(`RecordQuery.Json.Build.follow_lexemes`). Both readers share the automaton, so this is
proved once, for any reading of the lexemes (`RecordQuery.Json.Reading`) and any
grammar. The grammars differ in how deep containers may be inside one another, and a
term that is deeper is refused whatever it is the text of.

The proof follows the term. A container that is open waits with what it has so far,
and the claim about its items, or its members, speaks of the lexemes up to the closing
bracket: the automaton stands in one of two states there, in front of the first item or
behind an item, and the comma leads from the second to a state that takes a value as
the first does.
-/

namespace RecordQuery.Json

/-! ### Readings of lexemes -/

/-- What a reader makes of those lexemes that readers may understand differently. -/
structure Reading where
  /-- The token of a literal. -/
  word : Word → Token
  /-- Where a value is expected, the token is the value of the literal. -/
  word_eq : ∀ w, word w = .scalar w.value ∨ ∃ name, word w = .word name w.value
  /-- The value of a number, if the reader has one for it. -/
  number : NumberText → Option Value

/-- The token of a mark. -/
def Mark.token : Mark → Token
  | openArray => .openArray
  | closeArray => .closeArray
  | openObject => .openObject
  | closeObject => .closeObject
  | colon => .colon
  | comma => .comma

/-- The token that a reader makes of a lexeme, if the lexeme has a meaning for it. -/
def Lexeme.token? (reading : Reading) : Lexeme → Option Token
  | .mark m => some m.token
  | .word w => some (reading.word w)
  | .number n => (reading.number n).map .scalar
  | .string pieces => (decode pieces).map fun cs => .text (String.ofList cs)

/-- Whether so many containers may be inside one another. -/
def Grammar.allows (grammar : Grammar) (depth : Nat) : Bool :=
  grammar.depth.all fun limit => decide (depth ≤ limit)

theorem Grammar.allows_zero (grammar : Grammar) : grammar.allows 0 = true := by
  rcases grammar with ⟨trailing, _ | limit⟩
  · rfl
  · exact decide_eq_true (Nat.zero_le limit)

theorem Grammar.allows_max (grammar : Grammar) (depth a b : Nat) :
    grammar.allows (depth + max a b) =
      (grammar.allows (depth + a) && grammar.allows (depth + b)) := by
  rcases grammar with ⟨-, _ | limit⟩
  · rfl
  · simp only [allows, Option.all_some, ← Bool.decide_and, decide_eq_decide]
    omega

theorem Grammar.allows_of_le {grammar : Grammar} {depth depth' : Nat} (hle : depth ≤ depth')
    (h : grammar.allows depth' = true) : grammar.allows depth = true := by
  rcases grammar with ⟨trailing, _ | limit⟩
  · rfl
  · simp only [allows, Option.all_some, decide_eq_true_eq] at h ⊢
    omega

namespace Build

variable {grammar : Grammar} {reading : Reading}

/-! ### Taking lexemes -/

/-- The automaton on lexemes: takes the tokens of a reader, up to the first that is
refused or that the reader does not have. -/
def follow (grammar : Grammar) (reading : Reading) (build : Build) (ls : List Lexeme) :
    Option Build :=
  ls.foldlM (fun build l => (l.token? reading).bind fun token =>
    (step grammar build token).toOption) build

theorem follow_cons (build : Build) (l : Lexeme) (ls : List Lexeme) :
    follow grammar reading build (l :: ls) =
      (l.token? reading).bind fun token => (step grammar build token).toOption.bind fun next =>
        follow grammar reading next ls := by
  rw [follow, List.foldlM_cons]
  exact Option.bind_assoc _ _ _

theorem follow_append (build : Build) (ls ls' : List Lexeme) :
    follow grammar reading build (ls ++ ls') =
      (follow grammar reading build ls).bind fun next => follow grammar reading next ls' :=
  List.foldlM_append

/-- A lexeme with a token that the automaton takes. -/
theorem follow_of_step {build next : Build} {l : Lexeme} {token : Token} (ls : List Lexeme)
    (htoken : l.token? reading = some token) (hstep : step grammar build token = .ok next) :
    follow grammar reading build (l :: ls) = follow grammar reading next ls := by
  rw [follow_cons, htoken, Option.bind_some, hstep]
  rfl

/-! ### Where a value may start -/

/-- Whether a value may come next. -/
def TakesValue : Expected → Prop
  | .value => True
  | .firstItem => True
  | .nextItem => True
  | _ => False

/-- Where a value may start, a token is taken for one, unless it ends an array. -/
theorem step_of_takesValue {expected : Expected} (he : TakesValue expected) {token : Token}
    (htoken : token ≠ .closeArray) (frames : List Frame) :
    step grammar (.inside frames expected) token = takeValue grammar frames token := by
  cases expected with
  | value => rfl
  | firstItem => cases token <;> first | rfl | exact absurd rfl htoken
  | nextItem => cases token <;> first | rfl | exact absurd rfl htoken
  | _ => exact absurd he id

theorem takeValue_word (frames : List Frame) (w : Word) :
    takeValue grammar frames (reading.word w) = .ok (complete w.value frames) := by
  rcases reading.word_eq w with h | ⟨name, h⟩ <;> rw [h] <;> rfl

theorem word_ne_closeArray (w : Word) : reading.word w ≠ .closeArray := by
  rcases reading.word_eq w with h | ⟨name, h⟩ <;> rw [h] <;> simp

/-- Where a value may start, the first lexeme of a text starts one. -/
theorem follow_of_takesValue {expected : Expected} (he : TakesValue expected)
    (frames : List Frame) {l : Lexeme} (ls : List Lexeme) (hl : l ≠ .mark .closeArray) :
    follow grammar reading (.inside frames expected) (l :: ls) =
      (l.token? reading).bind fun token =>
        (takeValue grammar frames token).toOption.bind fun next =>
          follow grammar reading next ls := by
  rw [follow_cons]
  refine Option.bind_congr fun token htoken => ?_
  rw [step_of_takesValue he]
  rintro rfl
  cases l with
  | mark m =>
    cases m with
    | closeArray => exact hl rfl
    | _ => exact absurd htoken (by simp [Lexeme.token?, Mark.token])
  | word w => exact word_ne_closeArray w (Option.some.inj htoken)
  | number n => exact absurd htoken (by simp [Lexeme.token?])
  | string pieces => exact absurd htoken (by simp [Lexeme.token?])

/-- Opening a container, if it is not too deep. -/
theorem follow_push {expected : Expected} (he : TakesValue expected) (frames : List Frame)
    {m : Mark} (hm : m ≠ .closeArray) {frame : Frame} {inner : Expected}
    (hframe : takeValue grammar frames m.token = push grammar frame inner frames)
    (ls : List Lexeme) :
    follow grammar reading (.inside frames expected) (.mark m :: ls) =
      if grammar.allows (frames.length + 1) then
        follow grammar reading (.inside (frame :: frames) inner) ls
      else none := by
  rw [follow_of_takesValue he frames ls (by simpa using hm), Lexeme.token?, Option.bind_some,
    hframe, push]
  change Option.bind (Except.toOption (if grammar.allows (frames.length + 1) then _ else _)) _ = _
  split <;> rfl

/-- What stands in front of an item or a member: nothing in front of the first, and a comma
in front of the others. -/
theorem follow_separated (first : Bool) {frame : Frame} (frames : List Frame)
    (start : Expected) {next : Expected}
    (hcomma : takeSeparator (frame :: frames) .comma = .ok (.inside (frame :: frames) next))
    (ls : List Lexeme) :
    follow grammar reading (.inside (frame :: frames) (if first then start else .separator))
        ((if first then [] else [.mark .comma]) ++ ls) =
      follow grammar reading (.inside (frame :: frames) (if first then start else next)) ls := by
  cases first with
  | true => rfl
  | false => exact follow_of_step ls rfl hcomma

/-- A key and its colon. -/
theorem follow_key (first : Bool) (entries : Entries) (last : String) (frames : List Frame)
    (key : List Piece) (ls : List Lexeme) :
    follow grammar reading
        (.inside (.object entries last :: frames) (if first then .firstKey else .nextKey))
        (.string key :: .mark .colon :: ls) =
      (decode key).bind fun cs =>
        follow grammar reading
          (.inside (.object entries (String.ofList cs) :: frames) .value) ls := by
  rw [follow_cons, Lexeme.token?]
  rcases decode key with _ | cs
  · rfl
  · cases first <;> exact follow_of_step ls rfl rfl

/-- A container in a grammar that allows no more containers, or too deep for it. -/
theorem follow_container {depth inner : Nat} {result built : Option Build}
    (h : grammar.allows (depth + 1) = true →
      result = if grammar.allows (depth + 1 + inner) then built else none) :
    (if grammar.allows (depth + 1) then result else none) =
      if grammar.allows (depth + (inner + 1)) then built else none := by
  have hdepth : depth + (inner + 1) = depth + 1 + inner := by omega
  by_cases hroom : grammar.allows (depth + 1) = true
  · rw [if_pos hroom, hdepth, h hroom]
  · have hdeep : ¬ grammar.allows (depth + (inner + 1)) = true := by
      intro hdeep
      exact hroom (Grammar.allows_of_le (by omega) hdeep)
    rw [if_neg hroom, if_neg hdeep]

/-- A part of a container and what follows it. -/
theorem follow_both {α : Type} {a b : Bool} {part : Option α} {next : α → Build}
    {built : α → Option Build} {go : Build → Option Build}
    (h : ∀ value, go (next value) = if b then built value else none) :
    (if a then part.map next else none).bind go = if a && b then part.bind built else none := by
  cases a <;> cases b <;> cases part <;> simp [h]

/-! ### The value of a term -/

mutual

/-- **The automaton builds the value of a term** from its lexemes, wherever a value may
start. -/
theorem follow_lexemes (t : Term) {expected : Expected} (he : TakesValue expected)
    (frames : List Frame) (hroom : grammar.allows frames.length = true) :
    follow grammar reading (.inside frames expected) t.lexemes =
      if grammar.allows (frames.length + t.depth) then
        (t.value? reading.number).map fun value => complete value frames
      else none := by
  match t with
  | .word w =>
    rw [Term.depth, Nat.add_zero, if_pos hroom, Term.lexemes, Term.value?,
      follow_of_takesValue he frames [] (by simp), Lexeme.token?, Option.bind_some, takeValue_word]
    rfl
  | .number n =>
    rw [Term.depth, Nat.add_zero, if_pos hroom, Term.lexemes, Term.value?,
      follow_of_takesValue he frames [] (by simp), Lexeme.token?]
    cases reading.number n <;> rfl
  | .string pieces =>
    rw [Term.depth, Nat.add_zero, if_pos hroom, Term.lexemes, Term.value?,
      follow_of_takesValue he frames [] (by simp), Lexeme.token?]
    cases decode pieces <;> rfl
  | .array items =>
    rw [Term.depth, Term.lexemes, Term.value?, follow_push he frames (by simp) rfl]
    refine follow_container fun hroom => ?_
    rw [Option.map_map]
    exact follow_items true items [] frames hroom
  | .object members =>
    rw [Term.depth, Term.lexemes, Term.value?, follow_push he frames (by simp) rfl]
    refine follow_container fun hroom => ?_
    rw [Option.map_map]
    exact follow_members true members [] "" frames hroom

/-- The items of an array, given those that are done in reverse, up to its end. -/
theorem follow_items (first : Bool) (items : List Term) (done : List Value)
    (frames : List Frame) (hroom : grammar.allows (frames.length + 1) = true) :
    follow grammar reading
        (.inside (.array done :: frames) (if first then .firstItem else .separator))
        (Term.itemsLexemes first items ++ [.mark .closeArray]) =
      if grammar.allows (frames.length + 1 + Term.itemsDepth items) then
        (Term.itemsValue? reading.number items).map fun values =>
          complete (.array (done.reverse ++ values)) frames
      else none := by
  match items with
  | [] =>
    rw [Term.itemsDepth, Nat.add_zero, if_pos hroom, Term.itemsLexemes, Term.itemsValue?]
    have hclose : closeArray (.array done :: frames) =
      .ok (complete (.array (done.reverse ++ [])) frames) := by rw [List.append_nil]; rfl
    cases first <;> exact follow_of_step [] rfl hclose
  | item :: items =>
    have he : TakesValue (if first then .firstItem else .nextItem) := by cases first <;> trivial
    rw [Term.itemsDepth, Term.itemsLexemes, Term.itemsValue?, List.append_assoc,
      follow_separated first frames .firstItem rfl, List.append_assoc, follow_append,
      follow_lexemes item he (.array done :: frames) hroom, List.length_cons, Grammar.allows_max,
      Option.map_bind]
    refine follow_both fun value => ?_
    rw [Function.comp_apply, Option.map_map]
    have hitems := follow_items false items (value :: done) frames hroom
    simp only [List.reverse_cons, List.append_assoc] at hitems
    exact hitems

/-- The members of an object, given the entries that are done, up to its end. -/
theorem follow_members (first : Bool) (members : List (List Piece × Term)) (done : Entries)
    (last : String) (frames : List Frame) (hroom : grammar.allows (frames.length + 1) = true) :
    follow grammar reading
        (.inside (.object done last :: frames) (if first then .firstKey else .separator))
        (Term.membersLexemes first members ++ [.mark .closeObject]) =
      if grammar.allows (frames.length + 1 + Term.membersDepth members) then
        (Term.membersValue? reading.number members).map fun entries =>
          complete (.object (entries.foldl (fun done e => insertEntry e.1 e.2 done) done)) frames
      else none := by
  match members with
  | [] =>
    rw [Term.membersDepth, Nat.add_zero, if_pos hroom, Term.membersLexemes, Term.membersValue?]
    have hclose : closeObject (.object done last :: frames) =
      .ok (complete (.object done) frames) := rfl
    cases first <;> exact follow_of_step [] rfl hclose
  | (key, member) :: members =>
    rw [Term.membersDepth, Term.membersLexemes, Term.membersValue?, List.append_assoc,
      follow_separated first frames .firstKey rfl, List.cons_append, List.cons_append,
      follow_key first]
    rcases decode key with _ | cs
    · simp
    have hvalue : TakesValue .value := trivial
    rw [Option.bind_some, Option.bind_some, List.append_assoc, follow_append,
      follow_lexemes member hvalue (.object done (String.ofList cs) :: frames) hroom]
    rw [List.length_cons, Grammar.allows_max, Option.map_bind]
    refine follow_both fun value => ?_
    rw [Function.comp_apply, Option.map_map]
    exact follow_members false members (insertEntry (String.ofList cs) value done)
      (String.ofList cs) frames hroom

end

end Build

end RecordQuery.Json
