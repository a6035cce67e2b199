import RecordQuery.Text.Characters

/-!
# Tokens of a query

A query is cut into tokens by one scan from left to right
(`RecordQuery.Query.tokens`). White space between tokens is skipped. Where the
rest of the query starts with a quoted phrase, that phrase is the token: an optional
minus sign, an optional field scope that ends in a colon, and at least one character
between two quotation marks, blanks and bars included. Anywhere else the token is
the longest run of characters without white space.

Tokens that are a single bar separate the groups of the query
(`RecordQuery.Query.splitGroups`).
-/

namespace RecordQuery.Query

/-! ### Quoted phrases -/

/-- Whether a character may stand in a field scope: an ASCII letter or digit, the low
line, a separator of names, or one of the two characters outside ASCII that agree
with a letter of it. -/
def isScopeChar (c : Char) : Bool :=
  c.isAlphanum || c == '_' || c == '|' || c == ',' || c == '\u017f' || c == '\u212a'

/-- The field scope at the start of a text, without its colon, and what follows the
colon. -/
def scope? (cs : List Char) : Option (List Char × List Char) :=
  match cs.dropWhile isScopeChar with
  | ':' :: rest =>
    if (cs.takeWhile isScopeChar).isEmpty then none else some (cs.takeWhile isScopeChar, rest)
  | _ => none

/-- Whether a character is not a quotation mark. -/
def isUnquote (c : Char) : Bool :=
  c != '"'

/-- The quotation at the start of a text, with its marks, and what follows it. -/
def quotation? : List Char → Option (List Char × List Char)
  | '"' :: cs =>
    match cs.dropWhile isUnquote with
    | '"' :: rest =>
      if (cs.takeWhile isUnquote).isEmpty then none
      else some ('"' :: cs.takeWhile isUnquote ++ ['"'], rest)
    | _ => none
  | _ => none

/-- The quotation at the start of a text, behind its field scope if it has one. -/
def scopedQuotation? (cs : List Char) : Option (List Char × List Char) :=
  match scope? cs with
  | some (names, rest) => (quotation? rest).map fun found => (names ++ ':' :: found.1, found.2)
  | none => quotation? cs

/-- **The quoted phrase** at the start of a text, with its sign and its scope. -/
def quotedPhrase? : List Char → Option (List Char × List Char)
  | '-' :: cs => (scopedQuotation? cs).map fun found => ('-' :: found.1, found.2)
  | cs => scopedQuotation? cs

/-! ### The scan -/

/-- Whether a character is not white space. -/
def isInk (c : Char) : Bool :=
  !Text.isBlank c

/-- The token at the start of a text, and what follows it. -/
def nextToken (cs : List Char) : List Char × List Char :=
  (quotedPhrase? cs).getD (cs.takeWhile isInk, cs.dropWhile isInk)

theorem append_of_scope? {cs names rest : List Char} (h : scope? cs = some (names, rest)) :
    names ++ ':' :: rest = cs := by
  unfold scope? at h
  split at h
  · next rest' hd =>
    split at h
    · simp at h
    · obtain ⟨rfl, rfl⟩ : cs.takeWhile isScopeChar = names ∧ rest' = rest := by simpa using h
      rw [← hd, List.takeWhile_append_dropWhile]
  · simp at h

theorem append_of_quotation? {cs token rest : List Char}
    (h : quotation? cs = some (token, rest)) : token ++ rest = cs := by
  unfold quotation? at h
  split at h
  · next inner =>
    split at h
    · next rest' hd =>
      split at h
      · simp at h
      · obtain ⟨rfl, rfl⟩ :
            '"' :: (inner.takeWhile isUnquote ++ ['"']) = token ∧ rest' = rest := by
          simpa using h
        simp only [List.cons_append, List.append_assoc, List.nil_append, List.cons.injEq,
          true_and]
        rw [← hd, List.takeWhile_append_dropWhile]
    · simp at h
  · simp at h

theorem append_of_scopedQuotation? {cs token rest : List Char}
    (h : scopedQuotation? cs = some (token, rest)) : token ++ rest = cs := by
  unfold scopedQuotation? at h
  split at h
  · next names tail hs =>
    obtain ⟨found, hq, heq⟩ := Option.map_eq_some_iff.1 h
    obtain ⟨rfl, rfl⟩ := Prod.mk.inj heq
    obtain ⟨quoted, after⟩ := found
    rw [← append_of_scope? hs, ← append_of_quotation? hq]
    simp
  · exact append_of_quotation? h

theorem append_of_quotedPhrase? {cs token rest : List Char}
    (h : quotedPhrase? cs = some (token, rest)) : token ++ rest = cs := by
  unfold quotedPhrase? at h
  split at h
  · obtain ⟨found, hq, heq⟩ := Option.map_eq_some_iff.1 h
    obtain ⟨rfl, rfl⟩ := Prod.mk.inj heq
    rw [List.cons_append, append_of_scopedQuotation? hq]
  · exact append_of_scopedQuotation? h

/-- **Nothing is lost**: a token and what follows it are the text. -/
theorem nextToken_append (cs : List Char) : (nextToken cs).1 ++ (nextToken cs).2 = cs := by
  unfold nextToken
  cases h : quotedPhrase? cs with
  | none => exact List.takeWhile_append_dropWhile
  | some found => exact append_of_quotedPhrase? h

theorem quotation?_ne_nil {cs token rest : List Char} (h : quotation? cs = some (token, rest)) :
    token ≠ [] := by
  unfold quotation? at h
  split at h
  · split at h
    · split at h
      · simp at h
      · rintro rfl
        simp at h
    · simp at h
  · simp at h

theorem scopedQuotation?_ne_nil {cs token rest : List Char}
    (h : scopedQuotation? cs = some (token, rest)) : token ≠ [] := by
  unfold scopedQuotation? at h
  split at h
  · obtain ⟨found, -, heq⟩ := Option.map_eq_some_iff.1 h
    obtain ⟨rfl, rfl⟩ := Prod.mk.inj heq
    simp
  · exact quotation?_ne_nil h

theorem quotedPhrase?_ne_nil {cs token rest : List Char}
    (h : quotedPhrase? cs = some (token, rest)) : token ≠ [] := by
  unfold quotedPhrase? at h
  split at h
  · obtain ⟨found, -, heq⟩ := Option.map_eq_some_iff.1 h
    obtain ⟨rfl, rfl⟩ := Prod.mk.inj heq
    simp
  · exact scopedQuotation?_ne_nil h

/-- A token that starts with a character other than white space is not empty. -/
theorem nextToken_ne_nil {c : Char} (h : Text.isBlank c = false) (cs : List Char) :
    (nextToken (c :: cs)).1 ≠ [] := by
  unfold nextToken
  cases hq : quotedPhrase? (c :: cs) with
  | none => simp [isInk, h]
  | some found => exact quotedPhrase?_ne_nil hq

/-- The first character that white space leaves is not white space. -/
theorem isBlank_of_trimLeft {cs rest : List Char} {c : Char}
    (h : Text.trimLeft cs = c :: rest) : Text.isBlank c = false := by
  have hhead := List.head?_dropWhile_not Text.isBlank cs
  rw [Text.trimLeft] at h
  simpa [h] using hhead

/-- **The tokens of a text.** -/
def tokens (cs : List Char) : List (List Char) :=
  match _h : Text.trimLeft cs with
  | [] => []
  | c :: rest => (nextToken (c :: rest)).1 :: tokens (nextToken (c :: rest)).2
  termination_by cs.length
  decreasing_by
    have hpos := List.length_pos_iff.2 (nextToken_ne_nil (isBlank_of_trimLeft _h) rest)
    have happ := congrArg List.length (nextToken_append (c :: rest))
    have htrim : (Text.trimLeft cs).length ≤ cs.length :=
      (List.dropWhile_sublist Text.isBlank).length_le
    rw [_h] at htrim
    rw [List.length_append] at happ
    omega

/-- The tokens of a query. -/
def tokenize (search : String) : List String :=
  (tokens search.toList).map String.ofList

/-! ### Groups -/

/-- The token between two groups. -/
def groupSeparator : String := "|"

/-- Puts a token in front of the first group. -/
def consToken (token : String) : List (List String) → List (List String)
  | [] => [[token]]
  | group :: groups => (token :: group) :: groups

/-- The groups between the separators among some tokens: one more than there are
separators. -/
def groupsBetween : List String → List (List String)
  | [] => [[]]
  | token :: rest =>
    if token = groupSeparator then [] :: groupsBetween rest
    else consToken token (groupsBetween rest)

/-- **The groups of a token list**: no token, no group. -/
def splitGroups : List String → List (List String)
  | [] => []
  | token :: rest => groupsBetween (token :: rest)

@[simp] theorem splitGroups_nil : splitGroups [] = [] := rfl

@[simp] theorem splitGroups_cons (token : String) (rest : List String) :
    splitGroups (token :: rest) = groupsBetween (token :: rest) := rfl

end RecordQuery.Query
