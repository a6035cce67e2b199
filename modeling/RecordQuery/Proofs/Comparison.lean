import RecordQuery.Proofs.Wildcards
import RecordQuery.Query.Compile

/-!
# What comparing says

Two compiled globs are compared by the texts of their regular expressions, and two
conditions by their shape, the fields and the patterns of their leaves and the globs
compiled from these. A comparison by text is sound only if no two globs have the same
text. They do not, because the glob can be read off its expression
(`RecordQuery.Glob.ofExpression_expression`): an anchor at the start can only be the one put
there for a final star, a backslash only the one in front of an escaped character, and a
star only the second half of a run. The one place where reading has to look ahead is a
point, which is a question mark or, in front of a star, the first half of a run.

So what is compared equal is the same (`RecordQuery.Glob.beq_iff`,
`RecordQuery.Query.Tree.agrees_iff_eq`), and it gives every record the same verdict.
-/

namespace RecordQuery

namespace Glob

/-! ### Reading an expression back -/

/-- The characters of a glob, read off its expression without the anchor. -/
def ofBody : List Char → List Char
  | [] => []
  | '.' :: '*' :: rest => '*' :: ofBody rest
  | '.' :: rest => '?' :: ofBody rest
  | '\\' :: c :: rest => c :: ofBody rest
  | c :: rest => c :: ofBody rest

/-- **The glob that has an expression.** -/
def ofExpression : List Char → List Char
  | '^' :: rest => ofBody rest
  | body => ofBody body

theorem ofBody_mark {rest : List Char} (h : ∀ behind, rest ≠ '*' :: behind) :
    ofBody ('.' :: rest) = '?' :: ofBody rest := by
  rw [ofBody]
  exact h

theorem ofBody_letter {c : Char} (hstar : c ≠ '*') (hmark : c ≠ '?') (rest : List Char) :
    ofBody (expressionOf c ++ rest) = c :: ofBody rest := by
  rw [expressionOf_letter hstar hmark]
  split
  · rfl
  · next hc =>
    -- a character that is not escaped is neither a point nor a backslash
    have hpoint : c ≠ '.' := by
      rintro rfl
      exact hc (by decide)
    have hescape : c ≠ '\\' := by
      rintro rfl
      exact hc (by decide)
    rw [List.singleton_append, ofBody]
    · exact fun _ h _ => hpoint h
    · exact hpoint
    · exact fun _ _ h _ => hescape h

/-- **Reading undoes writing**, one character of the glob after the other. -/
theorem ofBody_flatMap (pattern : List Char) :
    ofBody (pattern.flatMap expressionOf) = pattern := by
  induction pattern with
  | nil => rfl
  | cons c pattern ih =>
    rw [List.flatMap_cons]
    by_cases hstar : c = '*'
    · subst hstar
      exact congrArg ('*' :: ·) ih
    by_cases hmark : c = '?'
    · subst hmark
      -- the expression of what follows does not start with a star
      rw [show expressionOf '?' = ['.'] from rfl, List.singleton_append,
        ofBody_mark (flatMap_expressionOf_ne (.inl rfl) pattern), ih]
    · rw [ofBody_letter hstar hmark, ih]

/-- **A glob can be read off its expression.** -/
theorem ofExpression_expression (pattern : String) :
    ofExpression (expression pattern).toList = pattern.toList := by
  rw [expression, String.toList_ofList]
  split
  · exact ofBody_flatMap pattern.toList
  · rw [List.nil_append, ofExpression]
    · exact ofBody_flatMap pattern.toList
    · exact flatMap_expressionOf_ne (.inr rfl) pattern.toList

/-- **No two globs have the same expression.** -/
theorem expression_injective : Function.Injective expression := by
  intro pattern other h
  apply String.toList_inj.1
  rw [← ofExpression_expression pattern, h, ofExpression_expression]

/-! ### Comparing globs -/

/-- **Two globs are compared equal** if they have the same text and treat case alike. -/
theorem beq_iff {glob other : Glob} :
    (glob == other) = true ↔
      glob.pattern = other.pattern ∧ glob.caseSensitive = other.caseSensitive := by
  have hbeq : (glob == other) = (expression glob.pattern == expression other.pattern &&
      glob.caseSensitive == other.caseSensitive) := rfl
  rw [hbeq, Bool.and_eq_true, beq_iff_eq, beq_iff_eq, expression_injective.eq_iff]

instance : LawfulBEq Glob where
  eq_of_beq {glob other} h := by
    obtain ⟨pattern, caseSensitive, hsize⟩ := glob
    obtain ⟨rfl, rfl⟩ := beq_iff.1 h
    rfl
  rfl := beq_iff.2 ⟨rfl, rfl⟩

end Glob

namespace Query

/-! ### Comparing conditions -/

/-- Two leaves agree if they are the same. -/
theorem Leaf.agrees_iff_eq {leaf other : Leaf} : leaf.agrees other = true ↔ leaf = other := by
  rw [agrees, Bool.and_eq_true, Bool.and_eq_true, beq_iff_eq, beq_iff_eq, beq_iff_eq, and_assoc]
  cases leaf
  cases other
  rw [mk.injEq]

namespace Tree

mutual

/-- **Two conditions agree if they are the same**: by induction on the first, whose form the
second has to share. -/
theorem agrees_iff_eq (tree other : Tree) : tree.agrees other = true ↔ tree = other := by
  cases tree with
  | all children =>
    cases other with
    | all others => rw [agrees, agreesEach_iff_eq children others, all.injEq]
    | _ => simp [agrees]
  | any children =>
    cases other with
    | any others => rw [agrees, agreesEach_iff_eq children others, any.injEq]
    | _ => simp [agrees]
  | negate child =>
    cases other with
    | negate other => rw [agrees, agrees_iff_eq child other, negate.injEq]
    | _ => simp [agrees]
  | test leaf =>
    cases other with
    | test other => rw [agrees, Leaf.agrees_iff_eq, test.injEq]
    | _ => simp [agrees]

/-- The same for conditions one by one. -/
theorem agreesEach_iff_eq (children others : List Tree) :
    agreesEach children others = true ↔ children = others := by
  cases children with
  | nil => cases others <;> simp [agreesEach]
  | cons child children =>
    cases others with
    | nil => simp [agreesEach]
    | cons other others =>
      rw [agreesEach, Bool.and_eq_true, agrees_iff_eq child other,
        agreesEach_iff_eq children others, List.cons.injEq]

end

instance : LawfulBEq Tree where
  eq_of_beq {tree other} h := (agrees_iff_eq tree other).1 h
  rfl {tree} := (agrees_iff_eq tree tree).2 rfl

end Tree

/-- **Comparing loses nothing.** No two globs have the same expression. So globs that were
compiled are compared equal exactly if they were compiled from the same text with the same
treatment of case, and conditions, whatever their shape, exactly if they are the same; in
particular conditions that are compared equal give every record of any type the same verdict. -/
theorem comparison_exact :
    (∀ pattern other : String, Glob.expression pattern = Glob.expression other →
        pattern = other) ∧
      (∀ (pattern other : String) (caseSensitive otherCase : Bool) (glob otherGlob : Glob),
        Glob.compile? pattern caseSensitive = .ok glob →
        Glob.compile? other otherCase = .ok otherGlob →
        ((glob == otherGlob) = true ↔ pattern = other ∧ caseSensitive = otherCase)) ∧
      (∀ tree other : Tree, (tree == other) = true ↔ tree = other) ∧
      ∀ tree other : Tree, (tree == other) = true →
        ∀ {ρ : Type} [Record ρ] (record : ρ), tree.holds record = other.holds record := by
  refine ⟨fun pattern other h => Glob.expression_injective h, ?_, fun tree other => beq_iff_eq,
    fun tree other h => ?_⟩
  · intro pattern other caseSensitive otherCase glob otherGlob hglob hother
    obtain ⟨rfl, rfl⟩ := Glob.eq_of_compile? hglob
    obtain ⟨rfl, rfl⟩ := Glob.eq_of_compile? hother
    exact Glob.beq_iff
  · intro ρ _ record
    rw [eq_of_beq h]

/-- A query with a scope of two names, one of its patterns anchored and one negated. -/
def scopedQuery : Compiled :=
  compile "a,b:x.* -c:y | d" ⟨["d"]⟩ true

/-- The same query, written in another way and with other default fields. -/
def quotedQuery : Compiled :=
  compile "a|b:\"x.*\"\n-c:\"y\" | d:d" ⟨["e"]⟩ true

/-- Globs that differ in case only are told apart, and the two queries are not. -/
theorem comparison_exact_scoped :
    Glob.expression "x.?*" = "^x\\...*" ∧
      (∀ other, Glob.expression other = Glob.expression "x.?*" → other = "x.?*") ∧
      (∃ glob other, Glob.compile? "x.*" true = .ok glob ∧ Glob.compile? "x.*" false = .ok other ∧
        ¬ (glob == other) = true) ∧
      (scopedQuery.tree == quotedQuery.tree) = true ∧
      scopedQuery.tree = quotedQuery.tree ∧
      quotedQuery.tree.holds (Json.Value.object [("b", .string "x.y")]) = true := by
  obtain ⟨hexpression, hglobs, htrees, hverdict⟩ := comparison_exact
  obtain ⟨glob, hglob⟩ := @Glob.exists_compile? "x.*" true (by decide)
  obtain ⟨other, hother⟩ := @Glob.exists_compile? "x.*" false (by decide)
  have hsame : (scopedQuery.tree == quotedQuery.tree) = true := by decide +kernel
  refine ⟨by decide, fun other h => hexpression other _ h, ⟨glob, other, hglob, hother, ?_⟩, hsame,
    (htrees _ _).1 hsame, (hverdict _ _ hsame _).symm.trans (by decide +kernel)⟩
  intro h
  exact absurd ((hglobs _ _ _ _ _ _ hglob hother).1 h).2 (by decide)

end Query

end RecordQuery
