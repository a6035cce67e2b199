import Mathlib.Data.List.Basic
import Mathlib.Data.List.ModifyLast
import RecordQuery.Query.Token

/-!
# Groups and separators

Cutting a token list into groups and putting separators between groups undo one
another. The cut is described by three equations, which all that is said about groups
elsewhere goes through: tokens without a separator are one group
(`RecordQuery.Query.groupsBetween_of_notMem`), a separator ends the groups before it and
starts those behind it (`RecordQuery.Query.groupsBetween_append`), and so groups with
separators between them are cut into these groups
(`RecordQuery.Query.groupsBetween_intercalate`).

That no token makes no group, where the equations alone would give one empty group, is
the only exception; a list of groups is the cut of some tokens exactly if it is not that
single empty group (`RecordQuery.Query.splitGroups_intercalate`).

Groups that some tokens are cut into can be told without the cut
(`RecordQuery.Query.Cuts`). They grow from left to right, each token at the end of the last group,
and so one pass that starts with an empty group ends with the cut
(`RecordQuery.Query.foldl_takeToken`); the pass would lose a token only if there were no group at
all, and there always is one.
-/

namespace RecordQuery.Query

theorem groupsBetween_ne_nil (words : List String) : groupsBetween words ≠ [] := by
  cases words with
  | nil => simp [groupsBetween]
  | cons word rest =>
    rw [groupsBetween]
    split
    · simp
    · cases groupsBetween rest <;> simp [consToken]

theorem consToken_append (word : String) {groups : List (List String)} (h : groups ≠ [])
    (others : List (List String)) :
    consToken word (groups ++ others) = consToken word groups ++ others := by
  obtain ⟨group, groups, rfl⟩ := List.exists_cons_of_ne_nil h
  rfl

/-- **A separator between tokens separates their groups.** -/
theorem groupsBetween_append (words others : List String) :
    groupsBetween (words ++ groupSeparator :: others) =
      groupsBetween words ++ groupsBetween others := by
  induction words with
  | nil => simp [groupsBetween]
  | cons word words ih =>
    rw [List.cons_append, groupsBetween, groupsBetween, ih]
    split
    · rfl
    · exact consToken_append word (groupsBetween_ne_nil words) _

/-- **Tokens without a separator are one group.** -/
theorem groupsBetween_of_notMem {words : List String} (h : groupSeparator ∉ words) :
    groupsBetween words = [words] := by
  induction words with
  | nil => rfl
  | cons word words ih =>
    obtain ⟨hword, hwords⟩ := not_or.1 (mt List.mem_cons.2 h)
    rw [groupsBetween, if_neg (Ne.symm hword), ih hwords]
    rfl

/-- **Groups with separators between them are cut into these groups.** -/
theorem groupsBetween_intercalate {groups : List (List String)} (hne : groups ≠ [])
    (hsep : ∀ group ∈ groups, groupSeparator ∉ group) :
    groupsBetween ([groupSeparator].intercalate groups) = groups := by
  induction groups with
  | nil => exact absurd rfl hne
  | cons group groups ih =>
    have hgroup := groupsBetween_of_notMem (hsep group (by simp))
    cases groups with
    | nil => rw [List.intercalate_singleton, hgroup]
    | cons next groups =>
      have hrest := ih (by simp) fun g hg => hsep g (by simp [hg])
      rw [List.intercalate_cons_cons, List.append_assoc, List.singleton_append,
        groupsBetween_append, hgroup, hrest]
      rfl

theorem splitGroups_of_ne_nil {words : List String} (h : words ≠ []) :
    splitGroups words = groupsBetween words := by
  obtain ⟨word, words, rfl⟩ := List.exists_cons_of_ne_nil h
  rfl

theorem intercalate_eq_nil_iff {groups : List (List String)} :
    [groupSeparator].intercalate groups = [] ↔ groups = [] ∨ groups = [[]] := by
  match groups with
  | [] => simp
  | [group] => simp
  | group :: next :: groups => simp [List.intercalate_cons_cons]

/-- Groups with separators between them are cut into these groups, unless there is one
group and it is empty. -/
theorem splitGroups_intercalate {groups : List (List String)} (hne : groups ≠ [[]])
    (hsep : ∀ group ∈ groups, groupSeparator ∉ group) :
    splitGroups ([groupSeparator].intercalate groups) = groups := by
  by_cases hnil : groups = []
  · subst hnil
    rfl
  · rw [splitGroups_of_ne_nil, groupsBetween_intercalate hnil hsep]
    intro h
    rcases intercalate_eq_nil_iff.1 h with h | h
    · exact hnil h
    · exact hne h

theorem splitGroups_eq_nil_iff {words : List String} : splitGroups words = [] ↔ words = [] := by
  cases words with
  | nil => simp
  | cons word words =>
    rw [splitGroups_cons]
    exact iff_of_false (groupsBetween_ne_nil _) (by simp)

/-- No tokens are cut into one empty group. -/
theorem splitGroups_ne (words : List String) : splitGroups words ≠ [[]] := by
  cases words with
  | nil => simp
  | cons word words =>
    obtain ⟨group, groups, hgroups⟩ := List.exists_cons_of_ne_nil (groupsBetween_ne_nil words)
    rw [splitGroups_cons, groupsBetween, hgroups]
    split <;> simp [consToken]

/-! ### The tokens of the groups -/

theorem flatten_consToken (word : String) (groups : List (List String)) :
    (consToken word groups).flatten = word :: groups.flatten := by
  cases groups <;> rfl

theorem flatten_groupsBetween (words : List String) :
    (groupsBetween words).flatten = words.filter (· ≠ groupSeparator) := by
  induction words with
  | nil => rfl
  | cons word words ih =>
    rw [groupsBetween]
    split
    · next h => simp [h, ih]
    · next h => rw [flatten_consToken, ih, List.filter_cons_of_pos (by simpa using h)]

/-- **The tokens of the groups are the tokens**, less the separators. -/
theorem flatten_splitGroups (words : List String) :
    (splitGroups words).flatten = words.filter (· ≠ groupSeparator) := by
  cases words with
  | nil => rfl
  | cons word words => exact flatten_groupsBetween (word :: words)

/-! ### The cut in one pass -/

/-- **Groups that some tokens are cut into**: what they are, without saying how they are found. -/
structure Cuts (words : List String) (groups : List (List String)) : Prop where
  /-- There is a group. -/
  ne_nil : groups ≠ []
  /-- No separator is in a group. -/
  separator_notMem : ∀ group ∈ groups, groupSeparator ∉ group
  /-- There is one more group than there are separators. -/
  length_eq : groups.length = words.count groupSeparator + 1
  /-- With separators between them the groups are the tokens. -/
  join_eq : [groupSeparator].intercalate groups = words

/-- **One step of the pass**: a separator starts a group, and any other token goes to the end of
the last group. Without a group the token is lost. -/
def takeToken (groups : List (List String)) (word : String) : List (List String) :=
  if word = groupSeparator then groups ++ [[]] else groups.modifyLast (· ++ [word])

/-- Joined groups are groups with a separator behind each, and the last one. -/
theorem intercalate_concat (front : List (List String)) (last : List String) :
    [groupSeparator].intercalate (front ++ [last]) =
      front.flatMap (· ++ [groupSeparator]) ++ last := by
  induction front with
  | nil => simp
  | cons group front ih =>
    rw [List.flatMap_cons, List.append_assoc, ← ih]
    cases front <;> simp [List.intercalate_cons_cons]

theorem cuts_nil : Cuts [] [[]] :=
  ⟨by simp, by simp, rfl, rfl⟩

namespace Cuts

variable {words : List String} {groups : List (List String)}

/-- **A step keeps the cut**: its groups are those of the tokens with one more behind them. -/
theorem concat (h : Cuts words groups) (word : String) :
    Cuts (words ++ [word]) (takeToken groups word) := by
  -- there is a last group, so the token is not lost
  obtain ⟨front, last, rfl⟩ := (List.eq_nil_or_concat' groups).resolve_left h.ne_nil
  have hjoin := h.join_eq
  rw [intercalate_concat] at hjoin
  have hfront : ∀ group ∈ front, groupSeparator ∉ group :=
    fun group hgroup => h.separator_notMem group (by simp [hgroup])
  have hlast : groupSeparator ∉ last := h.separator_notMem last (by simp)
  rw [takeToken]
  split
  · next hword =>
    refine ⟨by simp, ?_, ?_, ?_⟩
    · simpa [or_imp, forall_and] using And.intro hfront hlast
    · rw [List.length_append, h.length_eq, hword, List.count_append, List.count_singleton_self]
      rfl
    · rw [intercalate_concat, ← hjoin, hword]
      simp
  · next hword =>
    rw [List.modifyLast_concat]
    refine ⟨by simp, ?_, ?_, ?_⟩
    · simpa [or_imp, forall_and, hlast, Ne.symm hword] using hfront
    · rw [List.count_append, List.count_singleton, beq_false_of_ne hword, if_neg Bool.false_ne_true,
        Nat.add_zero, ← h.length_eq, List.length_append, List.length_append]
      rfl
    · rw [intercalate_concat, ← hjoin, List.append_assoc]

theorem append (h : Cuts words groups) (others : List String) :
    Cuts (words ++ others) (others.foldl takeToken groups) := by
  induction others generalizing words groups with
  | nil => rwa [List.append_nil]
  | cons word others ih => simpa using ih (h.concat word)

/-- **There is only one cut.** -/
theorem eq_groupsBetween (h : Cuts words groups) : groups = groupsBetween words := by
  rw [← h.join_eq, groupsBetween_intercalate h.ne_nil h.separator_notMem]

end Cuts

/-- **The pass ends with the cut.** -/
theorem foldl_takeToken (words : List String) :
    words.foldl takeToken [[]] = groupsBetween words :=
  (cuts_nil.append words).eq_groupsBetween

theorem cuts_splitGroups {words : List String} (h : words ≠ []) :
    Cuts words (splitGroups words) := by
  rw [splitGroups_of_ne_nil h, ← foldl_takeToken]
  exact cuts_nil.append words

/-- **Cutting and joining undo one another**: the cut of some tokens has one more group than
there are bars, no bar in a group, and the tokens as its join; and groups without bars are the cut
of their join, empty ones included, unless there is one group and it is empty. The cut is the
outcome of one pass that starts with an empty group, but no token is cut into no group. -/
theorem splitGroups_roundtrip :
    splitGroups [] = [] ∧
      (∀ words : List String, words ≠ [] →
        splitGroups words = words.foldl takeToken [[]] ∧
          (∀ group ∈ splitGroups words, "|" ∉ group) ∧
          (splitGroups words).length = words.count "|" + 1 ∧
          ["|"].intercalate (splitGroups words) = words) ∧
      ∀ groups : List (List String), groups ≠ [[]] → (∀ group ∈ groups, "|" ∉ group) →
        splitGroups (["|"].intercalate groups) = groups := by
  refine ⟨rfl, fun words hwords => ?_, fun groups hne hbar => splitGroups_intercalate hne hbar⟩
  have hcuts := cuts_splitGroups hwords
  refine ⟨?_, hcuts.separator_notMem, hcuts.length_eq, hcuts.join_eq⟩
  rw [splitGroups_of_ne_nil hwords, foldl_takeToken]

/-- Tokens with separators at both ends and next to one another. -/
def edgeTokens : List String :=
  ["|", "a", "b", "|", "|", "c", "|"]

/-- Their groups, with empty ones at both ends and in the middle. -/
def edgeGroups : List (List String) :=
  [[], ["a", "b"], [], ["c"], []]

/-- Empty groups are kept wherever they are. -/
theorem splitGroups_roundtrip_edges :
    edgeTokens ≠ [] ∧
      (splitGroups edgeTokens = edgeTokens.foldl takeToken [[]] ∧
        (∀ group ∈ splitGroups edgeTokens, "|" ∉ group) ∧
        (splitGroups edgeTokens).length = 5 ∧
        ["|"].intercalate (splitGroups edgeTokens) = edgeTokens) ∧
      edgeGroups ≠ [[]] ∧ (∀ group ∈ edgeGroups, "|" ∉ group) ∧
      splitGroups edgeTokens = edgeGroups := by
  obtain ⟨-, hcut, hjoin⟩ := splitGroups_roundtrip
  have hwords : edgeTokens ≠ [] := List.cons_ne_nil _ _
  have hne : edgeGroups ≠ [[]] := by decide
  have hbar : ∀ group ∈ edgeGroups, "|" ∉ group := by decide
  obtain ⟨hpass, hfree, hlength, htokens⟩ := hcut edgeTokens hwords
  exact ⟨hwords, ⟨hpass, hfree, hlength.trans (by decide), htokens⟩, hne, hbar,
    hjoin edgeGroups hne hbar⟩

end RecordQuery.Query
