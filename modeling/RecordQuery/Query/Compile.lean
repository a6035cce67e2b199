import RecordQuery.Log
import RecordQuery.Query.Phrase
import RecordQuery.Query.Tree
import RecordQuery.Text.Characters

/-!
# Compiling a query

A query compiles to a disjunction of conjunctions of phrases
(`RecordQuery.Query.compile`): one conjunction for every group, in it one leaf for
every token, negated where the phrase is. Compiling never fails. The warnings stand
in reading order: of a group that it is empty, of a token first what reading it as a
phrase found and then whether its pattern was refused.
-/

namespace RecordQuery.Query

namespace Phrase

/-- The leaf of a phrase; one whose pattern is refused never matches. -/
def leaf (phrase : Phrase) (caseSensitive : Bool) : Leaf :=
  match Leaf.compile? phrase.fields phrase.pattern caseSensitive with
  | .ok leaf => leaf
  | .error _ => .unmatchable phrase.fields phrase.pattern

/-- **The condition of a phrase.** -/
def tree (phrase : Phrase) (caseSensitive : Bool) : Tree :=
  if phrase.negated then .negate (.test (phrase.leaf caseSensitive))
  else .test (phrase.leaf caseSensitive)

/-- The warning about a pattern that is refused. -/
def refusal (phrase : Phrase) (caseSensitive : Bool) : List Warning :=
  match Glob.compile? phrase.pattern caseSensitive with
  | .ok _ => []
  | .error refused => [.invalidPattern refused.pattern refused.reason]

/-- The phrase as the log shows it. -/
def shown (phrase : Phrase) : String :=
  "Phrase \x7b fields: FieldList([" ++
    Text.joinStrings ", " (phrase.fields.names.map Text.quoted) ++
    "]), pattern: " ++ Text.quoted phrase.pattern ++
    ", negated: " ++ (if phrase.negated then "true" else "false") ++ " \x7d"

end Phrase

/-! ### Groups -/

/-- The condition of a group: all of its phrases. -/
def groupTree (defaults : FieldList) (caseSensitive : Bool) (group : List String) : Tree :=
  .all (group.map fun token => (Phrase.parse token defaults).tree caseSensitive)

/-- The warnings about a token. -/
def tokenWarnings (defaults : FieldList) (caseSensitive : Bool) (token : String) : List Warning :=
  Phrase.warnings token ++ (Phrase.parse token defaults).refusal caseSensitive

/-- The warnings about a group, given its place among the groups. -/
def groupWarnings (defaults : FieldList) (caseSensitive : Bool) (group : List String)
    (index : Nat) : List Warning :=
  if group.isEmpty then [.emptyGroup index]
  else group.flatMap (tokenWarnings defaults caseSensitive)

/-! ### Queries -/

/-- A compiled query. -/
structure Compiled where
  /-- The condition. -/
  tree : Tree
  /-- The places at which the compiler was lenient. -/
  warnings : List Warning

/-- Two compiled queries are equal if their conditions agree and their warnings are
the same. -/
instance : BEq Compiled where
  beq a b := a.tree == b.tree && a.warnings == b.warnings

/-- The groups of tokens of a query. -/
def groups (search : String) : List (List String) :=
  splitGroups (tokenize search)

/-- **Compiles a query** for some default fields. -/
def compile (search : String) (defaults : FieldList) (caseSensitive : Bool) : Compiled where
  tree := .any ((groups search).map (groupTree defaults caseSensitive))
  warnings := (groups search).zipIdx.flatMap fun group =>
    groupWarnings defaults caseSensitive group.1 group.2

/-- The lines that compiling a query leaves in the log: one for every phrase, and a
count of everything. -/
def compileLog (search : String) (defaults : FieldList) (caseSensitive : Bool) :
    List Log.Entry :=
  let phrase (token : String) : Log.Entry :=
    ⟨.trace, "phrase " ++ Text.quoted token ++ " -> " ++ (Phrase.parse token defaults).shown⟩
  let tokens := tokenize search
  let groups := groups search
  let warnings := (compile search defaults caseSensitive).warnings
  groups.flatten.map phrase ++
    [⟨.debug, "compiled " ++ Text.quoted search ++
      s!" into {groups.length} OR group(s) from {tokens.length} token(s), {warnings.length} warning(s)"⟩]

end RecordQuery.Query
