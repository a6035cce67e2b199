import RecordQuery.Glob
import RecordQuery.Query.Phrase
import RecordQuery.Record

/-!
# Query trees

A compiled query is a tree of conjunctions, disjunctions and negations over leaves,
and a leaf asks whether a glob matches the text of one of some fields. The module
holds what can be done with a tree of any shape: decide whether a record satisfies
it (`RecordQuery.Query.Tree.holds`), describe it over several lines
(`RecordQuery.Query.Tree.description`), write it as a JSON value
(`RecordQuery.Query.Tree.toJson`) and compare it with another
(`RecordQuery.Query.Tree.agrees`).
-/

namespace RecordQuery.Query

open RecordQuery.Json (Value)

/-! ### Leaves -/

/-- A test of some fields against a glob. -/
structure Leaf where
  /-- The fields, one of which has to match. -/
  fields : FieldList
  /-- The glob as a text. -/
  pattern : String
  /-- The compiled glob; without one the leaf never matches. -/
  glob : Option Glob

namespace Leaf

/-- The leaf of a pattern, if it can be compiled. -/
def compile? (fields : FieldList) (pattern : String) (caseSensitive : Bool) :
    Except Glob.Oversized Leaf :=
  match Glob.compile? pattern caseSensitive with
  | .ok glob => .ok ⟨fields, pattern, some glob⟩
  | .error refused => .error refused

/-- The leaf of a pattern that could not be compiled. -/
def unmatchable (fields : FieldList) (pattern : String) : Leaf :=
  ⟨fields, pattern, none⟩

/-- Whether one of the fields of a record matches. -/
def holds {ρ : Type} [Record ρ] (leaf : Leaf) (record : ρ) : Bool :=
  match leaf.glob with
  | some glob => leaf.fields.names.any fun name => (Record.fieldText record name).any glob.isMatch
  | none => false

/-- The leaf on one line. -/
def description (leaf : Leaf) : String :=
  "MATCH(\"" ++ leaf.fields.text ++ "\", \"" ++ leaf.pattern ++ "\")"

/-- Whether two leaves have the same fields, pattern and compiled glob. -/
def agrees (a b : Leaf) : Bool :=
  a.fields == b.fields && a.pattern == b.pattern && a.glob == b.glob

/-- The fields and the pattern as a JSON value. -/
def toJson (leaf : Leaf) : Value :=
  .ofEntries [("fields", .array (leaf.fields.names.map .string)), ("pattern", .string leaf.pattern)]

end Leaf

/-! ### Trees -/

/-- A condition on records. -/
inductive Tree
  /-- All of some conditions. -/
  | all (children : List Tree)
  /-- One of some conditions. -/
  | any (children : List Tree)
  /-- Not a condition. -/
  | negate (child : Tree)
  /-- A test. -/
  | test (leaf : Leaf)

namespace Tree

section Holds

variable {ρ : Type} [Record ρ] (record : ρ)

mutual

/-- **Whether a record satisfies a condition.** -/
def holds : Tree → Bool
  | .all children => holdsAll children
  | .any children => holdsAny children
  | .negate child => !holds child
  | .test leaf => leaf.holds record

/-- Whether a record satisfies all conditions; none are always satisfied. -/
def holdsAll : List Tree → Bool
  | [] => true
  | child :: children => holds child && holdsAll children

/-- Whether a record satisfies one of the conditions; of none, it satisfies none. -/
def holdsAny : List Tree → Bool
  | [] => false
  | child :: children => holds child || holdsAny children

end

@[simp] theorem holdsAll_eq_all (children : List Tree) :
    holdsAll record children = children.all (holds record) := by
  induction children with
  | nil => rfl
  | cons child children ih => simp [holdsAll, ih]

@[simp] theorem holdsAny_eq_any (children : List Tree) :
    holdsAny record children = children.any (holds record) := by
  induction children with
  | nil => rfl
  | cons child children ih => simp [holdsAny, ih]

@[simp] theorem holds_all (children : List Tree) :
    holds record (.all children) = children.all (holds record) := by
  rw [holds, holdsAll_eq_all]

@[simp] theorem holds_any (children : List Tree) :
    holds record (.any children) = children.any (holds record) := by
  rw [holds, holdsAny_eq_any]

@[simp] theorem holds_negate (child : Tree) :
    holds record (.negate child) = !holds record child := by
  rw [holds]

@[simp] theorem holds_test (leaf : Leaf) : holds record (.test leaf) = leaf.holds record := by
  rw [holds]

end Holds

/-! ### Description -/

/-- Indents every line of a text by two spaces. -/
def indent (text : List Char) : List Char :=
  Text.join ['\n'] ((Text.pieces (· == '\n') text).map ([' ', ' '] ++ ·))

/-- Conditions one to a line, in brackets behind a name. -/
def enclose (name : String) (children : List (List Char)) : List Char :=
  name.toList ++ ['(', '\n'] ++ indent (Text.join [',', '\n'] children) ++ [' ', ')']

mutual

/-- The lines that describe a condition. -/
def describe : Tree → List Char
  | .all children => enclose "AND" (describeEach children)
  | .any children => enclose "OR" (describeEach children)
  | .negate child => "NOT( ".toList ++ describe child ++ [' ', ')']
  | .test leaf => leaf.description.toList

/-- The lines that describe each of some conditions. -/
def describeEach : List Tree → List (List Char)
  | [] => []
  | child :: children => describe child :: describeEach children

end

theorem describe_all (children : List Tree) :
    describe (.all children) = enclose "AND" (describeEach children) := rfl

theorem describe_any (children : List Tree) :
    describe (.any children) = enclose "OR" (describeEach children) := rfl

theorem describe_negate (child : Tree) :
    describe (.negate child) = "NOT( ".toList ++ describe child ++ [' ', ')'] := rfl

theorem describe_test (leaf : Leaf) : describe (.test leaf) = leaf.description.toList := rfl

theorem describeEach_eq_map (children : List Tree) :
    describeEach children = children.map describe := by
  induction children with
  | nil => rfl
  | cons child children ih => simp [describeEach, ih]

/-- **The description of a condition**, two spaces a level. -/
def description (tree : Tree) : String :=
  String.ofList tree.describe

/-! ### As a JSON value -/

/-- An operator with its arguments. -/
def operation (name : String) (arguments : Value) : Value :=
  .ofEntries [("op", .string name), ("args", arguments)]

mutual

/-- A condition as a JSON value. -/
def toJson : Tree → Value
  | .all children => operation "AND" (.array (toJsonEach children))
  | .any children => operation "OR" (.array (toJsonEach children))
  | .negate child => operation "NOT" (toJson child)
  | .test leaf => operation "MATCH" leaf.toJson

/-- Each of some conditions as a JSON value. -/
def toJsonEach : List Tree → List Value
  | [] => []
  | child :: children => toJson child :: toJsonEach children

end

/-! ### Comparison -/

mutual

/-- Whether two conditions are built alike from leaves that agree. -/
def agrees : Tree → Tree → Bool
  | .all as, .all bs => agreesEach as bs
  | .any as, .any bs => agreesEach as bs
  | .negate a, .negate b => agrees a b
  | .test a, .test b => a.agrees b
  | _, _ => false

/-- Whether conditions agree one by one. -/
def agreesEach : List Tree → List Tree → Bool
  | [], [] => true
  | a :: as, b :: bs => agrees a b && agreesEach as bs
  | _, _ => false

end

instance : BEq Tree where
  beq := agrees

end Tree

end RecordQuery.Query
