import Mathlib.Data.List.Basic
import RecordQuery.Query.Filter

/-!
# Sessions with a filter

A filter is asked one thing after another: to replace its query or its default fields, to
judge records, to describe itself (`RecordQuery.Query.Call`). What it is at any time
depends on the last query and the last default fields only. It is the filter that these two
give anew (`RecordQuery.Query.Filter.run_coherent`), so nothing of an earlier query is left
in its tree or its warnings, and an answer is the same as from a fresh filter.

The step that carries this is `RecordQuery.Query.Filter.after_new`: whatever is asked of a
fresh filter, what is left is a fresh filter. New default fields are the one danger, since
the query is out of the filter while it is compiled again. However a filter came about, it
stays compiled once it is (`RecordQuery.Query.Filter.IsCurrent.run`), and then it selects the
records that a search finds (`RecordQuery.Query.Filter.IsCurrent.select_eq_search`).
-/

namespace RecordQuery.Query

/-! ### Calls and answers -/

/-- What is asked of a filter. -/
inductive Call : Type 1
  /-- To replace the query. -/
  | parse (search : String)
  /-- To replace the default fields. -/
  | setDefaultFields (fields : FieldList)
  /-- Whether a record matches. -/
  | test {ρ : Type} [Record ρ] (record : ρ)
  /-- Whether a record satisfies some condition. -/
  | testTree {ρ : Type} [Record ρ] (tree : Tree) (record : ρ)
  /-- Which records match. -/
  | select {ρ : Type} [Record ρ] (records : List ρ)
  /-- How the condition reads. -/
  | describe

/-- What a filter answers. -/
inductive Answer : Type 1
  /-- That something was replaced. -/
  | done
  /-- Whether a record matches. -/
  | verdict (holds : Bool)
  /-- The records that match. -/
  | records {ρ : Type} (found : List ρ)
  /-- How the condition reads. -/
  | text (description : String)

namespace Call

/-- The query that a call puts in place. -/
def search? : Call → Option String
  | .parse search => some search
  | _ => none

/-- The default fields that a call puts in place. -/
def fields? : Call → Option FieldList
  | .setDefaultFields fields => some fields
  | _ => none

end Call

namespace Filter

/-- What a filter answers to a call. -/
def answer (filter : Filter) : Call → Answer
  | .parse _ => .done
  | .setDefaultFields _ => .done
  | @Call.test _ _ record => .verdict (filter.test record)
  | @Call.testTree _ _ tree record => .verdict (tree.holds record)
  | @Call.select _ _ records => .records (filter.select records)
  | .describe => .text filter.description

/-- What a filter is after a call. -/
def after (filter : Filter) : Call → Filter
  | .parse search => filter.parse search
  | .setDefaultFields fields => filter.setDefaultFields fields
  | @Call.test .. => filter
  | @Call.testTree .. => filter
  | @Call.select .. => filter
  | .describe => filter

/-- **What a filter is after some calls.** -/
def run (filter : Filter) (calls : List Call) : Filter :=
  calls.foldl after filter

/-- What a filter answers to some calls. -/
def answers (filter : Filter) : List Call → List Answer
  | [] => []
  | call :: calls => filter.answer call :: (filter.after call).answers calls

/-! ### What is in place -/

namespace IsCurrent

variable {filter : Filter}

/-- **One call** leaves a filter compiled: what replaces something compiles it again, and the
rest changes nothing. -/
theorem after (h : filter.IsCurrent) (call : Call) : (filter.after call).IsCurrent := by
  cases call with
  | parse search => exact filter.isCurrent_parse search
  | setDefaultFields fields => exact filter.isCurrent_setDefaultFields fields
  | _ => exact h

/-- **Any calls** leave a filter compiled. -/
theorem run (h : filter.IsCurrent) (calls : List Call) : (filter.run calls).IsCurrent := by
  induction calls generalizing filter with
  | nil => exact h
  | cons call calls ih => exact ih (h.after call)

/-- The condition of a compiled filter is that of a fresh one. -/
theorem tree_eq (h : filter.IsCurrent) :
    filter.tree = (new filter.search filter.defaultFields filter.options).tree :=
  congrArg Compiled.tree h

/-- The groups of a compiled filter are those of its query. -/
theorem groups_eq (h : filter.IsCurrent) :
    filter.groups = (Query.groups filter.search).map
      (groupTree filter.defaultFields filter.options.caseSensitive) := by
  rw [Filter.groups, h.tree_eq]
  rfl

/-- A record matches if it satisfies one of the groups. -/
theorem test_eq_any {ρ : Type} [Record ρ] (h : filter.IsCurrent) (record : ρ) :
    filter.test record = filter.groups.any (Tree.holds record) := by
  have htree : filter.tree = .any filter.groups := by rw [h.groups_eq, h.tree_eq]; rfl
  rw [test, htree, Tree.holds_any]

/-- **A compiled filter selects what a search finds.** -/
theorem select_eq_search {ρ : Type} [Record ρ] (h : filter.IsCurrent) (records : List ρ) :
    filter.select records =
      Query.search filter.search filter.defaultFields filter.options records := by
  refine List.filter_congr fun record _ => ?_
  rw [test, h.tree_eq]
  rfl

end IsCurrent

/-! ### The last values -/

/-- The last value that some calls put in place, or else the one before them. -/
def lastOf {α : Type} (value? : Call → Option α) (first : α) (calls : List Call) : α :=
  (calls.filterMap value?).getLast?.getD first

section LastOf

variable {α : Type} (value? : Call → Option α) (first : α) (calls : List Call)

theorem lastOf_cons (call : Call) :
    lastOf value? first (call :: calls) = lastOf value? ((value? call).getD first) calls := by
  rw [lastOf, lastOf, List.filterMap_cons]
  cases value? call with
  | none => rfl
  | some value => rw [List.getLast?_cons, Option.getD_some, Option.getD_some]

theorem lastOf_append_singleton (call : Call) :
    lastOf value? first (calls ++ [call]) = (value? call).getD (lastOf value? first calls) := by
  induction calls generalizing first with
  | nil => rw [List.nil_append, lastOf_cons]; rfl
  | cons other calls ih => rw [List.cons_append, lastOf_cons, ih, lastOf_cons]

end LastOf

/-! ### Runs -/

variable (search : String) (fields : FieldList) (options : Options)

/-- **One call** leaves a fresh filter of a fresh filter. -/
theorem after_new (call : Call) :
    (new search fields options).after call =
      new (call.search?.getD search) (call.fields?.getD fields) options := by
  cases call <;> rfl

/-- **Any calls** leave the fresh filter of the last values. -/
theorem run_new (calls : List Call) :
    (new search fields options).run calls =
      new (lastOf Call.search? search calls) (lastOf Call.fields? fields calls) options := by
  induction calls generalizing search fields with
  | nil => rfl
  | cons call calls ih =>
    rw [run, List.foldl_cons, ← run, after_new, ih, lastOf_cons, lastOf_cons]

/-- **After any calls** the records that are selected are those that a search for the last
query with the last default fields finds. -/
theorem select_run_new {ρ : Type} [Record ρ] (calls : List Call) (records : List ρ) :
    ((new search fields options).run calls).select records =
      Query.search (lastOf Call.search? search calls) (lastOf Call.fields? fields calls) options
        records := by
  have hcurrent := (isCurrent_new search fields options).run calls
  rw [hcurrent.select_eq_search, run_new]
  rfl

theorem run_append (filter : Filter) (calls others : List Call) :
    filter.run (calls ++ others) = (filter.run calls).run others :=
  List.foldl_append

theorem answers_append (filter : Filter) (calls others : List Call) :
    filter.answers (calls ++ others) =
      filter.answers calls ++ (filter.run calls).answers others := by
  induction calls generalizing filter with
  | nil => rfl
  | cons call calls ih =>
    rw [List.cons_append, answers, answers, ih]
    rfl

/-- **A filter stays coherent.** After any calls it is, as a whole, the filter that the last
query and the last default fields give anew with its options, and the next answer is the
answer of that filter. So replacing the default fields keeps the query, a new query leaves
no warning of an earlier one, and the order of the two does not matter. -/
theorem run_coherent (calls : List Call) :
    (new search fields options).run calls =
        new (lastOf Call.search? search calls) (lastOf Call.fields? fields calls) options ∧
      (∀ call, (new search fields options).answers (calls ++ [call]) =
        (new search fields options).answers calls ++
          [(new (lastOf Call.search? search calls) (lastOf Call.fields? fields calls)
            options).answer call]) ∧
      (∀ others, ((new search fields options).run (calls ++ [.setDefaultFields others])).search =
        lastOf Call.search? search calls) ∧
      (∀ text, ((new search fields options).run (calls ++ [.parse text])).warnings =
        (compile text (lastOf Call.fields? fields calls) options.caseSensitive).warnings) ∧
      (∀ text others,
        (new search fields options).run (calls ++ [.parse text, .setDefaultFields others]) =
          (new search fields options).run (calls ++ [.setDefaultFields others, .parse text])) := by
  have hlast : ∀ call, (new search fields options).run (calls ++ [call]) =
      new (call.search?.getD (lastOf Call.search? search calls))
        (call.fields?.getD (lastOf Call.fields? fields calls)) options := by
    intro call
    rw [run_new, lastOf_append_singleton, lastOf_append_singleton]
  refine ⟨run_new search fields options calls, fun call => ?_, fun others => ?_, fun text => ?_,
    fun text others => ?_⟩
  · rw [answers_append, run_new]
    rfl
  · rw [hlast]
    rfl
  · rw [hlast]
    rfl
  · rw [run_append, run_append, run_new]
    rfl

end Filter

end RecordQuery.Query
