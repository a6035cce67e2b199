import RecordQuery.Query.Compile

/-!
# Filters

A filter is a query with its default fields and options, compiled once and then
tested against records. Its query and its default fields can be replaced; the query
is compiled again each time, so that the compiled query is always that of what is in
place (`RecordQuery.Query.Filter.isCurrent_parse`,
`RecordQuery.Query.Filter.isCurrent_setDefaultFields`).
-/

namespace RecordQuery.Query

/-- How a query is matched. -/
structure Options where
  /-- Whether case counts. -/
  caseSensitive : Bool
deriving DecidableEq

/-- A query with its default fields and options, compiled. -/
structure Filter where
  /-- The query. -/
  search : String
  /-- The fields of phrases without a scope. -/
  defaultFields : FieldList
  /-- How the query is matched. -/
  options : Options
  /-- The compiled query. -/
  compiled : Compiled

namespace Filter

/-- Replaces the query. -/
def parse (filter : Filter) (search : String) : Filter :=
  { filter with
    search := search
    compiled := compile search filter.defaultFields filter.options.caseSensitive }

/-- Replaces the default fields. The query is taken out of the filter and put back
with them. -/
def setDefaultFields (filter : Filter) (defaultFields : FieldList) : Filter :=
  { filter with search := "", defaultFields := defaultFields }.parse filter.search

/-- A filter without a query yet: nothing matches. -/
def blank (defaultFields : FieldList) (options : Options) : Filter :=
  ⟨"", defaultFields, options, ⟨.any [], []⟩⟩

/-- **The filter of a query.** -/
def new (search : String) (defaultFields : FieldList) (options : Options) : Filter :=
  (blank defaultFields options).parse search

/-- Whether the compiled query is that of the query and the default fields in
place. -/
def IsCurrent (filter : Filter) : Prop :=
  filter.compiled = compile filter.search filter.defaultFields filter.options.caseSensitive

theorem isCurrent_new (search : String) (defaultFields : FieldList) (options : Options) :
    (new search defaultFields options).IsCurrent := rfl

theorem isCurrent_parse (filter : Filter) (search : String) : (filter.parse search).IsCurrent :=
  rfl

theorem isCurrent_setDefaultFields (filter : Filter) (defaultFields : FieldList) :
    (filter.setDefaultFields defaultFields).IsCurrent := rfl

/-- The condition of a filter. -/
def tree (filter : Filter) : Tree :=
  filter.compiled.tree

theorem tree_new (search : String) (defaultFields : FieldList) (options : Options) :
    (new search defaultFields options).tree =
      (compile search defaultFields options.caseSensitive).tree := rfl

/-- The places at which the compiler was lenient. -/
def warnings (filter : Filter) : List Warning :=
  filter.compiled.warnings

/-- The description of the condition. -/
def description (filter : Filter) : String :=
  filter.tree.description

/-- **Whether a record matches.** -/
def test {ρ : Type} [Record ρ] (filter : Filter) (record : ρ) : Bool :=
  filter.tree.holds record

/-- **The records that match**, in their order. -/
def select {ρ : Type} [Record ρ] (filter : Filter) (records : List ρ) : List ρ :=
  records.filter filter.test

/-- The children of the condition: its groups. -/
def groups (filter : Filter) : List Tree :=
  match filter.tree with
  | .any groups => groups
  | _ => []

end Filter

/-- The records that match a query. -/
def search {ρ : Type} [Record ρ] (query : String) (defaultFields : FieldList) (options : Options)
    (records : List ρ) : List ρ :=
  (Filter.new query defaultFields options).select records

end RecordQuery.Query
