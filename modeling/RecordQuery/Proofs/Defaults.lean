import RecordQuery.Proofs.Descriptions
import RecordQuery.Proofs.Reports

/-!
# What the default fields and the case change

The default fields of a query are the fields of its phrases without a scope, and nothing
else depends on them: which groups and phrases there are, what their signs and patterns are
and what is warned about is read off the tokens alone
(`RecordQuery.Query.warnings_defaults`). Whether case counts is seen by the globs of the
leaves only, so that neither the description of a condition nor its JSON value shows it.

An explanation of a query has no records to take default fields from. It warns about the
same as a search for it does nevertheless
(`RecordQuery.Command.warningMessages_filterOf`), whatever is searched, and what it says is
laid out in full: the query, how it was understood, and a list of these warnings
(`RecordQuery.Report.Lists`).
-/

namespace RecordQuery

namespace Query

/-! ### Scopes -/

/-- **Whether a token has a scope**: behind at most one minus sign it starts with field
characters, at least one, and a colon. -/
def HasScope (token : String) : Prop :=
  ∃ negated names rest, IsScope (some names) ∧
    token.toList = signText negated ++ (names ++ ':' :: rest)

/-- A token has a scope exactly if one is read in it once its sign is taken off. -/
theorem hasScope_iff (token : String) :
    HasScope token ↔ (scope? (Phrase.splitSign token.toList).2).isSome = true := by
  constructor
  · rintro ⟨negated, names, rest, hscope, htoken⟩
    have hdivide := Parts.divide_scope negated hscope rest
    rw [htoken, hdivide.splitSign_eq, hdivide.scope?_eq]
    rfl
  · intro hfound
    obtain ⟨parts, hdivide⟩ := Parts.exists_divide token.toList
    rw [hdivide.splitSign_eq, hdivide.scope?_eq, Option.isSome_map] at hfound
    obtain ⟨names, hnames⟩ := Option.isSome_iff_exists.1 hfound
    refine ⟨parts.negated, names, parts.body, hnames ▸ hdivide.isScope, ?_⟩
    rw [← hdivide.text_eq, Parts.text, hnames]
    simp [scopeText]

/-- **The fields of a phrase**: those of its scope, or else the default fields. -/
theorem fields_parse (token : String) :
    (HasScope token → ∀ first second,
      (Phrase.parse token first).fields = (Phrase.parse token second).fields) ∧
      (¬ HasScope token → ∀ defaults, (Phrase.parse token defaults).fields = defaults) := by
  rw [hasScope_iff]
  simp only [Phrase.parse, Phrase.scopeFields]
  cases scope? (Phrase.splitSign token.toList).2 with
  | none => exact ⟨fun h => absurd h (by simp), fun _ _ => rfl⟩
  | some found => exact ⟨fun _ _ _ => rfl, fun h => absurd rfl h⟩

theorem parse_of_hasScope {token : String} (h : HasScope token) (first second : FieldList) :
    Phrase.parse token first = Phrase.parse token second :=
  congrArg (Phrase.mk · _ _) ((fields_parse token).1 h first second)

/-! ### Compiled queries -/

/-- **The condition of some groups of tokens**, given how each of them reads. -/
def Tree.ofPhrases (caseSensitive : Bool) (groups : List (List String))
    (phrase : String → Phrase) : Tree :=
  .any (groups.map fun group => .all (group.map fun token => (phrase token).tree caseSensitive))

theorem tree_compile (search : String) (defaults : FieldList) (caseSensitive : Bool) :
    (compile search defaults caseSensitive).tree =
      .ofPhrases caseSensitive (groups search) fun token => .parse token defaults := rfl

/-- Conditions of phrases agree if the phrases do. -/
theorem Tree.ofPhrases_congr {caseSensitive : Bool} {search : String}
    {phrase other : String → Phrase}
    (h : ∀ token ∈ tokenize search, token ≠ groupSeparator → phrase token = other token) :
    ofPhrases caseSensitive (groups search) phrase =
      ofPhrases caseSensitive (groups search) other := by
  refine congrArg Tree.any (List.map_congr_left fun group hgroup => ?_)
  refine congrArg Tree.all (List.map_congr_left fun token htoken => ?_)
  obtain ⟨hmem, hne⟩ := mem_groups hgroup htoken
  rw [h token hmem hne]

/-- A refusal is about the pattern. -/
theorem Phrase.refusal_congr {phrase other : Phrase} (h : phrase.pattern = other.pattern)
    (caseSensitive : Bool) : phrase.refusal caseSensitive = other.refusal caseSensitive := by
  rw [refusal, refusal, h]

/-- **Warnings do not depend on the default fields.** -/
theorem warnings_defaults (search : String) (first second : FieldList) (caseSensitive : Bool) :
    (compile search first caseSensitive).warnings =
      (compile search second caseSensitive).warnings := by
  have htoken : tokenWarnings first caseSensitive = tokenWarnings second caseSensitive := by
    funext token
    have hpattern : (Phrase.parse token first).pattern = (Phrase.parse token second).pattern := rfl
    rw [tokenWarnings, tokenWarnings, Phrase.refusal_congr hpattern]
  rw [warnings_compile, warnings_compile, warningsFrom, warningsFrom]
  simp only [groupWarnings, htoken]

/-- A filter with other default fields has the same warnings. -/
theorem warnings_setDefaultFields (search : String) (first second : FieldList)
    (options : Options) :
    ((Filter.new search first options).setDefaultFields second).warnings =
      (Filter.new search first options).warnings :=
  warnings_defaults search second first options.caseSensitive

/-- With a scope in every phrase it has the same condition as well. -/
theorem tree_setDefaultFields {search : String}
    (h : ∀ token ∈ tokenize search, token ≠ groupSeparator → HasScope token)
    (first second : FieldList) (options : Options) :
    ((Filter.new search first options).setDefaultFields second).tree =
      (Filter.new search first options).tree :=
  Tree.ofPhrases_congr fun token htoken hne => parse_of_hasScope (h token htoken hne) second first

/-- Without a pattern that is refused, they do not depend on the case either. -/
theorem warnings_case {search : String} {defaults : FieldList} {one other : Bool}
    (h : ∀ token ∈ tokenize search, token ≠ groupSeparator →
      (∃ glob, Glob.compile? (Phrase.parse token defaults).pattern one = .ok glob) ∧
        ∃ glob, Glob.compile? (Phrase.parse token defaults).pattern other = .ok glob) :
    (compile search defaults one).warnings = (compile search defaults other).warnings := by
  have hrefusal : ∀ {phrase : Phrase} {caseSensitive : Bool},
      (∃ glob, Glob.compile? phrase.pattern caseSensitive = .ok glob) →
        phrase.refusal caseSensitive = [] := by
    rintro phrase caseSensitive ⟨glob, hglob⟩
    rw [Phrase.refusal, hglob]
  have hgroup : ∀ group ∈ groups search, ∀ index,
      groupWarnings defaults one group index = groupWarnings defaults other group index := by
    intro group hgroup index
    rw [groupWarnings, groupWarnings]
    split
    · rfl
    · refine List.flatMap_congr fun token htoken => ?_
      obtain ⟨hmem, hne⟩ := mem_groups hgroup htoken
      obtain ⟨hone, hother⟩ := h token hmem hne
      rw [tokenWarnings, tokenWarnings, hrefusal hone, hrefusal hother]
  refine List.flatMap_congr fun place hplace => ?_
  exact hgroup place.1 (List.fst_mem_of_mem_zipIdx hplace) place.2

/-! ### What does not show the case -/

section Case

variable (one other : Bool)

theorem bare_phrase (phrase : Phrase) : (phrase.tree one).bare = (phrase.tree other).bare := by
  rw [Phrase.tree, Phrase.tree, Phrase.leaf_eq, Phrase.leaf_eq]
  split <;> rfl

/-- Only the compiled globs of phrases differ with the case. -/
theorem bare_ofPhrases (groups : List (List String)) (phrase : String → Phrase) :
    (Tree.ofPhrases one groups phrase).bare = (Tree.ofPhrases other groups phrase).bare := by
  have hgroup : ∀ group : List String,
      (Tree.all (group.map fun token => (phrase token).tree one)).bare =
        (Tree.all (group.map fun token => (phrase token).tree other)).bare := by
    intro group
    rw [Tree.bare, Tree.bare, Tree.bareEach_eq_map, Tree.bareEach_eq_map, List.map_map,
      List.map_map]
    exact congrArg Tree.all
      (List.map_congr_left fun token _ => bare_phrase one other (phrase token))
  rw [Tree.ofPhrases, Tree.ofPhrases, Tree.bare, Tree.bare, Tree.bareEach_eq_map,
    Tree.bareEach_eq_map, List.map_map, List.map_map]
  exact congrArg Tree.any (List.map_congr_left fun group _ => hgroup group)

theorem description_ofPhrases (groups : List (List String)) (phrase : String → Phrase) :
    (Tree.ofPhrases one groups phrase).description =
      (Tree.ofPhrases other groups phrase).description := by
  rw [Tree.description, Tree.description, ← Tree.describe_bare, bare_ofPhrases one other,
    Tree.describe_bare]

theorem toJson_ofPhrases (groups : List (List String)) (phrase : String → Phrase) :
    (Tree.ofPhrases one groups phrase).toJson = (Tree.ofPhrases other groups phrase).toJson := by
  rw [← Tree.toJson_bare, bare_ofPhrases one other, Tree.toJson_bare]

end Case

end Query

/-! ### The JSON value of a condition -/

namespace Json

open RecordQuery.Query (Leaf Phrase Tree compile)

theorem itemsDepth_le {items : List Value} {most : Nat} (h : ∀ item ∈ items, item.depth ≤ most) :
    itemsDepth items ≤ most := by
  induction items with
  | nil => exact Nat.zero_le _
  | cons item items ih =>
    obtain ⟨hfirst, hrest⟩ := List.forall_mem_cons.1 h
    exact Nat.max_le.2 ⟨hfirst, ih hrest⟩

/-- An operator is one deeper than its arguments. -/
theorem depth_operation_le {arguments : Value} {most : Nat} (name : String)
    (h : arguments.depth ≤ most) : (Tree.operation name arguments).depth ≤ most + 1 :=
  depth_ofEntries_le (List.forall_mem_cons.2 ⟨Nat.zero_le _, List.forall_mem_singleton.2 h⟩)

theorem toJsonEach_eq_map (children : List Tree) :
    Tree.toJsonEach children = children.map Tree.toJson := by
  induction children with
  | nil => rfl
  | cons child children ih => rw [Tree.toJsonEach, ih, List.map_cons]

/-- Several conditions under an operator are two deeper than the deepest of them. -/
theorem depth_toJsonEach_le {children : List Tree} {most : Nat} (name : String)
    (h : ∀ child ∈ children, child.toJson.depth ≤ most) :
    (Tree.operation name (.array (Tree.toJsonEach children))).depth ≤ most + 2 := by
  refine depth_operation_le name (Nat.succ_le_succ (itemsDepth_le fun item hitem => ?_))
  rw [toJsonEach_eq_map] at hitem
  obtain ⟨child, hchild, rfl⟩ := List.mem_map.1 hitem
  exact h child hchild

/-- **The JSON value of a compiled query is shallow**, because a condition of a group is at most
the negation of a test. -/
theorem depth_compile_le (search : String) (defaults : Query.FieldList) (caseSensitive : Bool) :
    (compile search defaults caseSensitive).tree.toJson.depth ≤ 8 := by
  -- two levels for the groups and two for each group, around a phrase
  have hleaf : ∀ leaf : Leaf, (Tree.test leaf).toJson.depth ≤ 3 := by
    intro leaf
    refine depth_operation_le "MATCH" (depth_ofEntries_le (List.forall_mem_cons.2
      ⟨?_, List.forall_mem_singleton.2 (Nat.zero_le _)⟩))
    exact Nat.le_of_eq (Report.depth_namesJson leaf.fields.names)
  have hphrase : ∀ phrase : Phrase, (phrase.tree caseSensitive).toJson.depth ≤ 4 := by
    intro phrase
    rw [Phrase.tree]
    split
    · exact depth_operation_le "NOT" (hleaf _)
    · exact Nat.le_succ_of_le (hleaf _)
  refine depth_toJsonEach_le "OR" fun group hgroup => ?_
  obtain ⟨tokens, -, rfl⟩ := List.mem_map.1 hgroup
  refine depth_toJsonEach_le "AND" fun child hchild => ?_
  obtain ⟨token, -, rfl⟩ := List.mem_map.1 hchild
  exact hphrase _

section Proper

variable {valid : Number → Prop}

theorem proper_operation (name : String) {arguments : Value} (h : arguments.Proper valid) :
    (Tree.operation name arguments).Proper valid :=
  .ofEntries (List.forall_mem_cons.2 ⟨.string name, List.forall_mem_singleton.2 h⟩)

mutual

/-- **The JSON value of a condition is proper**: it has no numbers. -/
theorem proper_toJson (tree : Tree) : tree.toJson.Proper valid := by
  match tree with
  | .all children => exact proper_operation "AND" (.array (proper_toJsonEach children))
  | .any children => exact proper_operation "OR" (.array (proper_toJsonEach children))
  | .negate child => exact proper_operation "NOT" (proper_toJson child)
  | .test leaf =>
    exact proper_operation "MATCH" (.ofEntries (List.forall_mem_cons.2
      ⟨Report.proper_namesJson leaf.fields.names, List.forall_mem_singleton.2 (.string _)⟩))

theorem proper_toJsonEach (children : List Tree) :
    ∀ item ∈ Tree.toJsonEach children, item.Proper valid := by
  match children with
  | [] => exact fun item hitem => absurd hitem List.not_mem_nil
  | child :: children =>
    exact List.forall_mem_cons.2 ⟨proper_toJson child, proper_toJsonEach children⟩

end

end Proper

end Json

/-! ### What an explanation says -/

namespace Report

open RecordQuery.Command (Format)
open RecordQuery.Json (Number Value)
open RecordQuery.Query (Filter)

/-- A title, in bold if colors are on. -/
def title (color : Bool) (text : String) : String :=
  if color then "\x1b[1m" ++ text ++ "\x1b[0m" else text

/-- What an explanation for people says first: the query, and how it was understood. -/
def heading (color : Bool) (search : String) (caseSensitive : Bool) (description : String) :
    String :=
  title color "QUERY" ++ "\n" ++ search ++ "\n\n" ++ title color "COMPILED" ++
    (if caseSensitive then " (case-sensitive)\n" else " (case-insensitive)\n") ++
    description ++ "\n"

/-- A list of warnings under its title, nothing if there is none. -/
def listing (color : Bool) (messages : List String) : String :=
  if messages = [] then ""
  else "\n" ++ title color "WARNINGS" ++ "\n" ++
    String.join (messages.map fun message => "- " ++ message ++ "\n")

/-- **An explanation that lists warnings**, of a query that was understood as described: a list
of them behind the heading, or an array of them under a key of its own. -/
def Lists (color : Bool) (search : String) (caseSensitive : Bool) (description : String)
    (messages : List String) (report : String) : Format → Prop
  | .text => report = heading color search caseSensitive description ++ listing color messages
  | .json => ∃ entries : Json.Entries,
      Json.read report = .ok (.object [("explain", .object entries)]) ∧
        Json.field? entries "query" = some (.string search) ∧
        Json.field? entries "case_sensitive" = some (.bool caseSensitive) ∧
        Json.field? entries "description" = some (.string description) ∧
        Json.field? entries "warnings" = some (.array (messages.map .string))

/-- A warning on the error output, its title in bold yellow if colors are on. -/
def warningLine (color : Bool) (message : String) : String :=
  (if color then "\x1b[1;33mWarning:\x1b[0m" else "Warning:") ++ " " ++ message ++ "\n"

theorem warningLines_eq (color : Bool) (filter : Filter) :
    warningLines color filter = String.join ((warningMessages filter).map (warningLine color)) := by
  rw [warningLines]
  refine congrArg String.join (List.map_congr_left fun message _ => ?_)
  cases color <;> rfl

theorem lists_explainText (color : Bool) (filter : Filter) :
    Lists color filter.search filter.options.caseSensitive filter.description
      (warningMessages filter) (explainText color filter) .text := by
  have hlisting : listing color (warningMessages filter) =
      if (warningMessages filter).isEmpty then ""
      else "\n" ++ bold color "WARNINGS" ++ "\n" ++
        String.join ((warningMessages filter).map fun message => "- " ++ message ++ "\n") := by
    rw [listing]
    cases warningMessages filter <;> rfl
  have hmode : (if filter.options.caseSensitive then " (case-sensitive)\n"
      else " (case-insensitive)\n") =
        " (" ++ (if filter.options.caseSensitive then "case-sensitive" else "case-insensitive") ++
          ")\n" := by
    split <;> rfl
  rw [Lists, hlisting, heading, hmode, explainText]
  simp only [String.append_assoc]
  rfl

/-- The entries of a JSON explanation. -/
def explainEntries (filter : Filter) : Json.Entries :=
  [("query", .string filter.search),
    ("default_fields", namesJson filter.defaultFields.names),
    ("case_sensitive", .bool filter.options.caseSensitive),
    ("expr", filter.tree.toJson),
    ("description", .string filter.description),
    ("warnings", namesJson (warningMessages filter))]

theorem lists_explainJson (color : Bool) {filter : Filter} (hcurrent : filter.IsCurrent) :
    Lists color filter.search filter.options.caseSensitive filter.description
      (warningMessages filter) (explainJson filter) .json := by
  have hproper : ∀ e ∈ explainEntries filter, e.2.Proper Number.FitsInteger := by
    simp only [explainEntries, List.forall_mem_cons, List.not_mem_nil, false_implies, implies_true,
      and_true]
    exact ⟨.string _, proper_namesJson _, .bool _, Json.proper_toJson _, .string _,
      proper_namesJson _⟩
  have htree : filter.tree.toJson.depth ≤ 8 := by
    rw [Filter.tree, hcurrent]
    exact Json.depth_compile_le _ _ _
  have hdepth : ∀ e ∈ explainEntries filter, e.2.depth ≤ 125 := by
    simp only [explainEntries, List.forall_mem_cons, List.not_mem_nil, false_implies, implies_true,
      and_true, depth_namesJson, Value.depth]
    omega
  refine ⟨_, read_titled "explain" hproper hdepth, ?_⟩
  simp only [Json.field?_entriesOf]
  exact ⟨rfl, rfl, rfl, rfl⟩

end Report

namespace Command

open RecordQuery.Json (Entries)
open RecordQuery.Query (FieldList Filter HasScope Options Phrase compile groups groupSeparator
  tokenize)

/-- The filter that an explain command explains. -/
def explainFilter (config : Config) (request : ExplainRequest) : Filter :=
  .new request.query (effectiveFields config request.fields .empty)
    (effectiveOptions config request.caseSensitive)

/-- A search and an explanation of a query warn about the same. -/
theorem warningMessages_filterOf (config : Config) {request : FilterRequest}
    {explain : ExplainRequest} (hquery : request.query = explain.query)
    (hcase : request.caseSensitive = explain.caseSensitive) (records : List Entries) :
    Report.warningMessages (filterOf config request records) =
      Report.warningMessages (explainFilter config explain) := by
  rw [filterOf, explainFilter, hquery, hcase]
  exact congrArg (List.map Query.Warning.message) (Query.warnings_defaults _ _ _ _)

/-- An explanation lists the warnings of its filter. -/
theorem lists_explainReport (config : Config) (color : Bool) (invocation : Invocation)
    (request : ExplainRequest) :
    Report.Lists color request.query (effectiveOptions config request.caseSensitive).caseSensitive
      (explainFilter config request).description
      (Report.warningMessages (explainFilter config request))
      (explainReport config color invocation request) invocation.format := by
  rw [explainReport]
  cases invocation.format with
  | text => exact Report.lists_explainText color (explainFilter config request)
  | json =>
    exact Report.lists_explainJson color (Query.Filter.isCurrent_new _ _ _)

section Runs

variable {σ : Type} [Storage σ] {files : σ} {input : Except Files.Fault String}
  {invocation : Invocation} {config : Config} {request : FilterRequest}
  (hconfig : loadConfig (Storage.read files) invocation = .ok config)
include hconfig

/-- A search prints the warnings of its filter, one a line. -/
theorem errorOutput_search {records : List Entries}
    (hrecords : gather (loads (Storage.read files) input request.sources) = .ok records)
    (colored : Bool) :
    (run files input
      { invocation with quiet := false, request := .filter request } colored).errorOutput =
      String.join ((Report.warningMessages (filterOf config request records)).map
        (Report.warningLine (invocation.color.isOn colored))) := by
  let searching : Invocation := { invocation with quiet := false, request := .filter request }
  have hloaded : loadConfig (Storage.read files) searching = .ok config := hconfig
  have hreport := run_of_ok
    (result_of_filter hloaded (searching.color.isOn colored) rfl hrecords)
  rw [hreport.errorOutput_eq, ← Report.warningLines_eq]
  rfl

/-- An explanation prints its report. -/
theorem output_explain (explain : ExplainRequest) (colored : Bool) :
    (run files input { invocation with request := .explain explain } colored).output =
      printed (explainReport config (invocation.color.isOn colored) invocation explain) := by
  let explaining : Invocation := { invocation with request := .explain explain }
  have hloaded : loadConfig (Storage.read files) explaining = .ok config := hconfig
  have hresult : (answer (Storage.read files) input (explaining.color.isOn colored)
      explaining).result =
        .ok (explainReply config (explaining.color.isOn colored) explaining explain) :=
    result_of_explain hloaded _ rfl
  exact (run_of_ok hresult).output_eq

end Runs

/-- A search in which every phrase has a scope, one of them with a bar between its quotation
marks. -/
def scopedSearch : String := "a:x | -b:\"y | z\""

/-- A working directory with one file of records. -/
def oneFile : Files :=
  Files.empty.put ["p"] "\x7b\"k\":1\x7d"

end Command

end RecordQuery
