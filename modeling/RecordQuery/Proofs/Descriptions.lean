import RecordQuery.Proofs.Image
import RecordQuery.Proofs.Views

/-!
# What a description determines

A description is written from the leaves up. The lines of the conditions in a conjunction or
a disjunction are put one behind the other and the whole is indented, so that a line feed in
a pattern is moved once for every condition around its leaf, like those that the layout puts
there itself. A pattern may look like a piece of a description, and yet no two conditions are
described alike (`RecordQuery.Query.Tree.bare_eq_of_describe`).

The idea is to read from the outside in. Indenting a text is putting two spaces in front of it
and behind each of its line feeds, and the spaces of several indentations add up
(`RecordQuery.Query.Tree.shift_shift`). So wherever a condition stands, it is described by the
same text with a **margin** behind its line feeds, which depends on the conditions around it
only. With its margin known, a description says where it ends: a leaf at its fourth quotation
mark, and everything else where its last part does and nothing follows. So if two descriptions
with some texts behind them are the same, then the conditions are and the texts behind them are
(`RecordQuery.Query.Tree.eq_of_shift_describe`); that is the statement which an induction on
conditions can prove.

What a description leaves out are the compiled globs of the leaves. What it keeps is all that
the JSON value of a condition has.
-/

namespace RecordQuery

namespace Query

open RecordQuery.Json (Value)

/-! ### Without the compiled globs -/

/-- The leaf without its compiled glob. -/
def Leaf.bare (leaf : Leaf) : Leaf :=
  ⟨leaf.fields, leaf.pattern, none⟩

namespace Tree

mutual

/-- **A condition without its compiled globs**: its shape, and the fields and the patterns of
its leaves. -/
def bare : Tree → Tree
  | .all children => .all (bareEach children)
  | .any children => .any (bareEach children)
  | .negate child => .negate (bare child)
  | .test leaf => .test leaf.bare

/-- Each of some conditions without its compiled globs. -/
def bareEach : List Tree → List Tree
  | [] => []
  | child :: children => bare child :: bareEach children

end

theorem bareEach_eq_map (children : List Tree) : bareEach children = children.map bare := by
  induction children with
  | nil => rfl
  | cons child children ih => rw [bareEach, ih, List.map_cons]

mutual

/-- The compiled globs are not described. -/
theorem describe_bare (tree : Tree) : tree.bare.describe = tree.describe := by
  cases tree with
  | all children => rw [bare, describe_all, describe_all, describeEach_bareEach]
  | any children => rw [bare, describe_any, describe_any, describeEach_bareEach]
  | negate child => rw [bare, describe_negate, describe_negate, describe_bare]
  | test leaf => rfl

theorem describeEach_bareEach (children : List Tree) :
    describeEach (bareEach children) = describeEach children := by
  cases children with
  | nil => rfl
  | cons child children =>
    rw [bareEach, describeEach, describeEach, describe_bare, describeEach_bareEach]

end

mutual

/-- The compiled globs have no part in the JSON value. -/
theorem toJson_bare (tree : Tree) : tree.bare.toJson = tree.toJson := by
  cases tree with
  | all children => rw [bare, toJson, toJson, toJsonEach_bareEach]
  | any children => rw [bare, toJson, toJson, toJsonEach_bareEach]
  | negate child => rw [bare, toJson, toJson, toJson_bare]
  | test leaf => rfl

theorem toJsonEach_bareEach (children : List Tree) :
    toJsonEach (bareEach children) = toJsonEach children := by
  cases children with
  | nil => rfl
  | cons child children =>
    rw [bareEach, toJsonEach, toJsonEach, toJson_bare, toJsonEach_bareEach]

end

/-! ### Margins -/

/-- A character with a margin behind it if it is a line feed. -/
def shiftChar (margin : Nat) (c : Char) : List Char :=
  if c = '\n' then '\n' :: List.replicate margin ' ' else [c]

/-- **A text with a margin**: that many spaces behind each of its line feeds. -/
def shift (margin : Nat) (text : List Char) : List Char :=
  text.flatMap (shiftChar margin)

section Shift

variable (margin : Nat)

@[simp] theorem shift_nil : shift margin [] = [] := rfl

theorem shift_newline (text : List Char) :
    shift margin ('\n' :: text) = '\n' :: (List.replicate margin ' ' ++ shift margin text) := rfl

theorem shift_cons {c : Char} (h : c ≠ '\n') (text : List Char) :
    shift margin (c :: text) = c :: shift margin text := by
  rw [shift, List.flatMap_cons, shiftChar, if_neg h]
  rfl

theorem shift_append (text other : List Char) :
    shift margin (text ++ other) = shift margin text ++ shift margin other :=
  List.flatMap_append

/-- A text on one line has no place for a margin. -/
theorem shift_of_notMem {text : List Char} (h : '\n' ∉ text) : shift margin text = text := by
  induction text with
  | nil => rfl
  | cons c text ih =>
    obtain ⟨hc, htext⟩ := List.ne_and_not_mem_of_not_mem_cons h
    rw [shift_cons margin hc.symm, ih htext]

theorem shift_replicate (count : Nat) :
    shift margin (List.replicate count ' ') = List.replicate count ' ' := by
  refine shift_of_notMem margin fun h => ?_
  exact absurd (List.eq_of_mem_replicate h) (by decide)

/-- **Margins add up.** -/
theorem shift_shift (other : Nat) (text : List Char) :
    shift margin (shift other text) = shift (margin + other) text := by
  induction text with
  | nil => rfl
  | cons c text ih =>
    by_cases hc : c = '\n'
    · subst hc
      rw [shift_newline, shift_newline, shift_append, ih, shift_replicate, shift_newline,
        List.replicate_add, List.append_assoc]
    · rw [shift_cons other hc, shift_cons margin hc, ih, shift_cons _ hc]

/-- Only spaces are put into a text. -/
theorem notMem_shift {text : List Char} {c : Char} (hspace : c ≠ ' ') (h : c ∉ text) :
    c ∉ shift margin text := by
  intro hc
  obtain ⟨d, hd, hc⟩ := List.mem_flatMap.1 hc
  rw [shiftChar] at hc
  split at hc
  · next hline =>
    rcases List.mem_cons.1 hc with rfl | hc
    · exact h (hline ▸ hd)
    · exact hspace (List.eq_of_mem_replicate hc)
  · obtain rfl := List.mem_singleton.1 hc
    exact h hd

/-- The first character stays where it is. -/
theorem head?_shift (text : List Char) : (shift margin text).head? = text.head? := by
  cases text with
  | nil => rfl
  | cons c text =>
    by_cases hc : c = '\n'
    · rw [hc, shift_newline, List.head?_cons, List.head?_cons]
    · rw [shift_cons margin hc, List.head?_cons, List.head?_cons]

/-- **A text can be told from what it is with a margin.** -/
theorem shift_injective : Function.Injective (shift margin) := by
  intro text other h
  have hhead : text.head? = other.head? := by
    rw [← head?_shift margin text, h, head?_shift]
  induction text generalizing other with
  | nil => exact (List.head?_eq_none_iff.1 hhead.symm).symm
  | cons c text ih =>
    obtain ⟨other, rfl⟩ := List.head?_eq_some_iff.1 hhead.symm
    rw [shift, shift, List.flatMap_cons, List.flatMap_cons] at h
    have hrest := List.append_cancel_left h
    rw [ih hrest (by rw [← head?_shift margin text, shift, hrest, ← shift, head?_shift])]

end Shift

/-- **Indenting** is putting two spaces in front and a margin of two. -/
theorem indent_eq (text : List Char) : indent text = ' ' :: ' ' :: shift 2 text := by
  induction text with
  | nil => rfl
  | cons c text ih =>
    obtain ⟨first, rest, hpieces⟩ :=
      List.exists_cons_of_ne_nil (Text.pieces_ne_nil (· == '\n') text)
    rw [indent, hpieces, List.map_cons, Text.join_cons_eq] at ih
    rw [indent, Text.pieces_cons, hpieces]
    by_cases hc : c = '\n'
    · subst hc
      rw [if_pos (beq_self_eq_true '\n'), List.map_cons, List.map_cons, Text.join_cons_cons,
        Text.join_cons_eq, ih]
      rfl
    · rw [if_neg (by simpa using hc), Text.consPiece, List.map_cons, Text.join_cons_eq,
        shift_cons 2 hc]
      simpa using ih

/-! ### Descriptions with a margin -/

/-- The text behind the first of some conditions that are described. -/
def describeOthers (children : List Tree) : List Char :=
  children.flatMap fun child => ',' :: '\n' :: describe child

theorem join_describeEach (child : Tree) (children : List Tree) :
    Text.join [',', '\n'] (describeEach (child :: children)) =
      describe child ++ describeOthers children := by
  rw [describeEach, Text.join_cons_eq, describeEach_eq_map, List.flatMap_map]
  rfl

section Margin

variable (margin : Nat)

/-- What stands in front of the first condition in a conjunction or a disjunction. -/
def opening (name : String) : List Char :=
  name.toList ++ '(' :: '\n' :: (List.replicate margin ' ' ++ [' ', ' '])

/-- What stands between two of them. -/
def between : List Char :=
  ',' :: '\n' :: List.replicate margin ' '

theorem shift_enclose {name : String} (h : '\n' ∉ name.toList) (texts : List (List Char)) :
    shift margin (enclose name texts) =
      opening margin name ++
        (shift (margin + 2) (Text.join [',', '\n'] texts) ++ [' ', ')']) := by
  have hclose : shift margin [' ', ')'] = [' ', ')'] := shift_of_notMem margin (by decide)
  rw [enclose, indent_eq, shift_append, shift_append, shift_append, shift_of_notMem margin h,
    shift_cons margin (by decide), shift_newline, shift_cons margin (by decide),
    shift_cons margin (by decide), shift_shift, shift_nil, hclose]
  simp [opening]

theorem shift_negate (child : Tree) :
    shift margin (describe (.negate child)) =
      "NOT( ".toList ++ (shift margin (describe child) ++ [' ', ')']) := by
  have hopen : shift margin "NOT( ".toList = "NOT( ".toList := shift_of_notMem margin (by decide)
  have hclose : shift margin [' ', ')'] = [' ', ')'] := shift_of_notMem margin (by decide)
  rw [describe_negate, shift_append, shift_append, hopen, hclose, List.append_assoc]

theorem shift_describeOthers_cons (child : Tree) (children : List Tree) :
    shift margin (describeOthers (child :: children)) =
      between margin ++
        (shift margin (describe child) ++ shift margin (describeOthers children)) := by
  rw [describeOthers, List.flatMap_cons, shift_append, shift_cons margin (by decide),
    shift_newline]
  simp [describeOthers, between]

/-- The first letter of a description, which tells the form of the condition. -/
def initial : Tree → Char
  | .all _ => 'A'
  | .any _ => 'O'
  | .negate _ => 'N'
  | .test _ => 'M'

theorem initial_ne_space (tree : Tree) : tree.initial ≠ ' ' := by
  cases tree <;> simp [initial]

end Margin

end Tree

/-! ### Leaves -/

/-- Whether the text of some fields tells which they are: there is one, and no name has a
quotation mark or a bar. -/
def FieldList.IsClear (fields : FieldList) : Prop :=
  fields.names ≠ [] ∧ ∀ name ∈ fields.names, '"' ∉ name.toList ∧ '|' ∉ name.toList

/-- Whether the description of a leaf tells its fields and its pattern. -/
def Leaf.IsClear (leaf : Leaf) : Prop :=
  leaf.fields.IsClear ∧ '"' ∉ leaf.pattern.toList

/-- Names are what is left between the bars of their text. -/
theorem FieldList.IsClear.pieces_text {fields : FieldList} (h : fields.IsClear) :
    Text.pieces (· == '|') fields.text.toList = fields.names.map String.toList := by
  have huncut : ∀ piece ∈ fields.names.map String.toList, ∀ c ∈ piece, (c == '|') = false := by
    intro piece hpiece c hc
    obtain ⟨name, hname, rfl⟩ := List.mem_map.1 hpiece
    exact beq_false_of_ne (ne_of_mem_of_not_mem hc (h.2 name hname).2)
  rw [toList_text]
  exact pieces_join rfl (mt List.map_eq_nil_iff.1 h.1) huncut

/-- **Fields are known by their text.** -/
theorem FieldList.IsClear.eq_of_text {fields others : FieldList} (h : fields.IsClear)
    (hothers : others.IsClear) (htext : fields.text = others.text) : fields = others := by
  have hnames : fields.names.map String.toList = others.names.map String.toList := by
    rw [← h.pieces_text, htext, hothers.pieces_text]
  have hinj : Function.Injective String.toList := fun _ _ => String.toList_inj.1
  obtain ⟨names⟩ := fields
  obtain ⟨otherNames⟩ := others
  exact congrArg FieldList.mk (List.map_injective_iff.2 hinj hnames)

theorem FieldList.IsClear.quote_notMem_text {fields : FieldList} (h : fields.IsClear) :
    '"' ∉ fields.text.toList := by
  intro hquote
  rw [toList_text] at hquote
  rcases Text.mem_join hquote with hbar | ⟨piece, hpiece, hmem⟩
  · exact absurd hbar (by simp)
  · obtain ⟨name, hname, rfl⟩ := List.mem_map.1 hpiece
    exact (h.2 name hname).1 hmem

theorem Leaf.toList_description (leaf : Leaf) :
    leaf.description.toList = "MATCH(\"".toList ++ (leaf.fields.text.toList ++
      '"' :: (", \"".toList ++ (leaf.pattern.toList ++ ['"', ')']))) := by
  simp [description]

theorem Leaf.shift_description (leaf : Leaf) (margin : Nat) :
    Tree.shift margin leaf.description.toList =
      "MATCH(\"".toList ++ (Tree.shift margin leaf.fields.text.toList ++
        '"' :: (", \"".toList ++ (Tree.shift margin leaf.pattern.toList ++ ['"', ')']))) := by
  have hopen : Tree.shift margin "MATCH(\"".toList = "MATCH(\"".toList :=
    Tree.shift_of_notMem margin (by decide)
  have hbetween : Tree.shift margin ", \"".toList = ", \"".toList :=
    Tree.shift_of_notMem margin (by decide)
  have hclose : Tree.shift margin ['"', ')'] = ['"', ')'] :=
    Tree.shift_of_notMem margin (by decide)
  rw [toList_description, Tree.shift_append, Tree.shift_append, Tree.shift_cons margin (by decide),
    Tree.shift_append, Tree.shift_append, hopen, hbetween, hclose]

/-- **A description of a leaf ends at its fourth quotation mark**, and tells the fields and the
pattern. -/
theorem Leaf.eq_of_shift_description {leaf other : Leaf} (h : leaf.IsClear)
    (hother : other.IsClear) {margin : Nat} {rest behind : List Char}
    (heq : Tree.shift margin leaf.description.toList ++ rest =
      Tree.shift margin other.description.toList ++ behind) :
    leaf.bare = other.bare ∧ rest = behind := by
  have hquote : '"' ≠ ' ' := by decide
  rw [shift_description, shift_description] at heq
  simp only [List.append_assoc, List.cons_append] at heq
  obtain ⟨hfields, htail⟩ := append_cons_inj (Tree.notMem_shift margin hquote h.1.quote_notMem_text)
    (Tree.notMem_shift margin hquote hother.1.quote_notMem_text) (List.append_cancel_left heq)
  obtain ⟨hpattern, hrest⟩ := append_cons_inj (Tree.notMem_shift margin hquote h.2)
    (Tree.notMem_shift margin hquote hother.2) (List.append_cancel_left htail)
  have hnames : leaf.fields = other.fields :=
    h.1.eq_of_text hother.1 (String.toList_inj.1 (Tree.shift_injective margin hfields))
  have htext : leaf.pattern = other.pattern :=
    String.toList_inj.1 (Tree.shift_injective margin hpattern)
  exact ⟨by rw [bare, bare, hnames, htext], (List.cons.inj hrest).2⟩

/-! ### Reading a description -/

namespace Tree

/-- Whether the descriptions of all leaves of a condition tell their fields and patterns. -/
def IsClear (tree : Tree) : Prop :=
  ∀ leaf ∈ tree.leaves, leaf.IsClear

/-- The same of some conditions. -/
def AreClear (children : List Tree) : Prop :=
  ∀ leaf ∈ leavesOfEach children, leaf.IsClear

theorem areClear_cons {child : Tree} {children : List Tree} :
    AreClear (child :: children) ↔ child.IsClear ∧ AreClear children := by
  rw [AreClear, leavesOfEach, List.forall_mem_append]
  rfl

theorem head?_shift_describe (margin : Nat) (tree : Tree) (rest : List Char) :
    (shift margin tree.describe ++ rest).head? = some tree.initial := by
  cases tree with
  | test leaf =>
    rw [describe_test, Leaf.shift_description]
    rfl
  | _ => rfl

mutual

/-- **A description tells the condition and where it ends**, whatever is written behind it: by
induction on the condition. -/
theorem eq_of_shift_describe (tree other : Tree) (h : tree.IsClear) (hother : other.IsClear)
    {margin : Nat} {rest behind : List Char}
    (heq : shift margin tree.describe ++ rest = shift margin other.describe ++ behind) :
    tree.bare = other.bare ∧ rest = behind := by
  -- the first letter is that of both conditions, which are of the same form
  have hform : tree.initial = other.initial := by
    have hhead := congrArg List.head? heq
    rw [head?_shift_describe, head?_shift_describe] at hhead
    exact Option.some.inj hhead
  cases tree with
  | all children =>
    cases other with
    | all others =>
      rw [describe_all, describe_all, shift_enclose margin (by decide),
        shift_enclose margin (by decide)] at heq
      simp only [List.append_assoc] at heq
      obtain ⟨hbare, hrest⟩ := bareEach_eq_of_shift_join children others h hother
        (List.append_cancel_left heq)
      exact ⟨congrArg Tree.all hbare, (List.cons.inj hrest).2⟩
    | _ => exact absurd hform (by simp [initial])
  | any children =>
    cases other with
    | any others =>
      rw [describe_any, describe_any, shift_enclose margin (by decide),
        shift_enclose margin (by decide)] at heq
      simp only [List.append_assoc] at heq
      obtain ⟨hbare, hrest⟩ := bareEach_eq_of_shift_join children others h hother
        (List.append_cancel_left heq)
      exact ⟨congrArg Tree.any hbare, (List.cons.inj hrest).2⟩
    | _ => exact absurd hform (by simp [initial])
  | negate child =>
    cases other with
    | negate other =>
      rw [shift_negate, shift_negate] at heq
      simp only [List.append_assoc] at heq
      obtain ⟨hbare, hrest⟩ := eq_of_shift_describe child other h hother
        (List.append_cancel_left heq)
      exact ⟨congrArg Tree.negate hbare, List.append_cancel_left hrest⟩
    | _ => exact absurd hform (by simp [initial])
  | test leaf =>
    cases other with
    | test other =>
      obtain ⟨hbare, hrest⟩ := Leaf.eq_of_shift_description
        (h leaf (List.mem_singleton_self leaf)) (hother other (List.mem_singleton_self other)) heq
      exact ⟨congrArg Tree.test hbare, hrest⟩
    | _ => exact absurd hform (by simp [initial])

/-- The same for the conditions in a conjunction or a disjunction, up to the space behind the
last of them. -/
theorem bareEach_eq_of_shift_join (children others : List Tree) (h : AreClear children)
    (hothers : AreClear others) {margin : Nat} {rest behind : List Char}
    (heq : shift margin (Text.join [',', '\n'] (describeEach children)) ++ ' ' :: rest =
      shift margin (Text.join [',', '\n'] (describeEach others)) ++ ' ' :: behind) :
    bareEach children = bareEach others ∧ rest = behind := by
  cases children with
  | nil =>
    cases others with
    | nil => exact ⟨rfl, (List.cons.inj heq).2⟩
    | cons other others =>
      -- a description does not start with the space that follows the last one
      rw [join_describeEach, shift_append, List.append_assoc] at heq
      have hhead := congrArg List.head? heq
      rw [head?_shift_describe] at hhead
      exact absurd (Option.some.inj hhead).symm other.initial_ne_space
  | cons child children =>
    cases others with
    | nil =>
      rw [join_describeEach, shift_append, List.append_assoc] at heq
      have hhead := congrArg List.head? heq
      rw [head?_shift_describe] at hhead
      exact absurd (Option.some.inj hhead) child.initial_ne_space
    | cons other others =>
      obtain ⟨hchild, hchildren⟩ := areClear_cons.1 h
      obtain ⟨hother, hothers⟩ := areClear_cons.1 hothers
      rw [join_describeEach, join_describeEach, shift_append, shift_append, List.append_assoc,
        List.append_assoc] at heq
      obtain ⟨hbare, htail⟩ := eq_of_shift_describe child other hchild hother heq
      obtain ⟨hbares, hrest⟩ := bareEach_eq_of_shift_others children others hchildren hothers htail
      exact ⟨by rw [bareEach, bareEach, hbare, hbares], hrest⟩

/-- The same for the conditions behind the first one: in front of each there is a comma, and
behind the last a space. -/
theorem bareEach_eq_of_shift_others (children others : List Tree) (h : AreClear children)
    (hothers : AreClear others) {margin : Nat} {rest behind : List Char}
    (heq : shift margin (describeOthers children) ++ ' ' :: rest =
      shift margin (describeOthers others) ++ ' ' :: behind) :
    bareEach children = bareEach others ∧ rest = behind := by
  cases children with
  | nil =>
    cases others with
    | nil => exact ⟨rfl, (List.cons.inj heq).2⟩
    | cons other others =>
      rw [shift_describeOthers_cons] at heq
      exact absurd (List.cons.inj heq).1 (by decide)
  | cons child children =>
    cases others with
    | nil =>
      rw [shift_describeOthers_cons] at heq
      exact absurd (List.cons.inj heq).1 (by decide)
    | cons other others =>
      obtain ⟨hchild, hchildren⟩ := areClear_cons.1 h
      obtain ⟨hother, hothers⟩ := areClear_cons.1 hothers
      rw [shift_describeOthers_cons, shift_describeOthers_cons] at heq
      simp only [List.append_assoc] at heq
      obtain ⟨hbare, htail⟩ := eq_of_shift_describe child other hchild hother
        (List.append_cancel_left heq)
      obtain ⟨hbares, hrest⟩ := bareEach_eq_of_shift_others children others hchildren hothers htail
      exact ⟨by rw [bareEach, bareEach, hbare, hbares], hrest⟩

end

/-- **Conditions that are described alike are the same**, their compiled globs apart. -/
theorem bare_eq_of_describe {tree other : Tree} (h : tree.IsClear) (hother : other.IsClear)
    (heq : tree.describe = other.describe) : tree.bare = other.bare :=
  (eq_of_shift_describe tree other h hother
    (congrArg (fun text => shift 0 text ++ []) heq)).1

/-- **The description tells the condition**, its compiled globs apart, and nothing else. -/
theorem description_eq_iff {tree other : Tree} (h : tree.IsClear) (hother : other.IsClear) :
    tree.description = other.description ↔ tree.bare = other.bare := by
  rw [description, description, String.ofList_inj]
  constructor
  · exact bare_eq_of_describe h hother
  · intro hbare
    rw [← describe_bare tree, hbare, describe_bare other]

end Tree

/-! ### Compiled conditions -/

/-- A leaf that can be written in a query is described clearly if the default fields are. -/
theorem Leaf.IsWritable.isClear {defaults : FieldList} (hdefaults : defaults.IsClear)
    {leaf : Leaf} (h : leaf.IsWritable defaults) : leaf.IsClear := by
  obtain ⟨hpattern, hfields⟩ := h
  refine ⟨?_, fun hquote => (hpattern _ hquote).1 rfl⟩
  rcases hfields with hfields | ⟨hnames, htext⟩
  · rw [hfields]
    exact hdefaults
  · refine ⟨fun hnil => htext ?_, fun name hname => ⟨fun hquote => ?_, fun hbar => ?_⟩⟩
    · rw [FieldList.text, hnil]
      rfl
    · exact absurd (hnames name hname _ hquote) (by decide)
    · exact absurd (hnames name hname _ hbar) (by decide)

/-- **Queries compile to conditions that are described clearly.** -/
theorem isClear_compile {defaults : FieldList} (hdefaults : defaults.IsClear) (search : String)
    (caseSensitive : Bool) : (compile search defaults caseSensitive).tree.IsClear := by
  obtain ⟨written, -, -, hwritten⟩ := exists_written search defaults
  obtain ⟨htree, -⟩ := hwritten caseSensitive
  rw [htree]
  intro leaf hleaf
  obtain ⟨group, hgroup, hleaf⟩ := Tree.mem_leavesOfEach.1 hleaf
  obtain ⟨wordings, -, rfl⟩ := List.mem_map.1 hgroup
  obtain ⟨phrase, hphrase, hleaf⟩ := Tree.mem_leavesOfEach.1 hleaf
  obtain ⟨wording, -, rfl⟩ := List.mem_map.1 hphrase
  have hsame : leaf = wording.leaf defaults caseSensitive := by
    rw [Wording.tree] at hleaf
    split at hleaf <;> exact List.mem_singleton.1 hleaf
  rw [hsame]
  exact (wording.isWritable_leaf defaults caseSensitive).isClear hdefaults

/-- **A description determines what is described.** Let every leaf of two conditions, of any
shape, have at least one field, no quotation mark or bar in a name and no quotation mark in its
pattern. The two are described alike exactly if they have the same shape with the same fields
and patterns at their leaves, and then their JSON values are the same. The default fields of
queries need only be such fields for that to hold of what any two queries compile to. -/
theorem description_determines :
    (∀ tree other : Tree, tree.IsClear → other.IsClear →
        (tree.description = other.description ↔ tree.bare = other.bare) ∧
          (tree.description = other.description → tree.toJson = other.toJson)) ∧
      ∀ defaults : FieldList, defaults.IsClear →
        ∀ (search other : String) (options otherOptions : Options),
          (Filter.new search defaults options).description =
              (Filter.new other defaults otherOptions).description →
            (Filter.new search defaults options).tree.bare =
                (Filter.new other defaults otherOptions).tree.bare ∧
              (Filter.new search defaults options).tree.toJson =
                (Filter.new other defaults otherOptions).tree.toJson := by
  have hjson : ∀ {tree other : Tree}, tree.bare = other.bare → tree.toJson = other.toJson := by
    intro tree other hbare
    rw [← Tree.toJson_bare tree, hbare, Tree.toJson_bare other]
  refine ⟨fun tree other h hother => ?_, fun defaults hdefaults search other options
    otherOptions hsame => ?_⟩
  · have hiff := Tree.description_eq_iff h hother
    exact ⟨hiff, fun hsame => hjson (hiff.1 hsame)⟩
  · have hbare := Tree.bare_eq_of_describe (isClear_compile hdefaults search options.caseSensitive)
      (isClear_compile hdefaults other otherOptions.caseSensitive) (String.ofList_inj.1 hsame)
    exact ⟨hbare, hjson hbare⟩

/-- A condition with an empty part, a negation of it, and a pattern of two lines that looks like
layout. -/
def layoutTree (glob : Option Glob) : Tree :=
  .negate (.any [.all [], .test ⟨⟨["a\nb", ""]⟩, "),\n  MATCH(", glob⟩])

theorem layoutTree_isClear (glob : Option Glob) : (layoutTree glob).IsClear := by
  intro leaf hleaf
  obtain rfl : leaf = ⟨⟨["a\nb", ""]⟩, "),\n  MATCH(", glob⟩ := List.mem_singleton.1 hleaf
  exact ⟨⟨by simp, by simp⟩, by simp⟩

/-- With a compiled glob or without one the condition is described alike, and so are two
searches that are written differently and treat case differently. -/
theorem description_determines_layout :
    (∃ glob, Glob.compile? "),\n  MATCH(" true = .ok glob ∧ (layoutTree (some glob)).IsClear ∧
        (layoutTree none).IsClear ∧
        (layoutTree (some glob)).description = (layoutTree none).description ∧
        (layoutTree (some glob)).toJson = (layoutTree none).toJson) ∧
      FieldList.IsClear ⟨["d"]⟩ ∧
      (Filter.new "-a,b:x | y" ⟨["d"]⟩ ⟨true⟩).description =
        (Filter.new "-a|b:\"x\" | d:y" ⟨["d"]⟩ ⟨false⟩).description ∧
      (Filter.new "-a,b:x | y" ⟨["d"]⟩ ⟨true⟩).tree.toJson =
        (Filter.new "-a|b:\"x\" | d:y" ⟨["d"]⟩ ⟨false⟩).tree.toJson := by
  obtain ⟨htrees, hsearches⟩ := description_determines
  obtain ⟨glob, hglob⟩ : ∃ glob, Glob.compile? "),\n  MATCH(" true = .ok glob :=
    ⟨_, dif_pos (by decide)⟩
  have hdescription : (layoutTree (some glob)).description = (layoutTree none).description := rfl
  have hdefaults : FieldList.IsClear ⟨["d"]⟩ := ⟨by simp, by simp⟩
  have hsame : (Filter.new "-a,b:x | y" ⟨["d"]⟩ ⟨true⟩).description =
      (Filter.new "-a|b:\"x\" | d:y" ⟨["d"]⟩ ⟨false⟩).description := by
    decide +kernel
  have hjson := (htrees _ _ (layoutTree_isClear (some glob)) (layoutTree_isClear none)).2
  exact ⟨⟨glob, hglob, layoutTree_isClear _, layoutTree_isClear _, hdescription,
    hjson hdescription⟩, hdefaults, hsame, (hsearches _ hdefaults _ _ _ _ hsame).2⟩

end Query

end RecordQuery
