import NestLint.Proofs.Nesting.Links
import NestLint.Sheet.Print

/-!
Sheets that are put together from nodes without layout. No node of such a sheet knows how it is laid
out, so the first node that knows is never found, every style falls back on its fixed text, and the
text of the sheet is a function of what its nodes are and how deep they stand: the standard layout.
-/

namespace NestLint

namespace Text

/-- The characters of plain words: ASCII letters and digits, the full stop, the hyphen and the
underscore. -/
def isWordChar (c : Char) : Bool := c.isAlphanum || c == '.' || c == '-' || c == '_'

def Word (text : Text) : Prop := text ≠ [] ∧ ∀ c ∈ text, isWordChar c = true

instance (text : Text) : Decidable (Word text) :=
  decidable_of_iff ((!text.isEmpty && text.all isWordChar) = true) (by simp [Word])

def newLine (depth : Nat) : Text := '\n' :: List.replicate (depth * 4) ' '

end Text

namespace Kind

open Text

/-- All texts of the node are words; an at-rule may do without parameters. A root is no such node. -/
def Worded : Kind → Prop
  | .root => False
  | .rule selector => Word selector
  | .atRule name params _ => Word name ∧ (params = [] ∨ Word params)
  | .decl property value _ => Word property ∧ Word value
  | .comment text => Word text

instance : (kind : Kind) → Decidable kind.Worded
  | .root => inferInstanceAs (Decidable False)
  | .rule _ => inferInstanceAs (Decidable (Word _))
  | .atRule _ _ _ => inferInstanceAs (Decidable (Word _ ∧ (_ ∨ Word _)))
  | .decl _ _ _ => inferInstanceAs (Decidable (Word _ ∧ Word _))
  | .comment _ => inferInstanceAs (Decidable (Word _))

theorem isRoot_of_worded {kind : Kind} (worded : kind.Worded) : kind.isRoot = false := by
  cases kind with
  | root => exact worded.elim
  | _ => rfl

def standardGap (params : Text) : Text := if params.isEmpty then [] else [' ']

def standardHead : Kind → Text
  | .rule selector => selector
  | .atRule name params _ => '@' :: name ++ standardGap params ++ params
  | _ => []

def standardMark (important : Bool) : Text := if important then " !important".toList else []

def standardLeaf (semicolon : Bool) : Kind → Text
  | .atRule name params hasBlock => (atRule name params hasBlock).standardHead ++ Sheet.ending semicolon
  | .decl property value important =>
    property ++ [':', ' '] ++ value ++ standardMark important ++ Sheet.ending semicolon
  | .comment text => '/' :: '*' :: [' '] ++ text ++ [' '] ++ ['*', '/']
  | _ => []

end Kind

namespace Tree

open Text

mutual
def standard (depth : Nat) (semicolon : Bool) : Tree Kind → Text
  | .node kind ts =>
    if kind.isContainer then
      kind.standardHead ++ [' '] ++ '{' :: standardAll (depth + 1) ts ++
        (if ts.isEmpty then [] else newLine depth) ++ ['}']
    else kind.standardLeaf semicolon
/-- The text of the children of a block in the standard layout. The last statement has no
semicolon. -/
def standardAll (depth : Nat) : List (Tree Kind) → Text
  | [] => []
  | t :: ts =>
    newLine depth ++ standard depth (ts.any fun later => !later.label.isComment) t ++ standardAll depth ts
end

def standardSheet (t : Tree Kind) : Text := (standardAll 0 t.children).drop 1

end Tree

namespace Sheet

open Text

theorem Linked.label_shape {s : Sheet} (linked : s.Linked) (id : NodeId) : (s.shape id).label = id := by
  rw [linked.shape_eq]
  rfl

theorem Linked.any_label_map {s : Sheet} (linked : s.Linked) (ids : List NodeId) :
    ((ids.map s.shape).any fun later => !(s.kind later.label).isComment) =
      (ids.map s.kinds).any fun later => !later.label.isComment := by
  rw [List.any_map, List.any_map]
  congr 1
  funext later
  simp only [Function.comp, linked.label_kinds, linked.label_shape]

theorem Linked.printTrees_standard {s : Sheet} (linked : s.Linked) (depth : Nat) (ids : List NodeId)
    (before : ∀ id ∈ ids, s.beforeOf id = newLine depth)
    (each : ∀ id ∈ ids, ∀ semicolon, s.printTree semicolon (s.shape id) = (s.kinds id).standard depth semicolon) :
    s.printTrees false (ids.map s.shape) = Tree.standardAll depth (ids.map s.kinds) := by
  induction ids with
  | nil => rfl
  | cons id ids ih =>
    rw [List.forall_mem_cons] at before each
    rw [List.map_cons, List.map_cons, printTrees, Tree.standardAll, ih before.2 each.2,
      linked.any_label_map, linked.label_shape, before.1, each.1, Bool.false_or]

section depth

variable {s : Sheet} (linked : s.Linked)

open Classical in
noncomputable def aloft (s : Sheet) (id : NodeId) : Finset NodeId :=
  (Finset.range s.nodes.size).filter fun x => s.Under id x

theorem mem_aloft {id x : NodeId} : x ∈ s.aloft id ↔ x < s.nodes.size ∧ s.Under id x := by
  simp [aloft]

theorem card_aloft_le (s : Sheet) (id : NodeId) : (s.aloft id).card ≤ s.nodes.size := by
  have inside : s.aloft id ⊆ Finset.range s.nodes.size :=
    fun x above => Finset.mem_range.mpr (mem_aloft.mp above).1
  simpa using Finset.card_le_card inside

include linked

theorem Linked.card_aloft_lt {child parent : NodeId} (up : s.parent child = some parent) :
    (s.aloft parent).card < (s.aloft child).card := by
  apply Finset.card_lt_card
  refine ⟨?_, ?_⟩
  · intro x above
    obtain ⟨stored, under⟩ := mem_aloft.mp above
    exact mem_aloft.mpr ⟨stored, under.step up⟩
  · intro all
    have itself : child ∈ s.aloft parent := all (mem_aloft.mpr ⟨stored_of_parent up, under_refl s child⟩)
    exact linked.not_under_child up (mem_aloft.mp itself).2

theorem Linked.ancestorsWithin_succ (fuel : Nat) (id : NodeId) (long : (s.aloft id).card ≤ fuel + 1) :
    s.ancestorsWithin (fuel + 1) id = s.ancestorsWithin fuel id := by
  induction fuel generalizing id with
  | zero =>
    cases up : s.parent id with
    | none => simp only [ancestorsWithin, up]
    | some parent =>
      have stored := stored_of_child (linked.mem_of_parent up)
      have positive : 0 < (s.aloft parent).card :=
        Finset.card_pos.mpr ⟨parent, mem_aloft.mpr ⟨stored, under_refl s parent⟩⟩
      have fewer := linked.card_aloft_lt up
      omega
  | succ fuel ih =>
    cases up : s.parent id with
    | none => simp only [ancestorsWithin, up]
    | some parent =>
      have fewer := linked.card_aloft_lt up
      rw [ancestorsWithin, up, ancestorsWithin, up]
      exact congrArg (parent :: ·) (ih parent (by omega))

theorem Linked.ancestors_eq {child parent : NodeId} (up : s.parent child = some parent) :
    s.ancestors child = parent :: s.ancestors parent := by
  unfold ancestors
  have stored := stored_of_parent up
  have fewer := linked.card_aloft_lt up
  have atMost := card_aloft_le s child
  obtain ⟨n, size⟩ : ∃ n, s.nodes.size = n + 1 := ⟨s.nodes.size - 1, by omega⟩
  rw [size, linked.ancestorsWithin_succ n parent (by omega)]
  simp only [ancestorsWithin, up]

theorem Linked.depth_of_parent_root {child : NodeId} (up : s.parent child = some root) :
    s.depth child = 0 := by
  rw [depth, linked.ancestors_eq up]
  rfl

theorem Linked.depth_eq {child parent : NodeId} (up : s.parent child = some parent)
    (other : parent ≠ root) : s.depth child = s.depth parent + 1 := by
  rw [depth, linked.ancestors_eq up, List.takeWhile_cons_of_pos (by simpa using other)]
  rfl

end depth

theorem raws_eq (s : Sheet) (id : NodeId) : s.raws id = (s.label id).raws := rfl

/-- No node of the sheet carries any layout. -/
def Bare (s : Sheet) : Prop := ∀ id, s.raws id = {}

namespace Bare

variable {s : Sheet} (bare : s.Bare)

theorem infer_eq_none {α : Type} {id : NodeId} {pick : NodeId → Option α} (none : ∀ x, pick x = .none) :
    s.infer id pick = .none := List.findSome?_eq_none_iff.mpr fun x _ => none x

include bare

section styles

variable (id : NodeId)

theorem styleBeforeRule_eq : s.styleBeforeRule id = ['\n'] := by
  rw [styleBeforeRule, infer_eq_none fun x => by simp [bare x]]
  rfl

theorem styleBeforeDecl_eq : s.styleBeforeDecl id = ['\n'] := by
  rw [styleBeforeDecl, infer_eq_none fun x => by simp [bare x]]
  exact bare.styleBeforeRule_eq id

theorem styleBeforeComment_eq : s.styleBeforeComment id = ['\n'] := by
  rw [styleBeforeComment, infer_eq_none fun x => by simp [bare x]]
  exact bare.styleBeforeDecl_eq id

theorem styleBeforeClose_eq : s.styleBeforeClose id = ['\n'] := by
  rw [styleBeforeClose, infer_eq_none fun x => by simp [bare x]]
  rfl

theorem styleIndent_eq : s.styleIndent id = List.replicate 4 ' ' := by
  rw [styleIndent, infer_eq_none fun x => by cases s.parent x <;> simp [bare x]]
  rfl

theorem styleBeforeOpen_eq : s.styleBeforeOpen id = [' '] := by
  rw [styleBeforeOpen, infer_eq_none fun x => by simp [bare x]]
  rfl

theorem styleColon_eq : s.styleColon id = [':', ' '] := by
  rw [styleColon, infer_eq_none fun x => by simp [bare x]]
  rfl

theorem styleEmptyBody_eq : s.styleEmptyBody id = [] := by
  rw [styleEmptyBody, infer_eq_none fun x => by simp [bare x]]
  rfl

theorem styleCommentLeft_eq : s.styleCommentLeft id = [' '] := by
  rw [styleCommentLeft, infer_eq_none fun x => by simp [bare x]]
  rfl

theorem styleCommentRight_eq : s.styleCommentRight id = [' '] := by
  rw [styleCommentRight, infer_eq_none fun x => by simp [bare x]]
  rfl

theorem semicolonOf_eq : s.semicolonOf id = false := by
  have none : s.styleSemicolon id = false := by
    rw [styleSemicolon, infer_eq_none fun x => by cases s.lastChild x <;> simp [bare x]]
    rfl
  simp [semicolonOf, bare id, none]

theorem indented_eq : s.indented id ['\n'] = newLine (s.depth id) := by
  rw [indented, bare.styleIndent_eq, List.flatten_replicate_replicate]
  rfl

end styles

section layout

variable {id parent : NodeId}

theorem head_eq (block : (s.kind id).isRoot = false) : s.head id = (s.kind id).standardHead := by
  have own : (s.raws id).afterName = none := by rw [bare id]
  cases kind : s.kind id with
  | root => simp [kind, Kind.isRoot] at block
  | rule selector => simp [head, kind, Kind.standardHead]
  | atRule name params hasBlock => simp [head, kind, own, Kind.standardHead, Kind.standardGap]
  | decl property value important => simp [head, kind, Kind.standardHead]
  | comment text => simp [head, kind, Kind.standardHead]

variable (up : s.parent id = some parent)

include up

theorem beforeOf_eq (later : ¬ ((s.kind parent).isRoot = true ∧ s.firstChild parent = some id)) :
    s.beforeOf id = newLine (s.depth id) := by
  have own : (s.raws id).before = none := by rw [bare id]
  rw [← bare.indented_eq, beforeOf, own, up]
  dsimp only
  rw [if_neg (by simpa using later)]
  split
  · rw [bare.styleBeforeDecl_eq]
  · rw [bare.styleBeforeComment_eq]
  · rw [bare.styleBeforeRule_eq]

theorem beforeOf_first (top : (s.kind parent).isRoot = true) (first : s.firstChild parent = some id) :
    s.beforeOf id = [] := by
  have own : (s.raws id).before = none := by rw [bare id]
  simp [beforeOf, own, up, top, first]

theorem openOf_eq : s.openOf id = [' '] := by
  have own : (s.raws id).between = none := by rw [bare id]
  simp only [openOf, own, up, bare.styleBeforeOpen_eq]

theorem colonOf_eq : s.colonOf id = [':', ' '] := by
  have own : (s.raws id).between = none := by rw [bare id]
  simp only [colonOf, own, up, bare.styleColon_eq]

theorem leftOf_eq : s.leftOf id = [' '] := by
  have own : (s.raws id).left = none := by rw [bare id]
  simp only [leftOf, own, up, bare.styleCommentLeft_eq]

theorem rightOf_eq : s.rightOf id = [' '] := by
  have own : (s.raws id).right = none := by rw [bare id]
  simp only [rightOf, own, up, bare.styleCommentRight_eq]

theorem afterOf_eq :
    s.afterOf id = if (s.children id).isEmpty then [] else newLine (s.depth id) := by
  have own : (s.raws id).after = none := by rw [bare id]
  simp only [afterOf, own, up, bare.styleEmptyBody_eq, bare.styleBeforeClose_eq, bare.indented_eq]

theorem printNode_eq (inner : (s.kind id).isRoot = false) (semicolon : Bool) (body : Text) :
    s.printNode id semicolon body =
      if (s.kind id).isContainer then
        (s.kind id).standardHead ++ [' '] ++ '{' :: body ++
          (if (s.children id).isEmpty then [] else newLine (s.depth id)) ++ ['}']
      else (s.kind id).standardLeaf semicolon := by
  have head := bare.head_eq inner
  have between : (s.raws id).between = none := by rw [bare id]
  have mark : (s.raws id).important = none := by rw [bare id]
  cases kind : s.kind id with
  | root => simp [kind, Kind.isRoot] at inner
  | rule selector =>
    rw [kind] at head
    simp only [printNode, kind, head, bare.openOf_eq up, bare.afterOf_eq up, Kind.isContainer, if_true]
  | atRule name params hasBlock =>
    rw [kind] at head
    cases hasBlock with
    | true =>
      simp only [printNode, kind, head, bare.openOf_eq up, bare.afterOf_eq up, Kind.isContainer, if_true]
    | false =>
      simp only [printNode, printLeaf, kind, head, between, Kind.isContainer, Kind.standardLeaf,
        Option.getD_none, List.append_nil, Bool.false_eq_true, if_false]
  | decl property value important =>
    simp only [printNode, printLeaf, kind, bare.colonOf_eq up, mark, Kind.isContainer, Kind.standardLeaf,
      Kind.standardMark, Option.getD_none, Bool.false_eq_true, if_false]
  | comment text =>
    simp only [printNode, printLeaf, kind, bare.leftOf_eq up, bare.rightOf_eq up, Kind.isContainer,
      Kind.standardLeaf, Bool.false_eq_true, if_false]

end layout

section print

variable (linked : s.Linked) (inner : ∀ id < s.nodes.size, id ≠ root → (s.kind id).isRoot = false)

include linked inner

theorem printTree_eq {id : NodeId} (under : s.Under id root) (other : id ≠ root) (semicolon : Bool) :
    s.printTree semicolon (s.shape id) = (s.kinds id).standard (s.depth id) semicolon := by
  induction id using linked.induction_below generalizing semicolon with
  | step id ih =>
    obtain ⟨parent, up, -⟩ := (under_iff.mp under).resolve_left other
    have noRoot := inner id (stored_of_parent up) other
    have before : ∀ child ∈ s.children id, s.beforeOf child = newLine (s.depth id + 1) := by
      intro child listed
      have above := linked.parent_of_mem listed
      rw [bare.beforeOf_eq above fun both => Bool.false_ne_true (noRoot.symm.trans both.1),
        linked.depth_eq above other]
    have below : ∀ child ∈ s.children id, ∀ semicolon,
        s.printTree semicolon (s.shape child) = (s.kinds child).standard (s.depth id + 1) semicolon := by
      intro child listed semicolon
      have above := linked.parent_of_mem listed
      have notRoot : child ≠ root := by
        rintro rfl
        exact linked.not_under_child above under
      rw [ih child listed (under.step above) notRoot, linked.depth_eq above other]
    rw [linked.shape_eq, printTree, bare.printNode_eq up noRoot, bare.semicolonOf_eq,
      linked.printTrees_standard _ _ before below, linked.kinds_eq, Tree.standard, List.isEmpty_map]

theorem nodeCss_eq (top : s.kind root = .root) : s.nodeCss root = (s.kinds root).standardSheet := by
  have after : (s.raws root).after = none := by rw [bare root]
  have body : s.printTrees false ((s.children root).map s.shape) =
      (Tree.standardAll 0 ((s.children root).map s.kinds)).drop 1 := by
    have below : ∀ child ∈ s.children root, s.depth child = 0 ∧ ∀ semicolon,
        s.printTree semicolon (s.shape child) = (s.kinds child).standard 0 semicolon := by
      intro child listed
      have up := linked.parent_of_mem listed
      have notRoot : child ≠ root := by
        rintro rfl
        exact linked.not_under_child up (under_refl s root)
      have shallow := linked.depth_of_parent_root up
      refine ⟨shallow, fun semicolon => ?_⟩
      rw [bare.printTree_eq linked inner ((under_refl s root).step up) notRoot, shallow]
    cases row : s.children root with
    | nil => rfl
    | cons first rest =>
      have once := linked.nodup root
      rw [row, List.nodup_cons] at once
      rw [row, List.forall_mem_cons] at below
      have isFirst : s.firstChild root = some first := by rw [firstChild, row]; rfl
      have ups : ∀ child ∈ first :: rest, s.parent child = some root := by
        intro child listed
        exact linked.parent_of_mem (row ▸ listed)
      have before : ∀ child ∈ rest, s.beforeOf child = newLine 0 := by
        intro child listed
        rw [bare.beforeOf_eq (ups child (List.mem_cons_of_mem first listed)), (below.2 child listed).1]
        rintro ⟨-, same⟩
        rw [isFirst, Option.some.injEq] at same
        exact once.1 (same ▸ listed)
      rw [List.map_cons, List.map_cons, printTrees, Tree.standardAll,
        linked.printTrees_standard 0 rest before fun child listed => (below.2 child listed).2,
        linked.any_label_map, linked.label_shape,
        bare.beforeOf_first (ups first List.mem_cons_self) (by rw [top]; rfl) isFirst, below.1.2,
        Bool.false_or]
      rfl
  rw [nodeCss, linked.shape_eq, printTree, bare.semicolonOf_eq, body, printNode, top, after,
    Tree.standardSheet, linked.kinds_eq]
  exact List.append_nil _

end print

end Bare

/-- The sheets that are put together from nodes without layout: an empty one, one that has got a new
node whose texts are words, and one in which a node has been appended to the root or to a block that is
neither the node itself nor inside it. -/
inductive Synthesized : Sheet → Prop
  | empty : Synthesized empty
  | create {s : Sheet} {kind : Kind} (worded : kind.Worded) (before : Synthesized s) :
      Synthesized (s.create kind).2
  | append {s : Sheet} {parent child : NodeId} (storedParent : parent < s.nodes.size)
      (storedChild : child < s.nodes.size) (different : parent ≠ child)
      (outside : parent ∉ s.descendants child) (block : (s.kind parent).isContainer = true)
      (before : Synthesized s) : Synthesized (s.append parent child)

def hang (s : Sheet) (parent : NodeId) (kind : Kind) : Sheet := (s.create kind).2.append parent s.nodes.size

theorem create_cases (s : Sheet) (kind : Kind) {x : NodeId} (stored : x < (s.create kind).2.nodes.size) :
    (x < s.nodes.size ∧ (s.create kind).2.node x = s.node x) ∨
      (s.create kind).2.node x = Node.ofLabel { kind := kind } := by
  by_cases old : x < s.nodes.size
  · exact Or.inl ⟨old, node_plant_of_lt old⟩
  · have planted := planted_plant s (.node { kind := kind } [])
    rw [create, size_plant] at stored
    obtain rfl : x = s.nodes.size := Nat.le_antisymm (Nat.lt_succ_iff.mp stored) (Nat.not_lt.mp old)
    exact Or.inr planted.2.1

theorem Bare.remove {s : Sheet} (bare : s.Bare) (linked : s.Linked) (id : NodeId) : (s.remove id).Bare := by
  intro x
  obtain ⟨before, same, origin⟩ := linked.exists_label_remove id x
  have none : before = none := by
    rcases origin with rfl | rfl
    · exact congrArg Raws.before (bare x)
    · exact congrArg Raws.before (bare id)
  have raws : (s.remove id).raws x = { s.raws x with before := before } := by rw [raws_eq, same]; rfl
  rw [raws, none, bare x]

theorem Bare.append {s : Sheet} (bare : s.Bare) (linked : s.Linked) (parent child : NodeId) :
    (s.append parent child).Bare := by
  intro x
  have bare' := bare.remove linked child
  have nothing : (s.remove child).borrowBefore parent child = s.remove child := by
    have last : ((s.remove child).lastChild parent).bind (fun last => ((s.remove child).raws last).before) =
        none := by
      cases (s.remove child).lastChild parent with
      | none => rfl
      | some last => exact congrArg Raws.before (bare' last)
    rw [borrowBefore, last]
    split
    · contradiction
    · rfl
  have label : (s.append parent child).label x = (s.remove child).label x := by
    rw [Sheet.append, label_setChildren, label_setParent, nothing]
  rw [raws_eq, label]
  exact bare' x

namespace Synthesized

variable {s : Sheet} (made : s.Synthesized)

include made

theorem wellFormed : s.WellFormed := by
  induction made with
  | empty => exact wellFormed_empty
  | create _ _ formed => exact formed.plant _
  | @append s parent child storedParent storedChild different outside _ _ formed =>
    apply formed.append storedParent storedChild
    rw [formed.linked.under_iff_mem_descendants]
    exact fun within => within.elim different outside

theorem bare : s.Bare := by
  induction made with
  | empty =>
    intro x
    cases x with
    | zero => rfl
    | succ x => rfl
  | @create s kind _ _ bare =>
    intro x
    by_cases stored : x < (s.create kind).2.nodes.size
    · rcases create_cases s kind stored with ⟨-, same⟩ | same
      · exact (congrArg (fun n : Node => n.raws) same).trans (bare x)
      · exact congrArg (fun n : Node => n.raws) same
    · simp [raws, node, Array.getD, stored, Node.ofLabel]
  | append _ _ _ _ _ before bare => exact bare.append before.wellFormed.linked _ _

theorem worded {id : NodeId} (stored : id < s.nodes.size) (other : id ≠ root) : (s.kind id).Worded := by
  induction made with
  | empty =>
    have first : id < 1 := stored
    exact absurd (Nat.lt_one_iff.mp first) other
  | create worded _ ih =>
    rcases create_cases _ _ stored with ⟨old, same⟩ | same
    · rw [Sheet.kind, same]
      exact ih old
    · rw [Sheet.kind, same]
      exact worded
  | append _ _ _ _ _ _ ih =>
    rw [size_append] at stored
    rw [kind_append]
    exact ih stored

theorem children_eq_nil {id : NodeId} (leaf : (s.kind id).isContainer = false) : s.children id = [] := by
  induction made with
  | empty =>
    cases id with
    | zero => rfl
    | succ id => rfl
  | @create s kind _ _ ih =>
    by_cases stored : id < (s.create kind).2.nodes.size
    · rcases create_cases s kind stored with ⟨-, same⟩ | same
      · rw [Sheet.kind, same] at leaf
        rw [Sheet.children, same]
        exact ih leaf
      · rw [Sheet.children, same]
        rfl
    · exact children_of_not_stored (Nat.not_lt.mp stored)
  | @append s parent child storedParent _ _ _ block before ih =>
    rw [kind_append] at leaf
    rw [before.wellFormed.linked.children_append id storedParent, ih leaf, if_neg]
    · rfl
    · rintro rfl
      rw [block] at leaf
      cases leaf

theorem hang {parent : NodeId} {kind : Kind} (stored : parent < s.nodes.size)
    (block : (s.kind parent).isContainer = true) (worded : kind.Worded) : (s.hang parent kind).Synthesized := by
  have created := made.create worded
  have new : (s.create kind).2.node s.nodes.size = Node.ofLabel { kind := kind } :=
    (planted_plant s (.node { kind := kind } [])).2.1
  have alone : (s.create kind).2.descendants s.nodes.size = [] := by
    have none : (s.create kind).2.children s.nodes.size = [] := congrArg Node.children new
    rw [descendants, created.wellFormed.linked.shape_eq, none]
    rfl
  refine created.append ?_ ?_ (Nat.ne_of_lt stored) (by rw [alone]; exact List.not_mem_nil) ?_
  · rw [Sheet.create, size_plant]
    exact Nat.lt_add_right _ stored
  · rw [Sheet.create, size_plant]
    exact Nat.lt_succ_self _
  · rwa [Sheet.kind, Sheet.create, node_plant_of_lt stored]

theorem nodeCss_eq : s.nodeCss root = (s.kinds root).standardSheet := by
  have formed := made.wellFormed
  refine made.bare.nodeCss_eq formed.linked (fun id stored other => ?_) formed.root_kind
  exact Kind.isRoot_of_worded (made.worded stored other)

end Synthesized

end Sheet

end NestLint
