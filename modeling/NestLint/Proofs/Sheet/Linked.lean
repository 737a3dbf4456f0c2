import Mathlib.Data.Finset.Card
import Mathlib.Data.Finset.Range
import Mathlib.Logic.Relation
import NestLint.Proofs.Sheet.Planted

/-!
Sheets whose links fit together. In a linked sheet a node names its parent exactly when the parent
lists it, no list names a node twice, and every chain of parents ends. Then the subtree below a node
is unfolded by its children, two sheets that agree below a node have the same subtree there, and a
change below one node shows in the tree of the root at that place only.
-/

namespace NestLint

/-- `R` relates a subtree of the first tree to what stands at its place in the second; all else is
the same. -/
inductive Tree.Inside {α : Type} (R : Tree α → Tree α → Prop) : Tree α → Tree α → Prop
  | here {t t' : Tree α} (changed : R t t') : Inside R t t'
  | under {t t' : Tree α} (a : α) (front behind : List (Tree α)) (deeper : Inside R t t') :
      Inside R (.node a (front ++ t :: behind)) (.node a (front ++ t' :: behind))

namespace Sheet

def Under (s : Sheet) (id other : NodeId) : Prop :=
  Relation.ReflTransGen (fun child parent => s.parent child = some parent) id other

def kinds (s : Sheet) (id : NodeId) : Tree Kind := (s.tree id).map Label.kind

structure Linked (s : Sheet) : Prop where
  /-- Parents and children name each other. -/
  parent_iff : ∀ child parent, s.parent child = some parent ↔ child ∈ s.children parent
  /-- No child is listed twice. -/
  nodup : ∀ parent, (s.children parent).Nodup
  /-- Following parents comes to an end. -/
  ends : WellFounded fun parent child => s.parent child = some parent

/-- What is left of a linked sheet when a node may hang below itself. -/
structure Paired (s : Sheet) : Prop where
  /-- Parents and children name each other. -/
  parent_iff : ∀ child parent, s.parent child = some parent ↔ child ∈ s.children parent
  /-- No child is listed twice. -/
  nodup : ∀ parent, (s.children parent).Nodup

theorem Linked.paired {s : Sheet} (linked : s.Linked) : s.Paired := ⟨linked.parent_iff, linked.nodup⟩

structure WellFormed (s : Sheet) : Prop where
  linked : s.Linked
  root_stored : root < s.nodes.size
  root_kind : s.kind root = .root

section under

variable {s : Sheet} {id other : NodeId}

theorem under_refl (s : Sheet) (id : NodeId) : s.Under id id := Relation.ReflTransGen.refl

theorem Under.step {parent : NodeId} (up : s.parent id = some parent) (under : s.Under parent other) :
    s.Under id other := Relation.ReflTransGen.head up under

theorem Under.trans {top : NodeId} (first : s.Under id other) (second : s.Under other top) :
    s.Under id top := Relation.ReflTransGen.trans first second

theorem under_iff : s.Under id other ↔
    id = other ∨ ∃ parent, s.parent id = some parent ∧ s.Under parent other := by
  constructor
  · intro under
    rcases Relation.ReflTransGen.cases_head under with same | ⟨parent, up, above⟩
    · exact Or.inl same
    · exact Or.inr ⟨parent, up, above⟩
  · rintro (rfl | ⟨parent, up, above⟩)
    · exact under_refl s id
    · exact above.step up

theorem under_of_parent_eq_none (top : s.parent id = none) (under : s.Under id other) :
    id = other := by
  rcases under_iff.mp under with same | ⟨parent, up, -⟩
  · exact same
  · rw [top] at up
    cases up

theorem under_total {x : NodeId} (first : s.Under x id) (second : s.Under x other) :
    s.Under id other ∨ s.Under other id := by
  apply Relation.ReflTransGen.total_of_right_unique _ first second
  intro child parent parent' up up'
  exact Option.some.inj (up.symm.trans up')

end under

theorem stored_of_parent {s : Sheet} {id parent : NodeId} (up : s.parent id = some parent) :
    id < s.nodes.size := by
  by_contra outside
  simp [Sheet.parent, node, Array.getD, outside, Node.ofLabel] at up

theorem stored_of_child {s : Sheet} {id child : NodeId} (listed : child ∈ s.children id) :
    id < s.nodes.size := by
  by_contra outside
  simp [Sheet.children, node, Array.getD, outside, Node.ofLabel] at listed

theorem children_of_not_stored {s : Sheet} {x : NodeId} (outside : s.nodes.size ≤ x) : s.children x = [] := by
  rw [List.eq_nil_iff_forall_not_mem]
  intro child listed
  exact Nat.not_lt.mpr outside (stored_of_child listed)

theorem Under.stored {s : Sheet} {id other : NodeId} (under : s.Under id other)
    (stored : other < s.nodes.size) : id < s.nodes.size := by
  rcases under_iff.mp under with rfl | ⟨parent, up, -⟩
  · exact stored
  · exact stored_of_parent up

theorem Under.of_same_above {s s' : Sheet} {id other : NodeId} (under : s'.Under id other)
    (same : ∀ x, s.Under id x → s'.parent x = s.parent x) : s.Under id other := by
  induction under using Relation.ReflTransGen.head_induction_on with
  | refl => exact under_refl s other
  | @head child parent up _ ih =>
    rw [same child (under_refl s child)] at up
    exact (ih fun x above => same x (above.step up)).step up

namespace Paired

variable {s : Sheet} (paired : s.Paired) {child parent : NodeId}

include paired

theorem parent_of_mem (listed : child ∈ s.children parent) : s.parent child = some parent :=
  (paired.parent_iff child parent).mpr listed

theorem mem_of_parent (up : s.parent child = some parent) : child ∈ s.children parent :=
  (paired.parent_iff child parent).mp up

end Paired

namespace Linked

variable {s s' : Sheet} (linked : s.Linked)

include linked

theorem parent_of_mem {child parent : NodeId} (listed : child ∈ s.children parent) :
    s.parent child = some parent := (linked.parent_iff child parent).mpr listed

theorem mem_of_parent {child parent : NodeId} (up : s.parent child = some parent) :
    child ∈ s.children parent := (linked.parent_iff child parent).mp up

theorem not_under_child {child parent : NodeId} (up : s.parent child = some parent) :
    ¬ s.Under parent child := by
  induction parent using linked.ends.induction generalizing child with
  | _ parent ih =>
    intro under
    -- A cycle through `parent` is also one through the parent of `parent`, which is smaller.
    rcases under_iff.mp under with rfl | ⟨above, up', higher⟩
    · exact ih parent up up under
    · exact ih above up' up' (higher.trans ((under_refl s parent).step up))

theorem eq_of_under_siblings {parent child child' x : NodeId} (up : s.parent child = some parent)
    (up' : s.parent child' = some parent) (under : s.Under x child) (under' : s.Under x child') :
    child = child' := by
  have apart : ∀ a b, s.parent a = some parent → s.parent b = some parent → s.Under a b → a = b := by
    intro a b upA upB below
    rcases under_iff.mp below with same | ⟨above, upA', higher⟩
    · exact same
    · rw [upA] at upA'
      cases upA'
      exact absurd higher (linked.not_under_child upB)
  rcases under_total under under' with below | below
  · exact apart child child' up up' below
  · exact (apart child' child up' up below).symm

theorem ne_of_under_child {child parent x above : NodeId} (up : s.parent child = some parent)
    (under : s.Under x child) (higher : s.Under parent above) : x ≠ above := by
  rintro rfl
  exact linked.not_under_child up (higher.trans under)

theorem ne_of_under_siblings {parent child child' x x' : NodeId} (up : s.parent child = some parent)
    (up' : s.parent child' = some parent) (different : child ≠ child') (under : s.Under x child)
    (under' : s.Under x' child') : x ≠ x' := by
  rintro rfl
  exact different (linked.eq_of_under_siblings up up' under under')

theorem stored_of_mem {child parent : NodeId} (listed : child ∈ s.children parent) :
    child < s.nodes.size := stored_of_parent (linked.parent_of_mem listed)

theorem stored_above {id other : NodeId} (under : s.Under id other) (stored : id < s.nodes.size) :
    other < s.nodes.size := by
  induction under with
  | refl => exact stored
  | tail _ up _ => exact stored_of_child (linked.mem_of_parent up)

theorem erase_children_of_ne {child parent x : NodeId} (up : s.parent child = some parent)
    (different : x ≠ parent) : (s.children x).erase child = s.children x := by
  apply List.erase_of_not_mem
  intro listed
  have other := linked.parent_of_mem listed
  rw [up] at other
  exact different (Option.some.inj other).symm

theorem exists_split {child parent : NodeId} (up : s.parent child = some parent) :
    ∃ front behind, s.children parent = front ++ child :: behind ∧ child ∉ front ∧ child ∉ behind := by
  obtain ⟨front, behind, whole⟩ := List.append_of_mem (linked.mem_of_parent up)
  have once := linked.nodup parent
  rw [whole, List.nodup_append, List.nodup_cons] at once
  refine ⟨front, behind, whole, ?_, once.2.1.1⟩
  intro early
  exact once.2.2 child early child List.mem_cons_self rfl

end Linked

open Classical in
noncomputable def reach (s : Sheet) (id : NodeId) : Finset NodeId :=
  (Finset.range s.nodes.size).filter fun x => s.Under x id

theorem mem_reach {s : Sheet} {id x : NodeId} :
    x ∈ s.reach id ↔ x < s.nodes.size ∧ s.Under x id := by
  simp [reach]

theorem card_reach_le (s : Sheet) (id : NodeId) : (s.reach id).card ≤ s.nodes.size := by
  have inside : s.reach id ⊆ Finset.range s.nodes.size :=
    fun x below => Finset.mem_range.mpr (mem_reach.mp below).1
  calc
    _ ≤ (Finset.range s.nodes.size).card := Finset.card_le_card inside
    _ = s.nodes.size := Finset.card_range _

namespace Linked

variable {s s' : Sheet} (linked : s.Linked)

include linked

theorem card_reach_lt {child parent : NodeId} (listed : child ∈ s.children parent) :
    (s.reach child).card < (s.reach parent).card := by
  have up := linked.parent_of_mem listed
  apply Finset.card_lt_card
  refine ⟨?_, ?_⟩
  · intro x below
    obtain ⟨stored, under⟩ := mem_reach.mp below
    exact mem_reach.mpr ⟨stored, under.trans ((under_refl s parent).step up)⟩
  · intro all
    have itself : parent ∈ s.reach child :=
      all (mem_reach.mpr ⟨stored_of_child listed, under_refl s parent⟩)
    exact linked.not_under_child up (mem_reach.mp itself).2

theorem induction_below {motive : NodeId → Prop}
    (step : ∀ id, (∀ child ∈ s.children id, motive child) → motive id) (id : NodeId) : motive id := by
  induction size : (s.reach id).card using Nat.strong_induction_on generalizing id with
  | _ n ih =>
    apply step
    intro child listed
    exact ih _ (size ▸ linked.card_reach_lt listed) child rfl

theorem shapeWithin_succ (fuel : Nat) (id : NodeId) (deep : (s.reach id).card ≤ fuel + 1) :
    s.shapeWithin (fuel + 1) id = s.shapeWithin fuel id := by
  induction fuel generalizing id with
  | zero =>
    have none : s.children id = [] := by
      cases children : s.children id with
      | nil => rfl
      | cons child rest =>
        have listed : child ∈ s.children id := by rw [children]; exact List.mem_cons_self
        have below : child ∈ s.reach child :=
          mem_reach.mpr ⟨linked.stored_of_mem listed, under_refl s child⟩
        have positive : 0 < (s.reach child).card := Finset.card_pos.mpr ⟨child, below⟩
        have fewer := linked.card_reach_lt listed
        omega
    simp only [shapeWithin, none, List.map_nil]
  | succ fuel ih =>
    rw [shapeWithin, shapeWithin]
    congr 1
    apply List.map_congr_left
    intro child listed
    have fewer := linked.card_reach_lt listed
    exact ih child (by omega)

theorem shape_eq (id : NodeId) : s.shape id = .node id ((s.children id).map s.shape) := by
  unfold shape
  cases size : s.nodes.size with
  | zero =>
    have none : s.children id = [] := by
      cases children : s.children id with
      | nil => rfl
      | cons child rest =>
        have listed : child ∈ s.children id := by rw [children]; exact List.mem_cons_self
        exact absurd (size ▸ stored_of_child listed) (Nat.not_lt_zero id)
    rw [none]
    rfl
  | succ n =>
    conv_lhs => rw [shapeWithin]
    congr 1
    apply List.map_congr_left
    intro child listed
    have fewer := card_reach_le s child
    exact (linked.shapeWithin_succ n child (by omega)).symm

theorem tree_eq (id : NodeId) : s.tree id = .node (s.label id) ((s.children id).map s.tree) := by
  have below : (s.children id).map s.tree =
      Tree.mapAll s.label ((s.children id).map s.shape) := by
    rw [Tree.mapAll_eq_map, List.map_map]
    rfl
  rw [tree, linked.shape_eq id, Tree.map, below]

theorem kinds_eq (id : NodeId) : s.kinds id = .node (s.kind id) ((s.children id).map s.kinds) := by
  rw [kinds, linked.tree_eq, Tree.map, Tree.mapAll_eq_map, List.map_map]
  rfl

theorem label_kinds (id : NodeId) : (s.kinds id).label = s.kind id := by
  rw [linked.kinds_eq]
  rfl

theorem tree_congr (linked' : s'.Linked) (id : NodeId)
    (same : ∀ x, s.Under x id → s'.label x = s.label x ∧ s'.children x = s.children x) :
    s'.tree id = s.tree id := by
  induction id using linked.induction_below with
  | step id ih =>
    obtain ⟨label, children⟩ := same id (under_refl s id)
    rw [linked'.tree_eq, linked.tree_eq, label, children]
    congr 1
    apply List.map_congr_left
    intro child listed
    apply ih child listed
    intro x under
    exact same x (under.trans ((under_refl s id).step (linked.parent_of_mem listed)))

/-- A change below one node shows in the trees above it at that place only. -/
theorem inside_of_under (linked' : s'.Linked) {R : Tree Label → Tree Label → Prop}
    {place id : NodeId} (changed : R (s.tree place) (s'.tree place))
    (same : ∀ x, x < s.nodes.size → ¬ s.Under x place →
      s'.label x = s.label x ∧ s'.children x = s.children x)
    (under : s.Under place id) : Tree.Inside R (s.tree id) (s'.tree id) := by
  induction under with
  | refl => exact .here changed
  | @tail child parent below up ih =>
    have outside : ¬ s.Under parent place :=
      fun above => linked.not_under_child up (above.trans below)
    have stored := stored_of_child (linked.mem_of_parent up)
    obtain ⟨label, children⟩ := same parent stored outside
    obtain ⟨front, behind, whole, early, late⟩ := linked.exists_split up
    have beside : ∀ sibling ∈ s.children parent, sibling ≠ child →
        s'.tree sibling = s.tree sibling := by
      intro sibling listed different
      apply linked.tree_congr linked'
      intro x within
      apply same x (within.stored (linked.stored_of_mem listed))
      intro inner
      exact different (linked.eq_of_under_siblings (linked.parent_of_mem listed) up within
        (inner.trans below))
    have ahead : front.map s'.tree = front.map s.tree := by
      apply List.map_congr_left
      intro sibling listed
      exact beside sibling (by rw [whole]; exact List.mem_append_left _ listed)
        (fun eq => early (eq ▸ listed))
    have after : behind.map s'.tree = behind.map s.tree := by
      apply List.map_congr_left
      intro sibling listed
      exact beside sibling (by rw [whole]; exact List.mem_append_right _ (List.mem_cons_of_mem _ listed))
        (fun eq => late (eq ▸ listed))
    rw [linked'.tree_eq parent, linked.tree_eq parent, label, children, whole, List.map_append,
      List.map_cons, List.map_append, List.map_cons, ahead, after]
    exact .under _ _ _ ih

theorem tree_of_not_under (linked' : s'.Linked) {place id : NodeId} (stored : id < s.nodes.size)
    (top : s.parent id = none)
    (same : ∀ x, x < s.nodes.size → ¬ s.Under x place →
      s'.label x = s.label x ∧ s'.children x = s.children x)
    (apart : ¬ s.Under place id) : s'.tree id = s.tree id := by
  apply linked.tree_congr linked'
  intro x under
  apply same x (under.stored stored)
  intro inner
  rcases under_total inner under with below | above
  · exact apart below
  · exact apart (under_of_parent_eq_none top above ▸ under_refl s id)

end Linked

end Sheet

end NestLint
