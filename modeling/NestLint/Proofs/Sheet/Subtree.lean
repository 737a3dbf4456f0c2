import Mathlib.Data.List.Perm.Subperm
import NestLint.Proofs.Sheet.Laid

/-!
Subtrees and what hangs in them. A subtree lists exactly the nodes that stand below its root, each of
them once, so it is never larger than the store; a stack of nodes that are yet to be listed comes to the same
list. Nodes that hang in each other, one in the next, are not more than the tree of the root has nodes.
-/

namespace NestLint

namespace Tree

variable {α β : Type}

mutual
theorem size_map (f : α → β) (t : Tree α) : (t.map f).size = t.size := by
  cases t with
  | node a ts => rw [map, size, size, sizeAll_mapAll f ts]
theorem sizeAll_mapAll (f : α → β) (ts : List (Tree α)) : sizeAll (mapAll f ts) = sizeAll ts := by
  cases ts with
  | nil => rfl
  | cons t rest => rw [mapAll, sizeAll, sizeAll, size_map f t, sizeAll_mapAll f rest]
end

@[simp] theorem sizeAll_append (ts us : List (Tree α)) : sizeAll (ts ++ us) = sizeAll ts + sizeAll us := by
  induction ts with
  | nil => rw [List.nil_append, sizeAll, Nat.zero_add]
  | cons t rest ih => rw [List.cons_append, sizeAll, sizeAll, ih, Nat.add_assoc]

theorem preorderAll_map (f : β → Tree α) (xs : List β) :
    preorderAll (xs.map f) = xs.flatMap fun x => (f x).preorder := by
  induction xs with
  | nil => rfl
  | cons x rest ih => rw [List.map_cons, preorderAll, ih, List.flatMap_cons]

end Tree

namespace Sheet

theorem Linked.descendants_eq {s : Sheet} (linked : s.Linked) (id : NodeId) :
    s.descendants id = Tree.preorderAll ((s.children id).map s.shape) := by
  rw [descendants, linked.shape_eq]
  rfl

theorem Linked.under_iff_mem_descendants {s : Sheet} (linked : s.Linked) (x id : NodeId) :
    s.Under x id ↔ x = id ∨ x ∈ s.descendants id := by
  induction id using linked.induction_below with
  | step id ih =>
    constructor
    · intro under
      rcases Relation.ReflTransGen.cases_tail under with same | ⟨child, below, up⟩
      · exact Or.inl same.symm
      · right
        have listed := linked.mem_of_parent up
        rw [linked.descendants_eq, Tree.mem_preorderAll]
        refine ⟨s.shape child, List.mem_map_of_mem listed, ?_⟩
        rw [linked.shape_eq, Tree.preorder, ← linked.descendants_eq, List.mem_cons]
        exact (ih child listed).mp below
    · rintro (rfl | deeper)
      · exact under_refl s x
      · rw [linked.descendants_eq, Tree.mem_preorderAll] at deeper
        obtain ⟨t, isChild, inside⟩ := deeper
        obtain ⟨child, listed, rfl⟩ := List.mem_map.mp isChild
        rw [linked.shape_eq, Tree.preorder, ← linked.descendants_eq, List.mem_cons] at inside
        exact ((ih child listed).mpr inside).trans ((under_refl s id).step (linked.parent_of_mem listed))

theorem Linked.mem_descendants {s : Sheet} (linked : s.Linked) {x id : NodeId} (under : s.Under x id)
    (different : x ≠ id) : x ∈ s.descendants id :=
  ((linked.under_iff_mem_descendants x id).mp under).resolve_left different

theorem Under.to_same_above {s s' : Sheet} {id other : NodeId} (under : s.Under id other)
    (same : ∀ x, s.Under id x → s'.parent x = s.parent x) : s'.Under id other := by
  induction under using Relation.ReflTransGen.head_induction_on with
  | refl => exact under_refl s' other
  | @head child parent up _ ih =>
    refine (ih fun x above => same x (above.step up)).step ?_
    rw [same child (under_refl s child)]
    exact up

theorem Linked.size_tree_le {s : Sheet} (linked : s.Linked) {id other : NodeId} (under : s.Under id other) :
    (s.tree id).size ≤ (s.tree other).size := by
  induction under with
  | refl => exact Nat.le_refl _
  | @tail child parent _ up ih =>
    obtain ⟨front, behind, row, -⟩ := linked.exists_split up
    rw [linked.tree_eq parent, row, List.map_append, List.map_cons, Tree.size, Tree.sizeAll_append,
      Tree.sizeAll]
    omega

theorem Linked.preorder_shape {s : Sheet} (linked : s.Linked) (id : NodeId) :
    (s.shape id).preorder = id :: s.descendants id := by
  rw [descendants, linked.shape_eq]
  rfl

theorem Linked.mem_preorder_shape {s : Sheet} (linked : s.Linked) (x id : NodeId) :
    x ∈ (s.shape id).preorder ↔ s.Under x id := by
  rw [linked.preorder_shape, List.mem_cons, linked.under_iff_mem_descendants]

theorem Linked.nodup_preorder_shape {s : Sheet} (linked : s.Linked) (id : NodeId) :
    (s.shape id).preorder.Nodup := by
  induction id using linked.induction_below with
  | step id ih =>
    rw [linked.shape_eq, Tree.preorder, Tree.preorderAll_map, List.nodup_cons, List.nodup_flatMap]
    refine ⟨fun within => ?_, ih, (linked.nodup id).imp_of_mem fun {a b} listed listed' different => ?_⟩
    · obtain ⟨child, listed, below⟩ := List.mem_flatMap.mp within
      exact linked.not_under_child (linked.parent_of_mem listed) ((linked.mem_preorder_shape id child).mp below)
    · intro x below below'
      exact different (linked.eq_of_under_siblings (linked.parent_of_mem listed) (linked.parent_of_mem listed')
        ((linked.mem_preorder_shape x a).mp below) ((linked.mem_preorder_shape x b).mp below'))

theorem Linked.exists_parent_of_mem_descendants {s : Sheet} (linked : s.Linked) {x id : NodeId}
    (listed : x ∈ s.descendants id) : ∃ parent, s.parent x = some parent ∧ s.Under parent id := by
  have once := linked.nodup_preorder_shape id
  rw [linked.preorder_shape, List.nodup_cons] at once
  rcases under_iff.mp ((linked.under_iff_mem_descendants x id).mpr (Or.inr listed)) with rfl | above
  · exact absurd listed once.1
  · exact above

theorem Linked.size_tree_le_size {s : Sheet} (linked : s.Linked) {id : NodeId} (stored : id < s.nodes.size) :
    (s.tree id).size ≤ s.nodes.size := by
  have within : (s.shape id).preorder ⊆ List.range s.nodes.size := by
    intro x listed
    exact List.mem_range.mpr (((linked.mem_preorder_shape x id).mp listed).stored stored)
  calc
    (s.tree id).size = (s.shape id).preorder.length := by rw [Tree.length_preorder, tree, Tree.size_map]
    _ ≤ (List.range s.nodes.size).length := ((linked.nodup_preorder_shape id).subperm within).length_le
    _ = s.nodes.size := List.length_range

/-- The subtrees of a stack of nodes, listed turn by turn: the topmost node is taken off the stack, and its
children go on the stack in its place. -/
def unstack (s : Sheet) : Nat → List NodeId → List NodeId
  | 0, _ => []
  | _ + 1, [] => []
  | turns + 1, id :: stack => id :: unstack s turns (s.children id ++ stack)

theorem Linked.unstack_eq_preorderAll {s : Sheet} (linked : s.Linked) (turns : Nat) (stack : List NodeId)
    (enough : (Tree.preorderAll (stack.map s.shape)).length ≤ turns) :
    s.unstack turns stack = Tree.preorderAll (stack.map s.shape) := by
  induction turns generalizing stack with
  | zero =>
    rw [unstack]
    exact (List.length_eq_zero_iff.mp (Nat.le_zero.mp enough)).symm
  | succ turns ih =>
    cases stack with
    | nil => rfl
    | cons id stack =>
      -- What the stack holds after the turn is what it held before, without the node on top.
      have laidOn : Tree.preorderAll ((id :: stack).map s.shape) =
          id :: Tree.preorderAll ((s.children id ++ stack).map s.shape) := by
        rw [List.map_cons, Tree.preorderAll, linked.shape_eq, Tree.preorder, List.map_append]
        simp only [Tree.preorderAll_map, List.flatMap_append, List.cons_append, ← List.map_append]
      rw [laidOn, List.length_cons, Nat.succ_le_succ_iff] at enough
      rw [unstack, ih _ enough, laidOn]

/-- A stack of nodes lists everything below a node in document order, and is empty after as many turns as there
are nodes in store. -/
theorem Linked.unstack_eq_descendants {s : Sheet} (linked : s.Linked) (id : NodeId) {turns : Nat}
    (enough : s.nodes.size ≤ turns) : s.unstack turns (s.children id) = s.descendants id := by
  rw [linked.descendants_eq]
  apply linked.unstack_eq_preorderAll
  rw [← linked.descendants_eq]
  by_cases stored : id < s.nodes.size
  · have fewer := linked.size_tree_le_size stored
    rw [tree, Tree.size_map, ← Tree.length_preorder, linked.preorder_shape, List.length_cons] at fewer
    omega
  · rw [linked.descendants_eq, children_of_not_stored (Nat.le_of_not_lt stored)]
    exact Nat.zero_le turns

structure Stacked (s : Sheet) (ids : List NodeId) : Prop where
  inside : ∀ id ∈ ids, s.Under id root
  nested : ids.Pairwise fun id outer => id ≠ outer ∧ s.Under id outer

namespace Stacked

variable {s s' : Sheet} {id inner : NodeId} {ids : List NodeId}

theorem tail (stacked : s.Stacked (id :: ids)) : s.Stacked ids :=
  ⟨fun x listed => stacked.inside x (List.mem_cons_of_mem id listed), (List.pairwise_cons.mp stacked.nested).2⟩

theorem push (stacked : s.Stacked (id :: ids)) (linked : s.Linked) (under : s.Under inner id)
    (different : inner ≠ id) : s.Stacked (inner :: id :: ids) := by
  obtain ⟨innermost, -⟩ := List.pairwise_cons.mp stacked.nested
  have strictly : ∀ outer, s.Under id outer → inner ≠ outer := by
    rintro outer above rfl
    rcases under_iff.mp under with same | ⟨parent, up, higher⟩
    · exact different same
    · exact linked.not_under_child up (higher.trans above)
  refine ⟨?_, List.pairwise_cons.mpr ⟨?_, stacked.nested⟩⟩
  · intro x listed
    rcases List.mem_cons.mp listed with rfl | outer
    · exact under.trans (stacked.inside id List.mem_cons_self)
    · exact stacked.inside x outer
  · intro x listed
    have above : s.Under id x := by
      rcases List.mem_cons.mp listed with rfl | outer
      · exact under_refl s x
      · exact (innermost x outer).2
    exact ⟨strictly x above, under.trans above⟩

theorem of_same_above (stacked : s.Stacked (id :: ids))
    (same : ∀ x, s.Under id x → s'.parent x = s.parent x) : s'.Stacked (id :: ids) := by
  obtain ⟨innermost, -⟩ := List.pairwise_cons.mp stacked.nested
  have above : ∀ x ∈ id :: ids, ∀ y, s.Under x y → s'.Under x y := by
    intro x listed y under
    apply under.to_same_above
    intro z higher
    rcases List.mem_cons.mp listed with rfl | outer
    · exact same z higher
    · exact same z ((innermost x outer).2.trans higher)
  refine ⟨fun x listed => above x listed root (stacked.inside x listed), ?_⟩
  exact stacked.nested.imp_of_mem fun listed _ both => ⟨both.1, above _ listed _ both.2⟩

theorem length_le (stacked : s.Stacked ids) (linked : s.Linked) : ids.length ≤ (s.tree root).size := by
  have once : ids.Nodup := stacked.nested.imp fun both => both.1
  have within : ids ⊆ (s.shape root).preorder := by
    intro x listed
    exact (linked.mem_preorder_shape x root).mpr (stacked.inside x listed)
  calc
    ids.length ≤ (s.shape root).preorder.length := (once.subperm within).length_le
    _ = (s.tree root).size := by rw [Tree.length_preorder, tree, Tree.size_map]

end Stacked

end Sheet

end NestLint
