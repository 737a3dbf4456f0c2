import NestLint.Proofs.Nesting.Reporting

/-!
Whether two neighbours can be nested depends on kinds only: on their own, and on that of the first child of a
media block. So two sheets whose trees have the same kinds, whatever else is written in them and wherever
their nodes are stored, have the same pairs left to nest.
-/

namespace NestLint

namespace Sheet

variable {s s' : Sheet} {id id' : NodeId} (linked : s.Linked) (linked' : s'.Linked)

include linked linked'

theorem kind_of_kinds_eq (same : s.kinds id = s'.kinds id') : s.kind id = s'.kind id' := by
  rw [← linked.label_kinds, same, linked'.label_kinds]

theorem children_of_kinds_eq (same : s.kinds id = s'.kinds id') :
    (s.children id).map s.kinds = (s'.children id').map s'.kinds := by
  rw [linked.kinds_eq, linked'.kinds_eq] at same
  exact (Tree.node.inj same).2

theorem exists_row_of_kinds_eq (same : s.kinds id = s'.kinds id') {front behind : List NodeId} {a b : NodeId}
    (row : s.children id = front ++ a :: b :: behind) :
    ∃ front' a' b' behind', s'.children id' = front' ++ a' :: b' :: behind' ∧
      s.kinds a = s'.kinds a' ∧ s.kinds b = s'.kinds b' := by
  have rows := (children_of_kinds_eq linked linked' same).symm
  rw [row, List.map_append, List.map_cons, List.map_cons] at rows
  obtain ⟨front', rest, row', -, rows⟩ := List.map_eq_append_iff.mp rows
  obtain ⟨a', rest', rfl, sameA, rows⟩ := List.map_eq_cons_iff.mp rows
  obtain ⟨b', behind', rfl, sameB, -⟩ := List.map_eq_cons_iff.mp rows
  exact ⟨front', a', b', behind', row', sameA.symm, sameB.symm⟩

theorem exists_under_of_kinds_eq (same : s.kinds id = s'.kinds id') {x : NodeId} (under : s.Under x id) :
    ∃ x', s'.Under x' id' ∧ s.kinds x = s'.kinds x' := by
  induction under using Relation.ReflTransGen.head_induction_on with
  | refl => exact ⟨id', under_refl s' id', same⟩
  | @head x parent up _ ih =>
    obtain ⟨parent', below, sameParent⟩ := ih
    have listed := List.mem_map_of_mem (f := s.kinds) (linked.mem_of_parent up)
    rw [children_of_kinds_eq linked linked' sameParent] at listed
    obtain ⟨x', isChild, sameX⟩ := List.mem_map.mp listed
    exact ⟨x', below.step (linked'.parent_of_mem isChild), sameX.symm⟩

end Sheet

namespace Nesting

open Sheet

section pairs

variable {accepts : Text → Bool} {s s' : Sheet} {a b a' b' : NodeId} (linked : s.Linked) (linked' : s'.Linked)

include linked linked'

theorem mediaFirstRule?_of_kinds_eq (same : s.kinds a = s'.kinds a') :
    (mediaFirstRule? s a).map s.kind = (mediaFirstRule? s' a').map s'.kind := by
  have children := children_of_kinds_eq linked linked' same
  simp only [mediaFirstRule?, kind_of_kinds_eq linked linked' same, firstChild]
  split
  · cases row : s.children a with
    | nil =>
      rw [row, List.map_nil, eq_comm, List.map_eq_nil_iff] at children
      rw [children]
      rfl
    | cons c rest =>
      rw [row, List.map_cons, eq_comm] at children
      obtain ⟨c', rest', row', sameC, -⟩ := List.map_eq_cons_iff.mp children
      have kind := kind_of_kinds_eq linked linked' sameC.symm
      simp only [row', List.head?_cons, Option.bind_some, kind]
      split
      · exact congrArg some kind
      · rfl
  · rfl

theorem holds_of_kinds_eq (sameA : s.kinds a = s'.kinds a') (sameB : s.kinds b = s'.kinds b')
    (relation : Relation) : relation.holds accepts s a b = relation.holds accepts s' a' b' := by
  have kindA := kind_of_kinds_eq linked linked' sameA
  have kindB := kind_of_kinds_eq linked linked' sameB
  cases relation with
  | descendant => simp only [Relation.holds, ruleSelectors?, selectors?, selector?, kindA, kindB]
  | ancestor => simp only [Relation.holds, ruleSelectors?, selectors?, selector?, kindA, kindB]
  | media =>
    have media := mediaFirstRule?_of_kinds_eq linked linked' sameB
    simp only [Relation.holds, selector?, kindA]
    cases found : mediaFirstRule? s b with
    | none =>
      rw [found, Option.map_none, eq_comm, Option.map_eq_none_iff] at media
      rw [media]
      cases (s'.kind a').selector? <;> rfl
    | some c =>
      rw [found, Option.map_some, eq_comm, Option.map_eq_some_iff] at media
      obtain ⟨c', found', kind⟩ := media
      rw [found']
      cases (s'.kind a').selector? with
      | none => rfl
      | some selector => simp only [kind]

end pairs

/-- No node has a match with the sibling before it. -/
def Finished (accepts : Text → Bool) (s : Sheet) : Prop :=
  ∀ node ∈ s.descendants root, matchAt accepts s node = none

section finished

variable {accepts : Text → Bool} {s s' : Sheet}

theorem Finished.of_kinds_eq (linked : s.Linked) (linked' : s'.Linked) (same : s.kinds root = s'.kinds root)
    (finished : Finished accepts s) : Finished accepts s' := by
  intro node' listed'
  cases isPrev : s'.prev? node' with
  | none => rw [matchAt, isPrev, Option.bind_none]
  | some prev' =>
    obtain ⟨place', front', behind', up', row'⟩ := row_of_prev? isPrev
    have inside' : s'.Under place' root := by
      obtain ⟨parent', up, inside⟩ := linked'.exists_parent_of_mem_descendants listed'
      exact Option.some.inj (up.symm.trans up') ▸ inside
    obtain ⟨place, inside, samePlace⟩ := exists_under_of_kinds_eq linked' linked same.symm inside'
    obtain ⟨front, prev, node, behind, row, samePrev, sameNode⟩ :=
      exists_row_of_kinds_eq linked' linked samePlace row'
    have up : s.parent node = some place := linked.parent_of_mem (by rw [row]; simp)
    have listed : node ∈ s.descendants root := linked.mem_descendants (inside.step up)
      (linked.ne_of_under_child up (under_refl s node) inside)
    have never := (matchAt_eq_none_iff linked row).mp (finished node listed)
    rw [matchAt_eq_none_iff linked' row', kind_of_kinds_eq linked' linked samePrev,
      kind_of_kinds_eq linked' linked sameNode]
    intro ruleLike ruleLikePrev relation
    rw [holds_of_kinds_eq linked' linked sameNode samePrev, holds_of_kinds_eq linked' linked samePrev sameNode]
    exact never ruleLike ruleLikePrev relation

end finished

end Nesting

end NestLint
