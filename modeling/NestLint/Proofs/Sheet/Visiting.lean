import NestLint.Proofs.Nesting.Termination

/-!
Walks over a sheet that stays as it is. The open containers say what is still ahead: what each of them has
left, the innermost first, every node before what hangs in it. As long as no visit changes the sheet, a
step either leaves a container or visits the first node that is ahead, so a whole walk visits everything
below the root once, in document order.
-/

namespace NestLint

namespace Sheet

open Nesting (work workAll weight weight_leave weight_enter)

variable {s : Sheet} {cursor : Cursor} {outer : List Cursor} {child : NodeId}

/-- The nodes that a walk with these open containers still comes by, in the order of its visits. -/
def ahead (s : Sheet) (opened : List Cursor) : List NodeId :=
  opened.flatMap fun cursor =>
    Tree.preorderAll (((s.children cursor.container).drop cursor.next).map s.shape)

def afterVisit (s : Sheet) (cursor : Cursor) (outer : List Cursor) (child : NodeId) : List Cursor :=
  (if (s.children child).isEmpty then [] else [⟨child, 0⟩]) ++
    { cursor with next := cursor.next + 1 } :: outer

theorem Linked.ahead_root (linked : s.Linked) : s.ahead [⟨root, 0⟩] = s.descendants root := by
  rw [ahead, List.flatMap_singleton, descendants, linked.shape_eq root]
  rfl

theorem ahead_leave (next : (s.children cursor.container)[cursor.next]? = none) :
    s.ahead (cursor :: outer) = s.ahead outer := by
  have nothing : (s.children cursor.container).drop cursor.next = [] :=
    List.drop_eq_nil_of_le (List.getElem?_eq_none_iff.mp next)
  rw [ahead, List.flatMap_cons, nothing]
  rfl

theorem Linked.ahead_visit (linked : s.Linked)
    (next : (s.children cursor.container)[cursor.next]? = some child) :
    s.ahead (cursor :: outer) = child :: s.ahead (s.afterVisit cursor outer child) := by
  obtain ⟨inside, isChild⟩ := List.getElem?_eq_some_iff.mp next
  have inner : s.ahead (if (s.children child).isEmpty then [] else [⟨child, 0⟩]) =
      Tree.preorderAll ((s.children child).map s.shape) := by
    split
    next empty =>
      rw [List.isEmpty_iff.mp empty]
      rfl
    next => rw [ahead, List.flatMap_singleton, List.drop_zero]
  rw [ahead, List.flatMap_cons, List.drop_eq_getElem_cons inside, isChild, List.map_cons,
    Tree.preorderAll, linked.shape_eq child, Tree.preorder, ← inner]
  simp only [ahead, afterVisit, List.flatMap_append, List.flatMap_cons, List.cons_append,
    List.append_assoc]

theorem workAll_leave (s : Sheet) (cursor : Cursor) (outer : List Cursor) :
    workAll s outer < workAll s (cursor :: outer) := by
  have lighter := weight_leave 0 s cursor outer
  rw [weight, weight] at lighter
  omega

theorem Linked.workAll_afterVisit (linked : s.Linked)
    (next : (s.children cursor.container)[cursor.next]? = some child) :
    workAll s (s.afterVisit cursor outer child) < workAll s (cursor :: outer) := by
  have lighter := weight_enter linked next 0 outer
  rw [weight, weight] at lighter
  rw [afterVisit]
  omega

section steps

variable {σ : Type}

/-- What one step of a walk does: it leaves a container that has nothing ahead, or it visits the first
node that is ahead, and goes on behind it unless the visit has changed the sheet. -/
theorem Linked.walkStep_cases (linked : s.Linked) (visitor : Visitor σ) (memory : σ) (cursor : Cursor)
    (outer rest : List Cursor) :
    (walkStep visitor ({ s with cursors := cursor :: (outer ++ rest) }, memory) =
        ({ s with cursors := outer ++ rest }, memory) ∧ s.ahead (cursor :: outer) = s.ahead outer ∧
      workAll s outer < workAll s (cursor :: outer)) ∨
    ∃ child stack opened, s.ahead (cursor :: outer) = child :: s.ahead opened ∧
      workAll s opened < workAll s (cursor :: outer) ∧
      (walkStep visitor ({ s with cursors := cursor :: (outer ++ rest) }, memory)).2 =
        (visitor child ({ s with cursors := stack }, memory)).2 ∧
      ∀ memory', visitor child ({ s with cursors := stack }, memory) =
          ({ s with cursors := stack }, memory') →
        walkStep visitor ({ s with cursors := cursor :: (outer ++ rest) }, memory) =
          ({ s with cursors := opened ++ rest }, memory') := by
  cases next : (s.children cursor.container)[cursor.next]? with
  | none =>
    exact Or.inl ⟨walkStep_of_none visitor memory rfl next, ahead_leave next, workAll_leave s cursor outer⟩
  | some child =>
    have step := walkStep_of_some visitor memory (s := { s with cursors := cursor :: (outer ++ rest) })
      rfl next rfl
    refine Or.inr ⟨child, { cursor with next := cursor.next + 1 } :: (outer ++ rest),
      s.afterVisit cursor outer child, linked.ahead_visit next, linked.workAll_afterVisit next, ?_,
      fun memory' still => ?_⟩
    · rw [step]
    · rw [step, still]
      change (if (s.children child).isEmpty then _ else _, memory') = _
      rw [afterVisit]
      split <;> rfl

theorem Linked.walkSteps_still (linked : s.Linked) {visitor : Visitor σ} {look : NodeId → σ → σ}
    {P : σ → Prop}
    (still : ∀ node cursors memory, P memory → visitor node ({ s with cursors := cursors }, memory) =
      ({ s with cursors := cursors }, look node memory) ∧ P (look node memory))
    (rest : List Cursor) {opened : List Cursor} {steps : Nat} {memory : σ} (holds : P memory)
    (enough : workAll s opened ≤ steps) :
    walkSteps visitor rest.length steps ({ s with cursors := opened ++ rest }, memory) =
      ({ s with cursors := rest }, (s.ahead opened).foldl (fun memory node => look node memory) memory) := by
  induction steps generalizing opened memory with
  | zero =>
    cases opened with
    | nil => rfl
    | cons cursor outer =>
      have more := workAll_leave s cursor outer
      omega
  | succ steps ih =>
    rw [walkSteps]
    cases opened with
    | nil => exact if_pos (Nat.le_refl rest.length)
    | cons cursor outer =>
      rw [if_neg (by simp only [List.cons_append, List.length_cons, List.length_append]; omega)]
      rcases linked.walkStep_cases visitor memory cursor outer rest with
        ⟨step, same, less⟩ | ⟨child, stack, opened, next, less, -, step⟩
      · rw [List.cons_append, step, ih holds (by omega), same]
      · obtain ⟨quiet, kept⟩ := still child stack memory holds
        rw [List.cons_append, step _ quiet, ih kept (by omega), next, List.foldl_cons]

end steps

theorem WellFormed.workAll_le_stepBound (formed : s.WellFormed) :
    workAll s [⟨root, 0⟩] ≤ Nesting.stepBound s := by
  have most : work s ⟨root, 0⟩ ≤ 2 * (s.tree root).size := Nesting.work_le formed.linked ⟨root, 0⟩
  have few := formed.linked.size_tree_le_size formed.root_stored
  have room : 2 * s.nodes.size ≤ Nat.pow (s.nodes.size + 2) 6 := by
    rw [Nat.pow_eq]
    generalize s.nodes.size = n
    have expand : (n + 2) ^ 6 = 2 * n +
        (n ^ 6 + 12 * n ^ 5 + 60 * n ^ 4 + 160 * n ^ 3 + 240 * n ^ 2 + 190 * n + 64) := by ring
    omega
  rw [workAll, List.map_singleton, List.sum_singleton, Nesting.stepBound]
  omega

end Sheet

end NestLint
