import Mathlib.Data.List.Flatten
import NestLint.Proofs.Sheet.Scripted
import NestLint.Proofs.Sheet.Visiting

/-!
Walks whose script only takes nodes away. Whatever nodes a visit takes away, every row of children and all that
an open container has still to visit keeps the nodes that still have a parent, in their order. So what is ahead
of the walk only gets shorter, and a node drops out of it only below a node that has been taken away before its
own visit. With that the walk ends, visits no node twice and keeps to document order.
-/

namespace NestLint

namespace Sheet

def below (s : Sheet) (row : List NodeId) : List NodeId := row.flatMap fun id => (s.shape id).preorder

def hangs (s : Sheet) (id : NodeId) : Bool := (s.parent id).isSome

/-- A sheet from which nodes have been taken away: every row keeps the nodes that still hang somewhere. -/
structure Pruned (s s' : Sheet) (shift : Cursor → Cursor) : Prop where
  formed : s'.WellFormed
  cursors : s'.cursors = s.cursors.map shift
  children : ∀ id, s'.children id = (s.children id).filter s'.hangs
  waiting : ∀ cursor, s'.waiting (shift cursor) = (s.waiting cursor).filter s'.hangs

section hangs

variable {s : Sheet} (linked : s.Linked)

include linked

theorem Linked.hangs_of_mem {id parent : NodeId} (listed : id ∈ s.children parent) : s.hangs id = true := by
  rw [hangs, linked.parent_of_mem listed]
  rfl

theorem Linked.parent_of_waiting {id : NodeId} {cursor : Cursor} (waits : id ∈ s.waiting cursor) :
    s.parent id = some cursor.container := linked.parent_of_mem (List.mem_of_mem_drop waits)

theorem Linked.erase_eq_filter_hangs {row : List NodeId} (once : row.Nodup) {parent : NodeId}
    (up : ∀ child ∈ row, s.parent child = some parent) (id : NodeId) :
    row.erase id = row.filter (s.remove id).hangs := by
  rw [once.erase_eq_filter]
  apply List.filter_congr
  intro child listed
  rw [hangs, linked.parent_remove, up child listed]
  by_cases same : child = id <;> simp [same]

theorem Linked.empty_eq_filter_hangs {row : List NodeId} {parent : NodeId}
    (up : ∀ child ∈ row, s.parent child = some parent) (id : NodeId) :
    (if parent = id then [] else row) = row.filter (s.removeAll id).hangs := by
  have gone : ∀ child ∈ row, (s.removeAll id).hangs child = decide (parent ≠ id) := by
    intro child listed
    have isChild : child ∈ s.children id ↔ parent = id := by
      rw [← linked.parent_iff, up child listed, Option.some.injEq]
    rw [hangs, parent_removeAll, up child listed]
    by_cases here : parent = id <;> simp [isChild, here]
  rw [List.filter_congr gone]
  split
  next here => simp [here]
  next other => simp [other]

end hangs

section edits

variable {s s' s'' : Sheet}

theorem WellFormed.pruned_refl (formed : s.WellFormed) : Pruned s s id where
  formed := formed
  cursors := (List.map_id _).symm
  children _ := (List.filter_eq_self.mpr fun _ listed => formed.linked.hangs_of_mem listed).symm
  waiting _ := (List.filter_eq_self.mpr fun _ waits =>
    formed.linked.hangs_of_mem (List.mem_of_mem_drop waits)).symm

theorem WellFormed.pruned_remove (formed : s.WellFormed) (id : NodeId) :
    Pruned s (s.remove id) (s.shiftWithout id) where
  formed := formed.remove id
  cursors := cursors_remove s id
  children parent := by
    rw [formed.linked.children_remove]
    exact formed.linked.erase_eq_filter_hangs (formed.linked.nodup parent)
      (fun _ listed => formed.linked.parent_of_mem listed) id
  waiting cursor := by
    rw [formed.linked.paired.waiting_remove]
    exact formed.linked.erase_eq_filter_hangs (formed.linked.nodup cursor.container).drop
      (fun _ waits => formed.linked.parent_of_waiting waits) id

theorem WellFormed.pruned_removeAll (formed : s.WellFormed) (id : NodeId) :
    Pruned s (s.removeAll id) fun cursor => cursor where
  formed := formed.removeAll id
  cursors := (cursors_removeAll s id).trans (List.map_id _).symm
  children parent := by
    rw [children_removeAll]
    exact formed.linked.empty_eq_filter_hangs (fun _ listed => formed.linked.parent_of_mem listed) id
  waiting cursor := by
    rw [waiting_removeAll]
    exact formed.linked.empty_eq_filter_hangs (fun _ waits => formed.linked.parent_of_waiting waits) id

namespace Pruned

variable {shift shift' : Cursor → Cursor}

theorem parent_cases (pruned : Pruned s s' shift) (linked : s.Linked) (id : NodeId) :
    s'.parent id = none ∨ s'.parent id = s.parent id := by
  cases up : s'.parent id with
  | none => exact Or.inl rfl
  | some parent =>
    have listed := pruned.formed.linked.mem_of_parent up
    rw [pruned.children] at listed
    exact Or.inr (linked.parent_of_mem (List.mem_of_mem_filter listed)).symm

theorem hangs_and (pruned : Pruned s s' shift) (linked : s.Linked) (id : NodeId) :
    (s'.hangs id && s.hangs id) = s'.hangs id := by
  rcases pruned.parent_cases linked id with gone | same
  · rw [hangs, gone]
    rfl
  · rw [hangs, hangs, same, Bool.and_self]

theorem trans (first : Pruned s s' shift) (second : Pruned s' s'' shift') :
    Pruned s s'' (shift' ∘ shift) where
  formed := second.formed
  cursors := by rw [second.cursors, first.cursors, List.map_map]
  children id := by
    rw [second.children, first.children, List.filter_filter]
    exact List.filter_congr fun child _ => second.hangs_and first.formed.linked child
  waiting cursor := by
    rw [Function.comp_apply, second.waiting, first.waiting, List.filter_filter]
    exact List.filter_congr fun child _ => second.hangs_and first.formed.linked child

end Pruned

theorem WellFormed.pruned_apply (formed : s.WellFormed) {edit : Edit} (removal : edit.isRemoval = true) :
    Pruned s (edit.apply s) (edit.shift s) := by
  cases edit with
  | create kind => cases removal
  | append parent child => cases removal
  | remove id => exact formed.pruned_remove id
  | removeAll id => exact formed.pruned_removeAll id

theorem WellFormed.pruned_edited (formed : s.WellFormed) {edits : List Edit}
    (removals : ∀ edit ∈ edits, edit.isRemoval = true) : ∃ shift, Pruned s (s.edited edits) shift := by
  induction edits generalizing s with
  | nil => exact ⟨id, formed.pruned_refl⟩
  | cons edit rest ih =>
    obtain ⟨isRemoval, others⟩ := List.forall_mem_cons.mp removals
    have first := formed.pruned_apply isRemoval
    obtain ⟨shift, second⟩ := ih first.formed others
    exact ⟨_, first.trans second⟩

end edits

section below

variable {s s' : Sheet} {shift : Cursor → Cursor}

theorem ahead_eq_below (s : Sheet) (opened : List Cursor) : s.ahead opened = s.below (opened.flatMap s.waiting) := by
  rw [ahead, below, List.flatMap_assoc]
  exact List.flatMap_congr fun cursor _ => Tree.preorderAll_map s.shape _

theorem below_of_nodes_eq (same : s'.nodes = s.nodes) (row : List NodeId) : s'.below row = s.below row :=
  List.flatMap_congr fun id _ => by rw [shape_of_nodes_eq same]

theorem Linked.below_cons (linked : s.Linked) (id : NodeId) (row : List NodeId) :
    s.below (id :: row) = id :: s.below (s.children id ++ row) := by
  rw [below, List.flatMap_cons, linked.shape_eq, Tree.preorder, Tree.preorderAll_map, below,
    List.flatMap_append, List.cons_append]

theorem Linked.mem_below (linked : s.Linked) {x : NodeId} {row : List NodeId} :
    x ∈ s.below row ↔ ∃ id ∈ row, s.Under x id := by
  simp only [below, List.mem_flatMap, linked.mem_preorder_shape]

namespace Pruned

variable (pruned : Pruned s s' shift) (linked : s.Linked)

include pruned linked

theorem preorder_sublist (id : NodeId) : (s'.shape id).preorder.Sublist (s.shape id).preorder := by
  induction id using linked.induction_below with
  | step id ih =>
    rw [pruned.formed.linked.shape_eq, linked.shape_eq, Tree.preorder, Tree.preorder, Tree.preorderAll_map,
      Tree.preorderAll_map, pruned.children]
    refine List.Sublist.cons_cons id ?_
    exact (List.Sublist.flatMap_right _ fun child listed => ih child (List.mem_of_mem_filter listed)).trans
      (List.filter_sublist.flatMap _)

theorem below_sublist (row : List NodeId) : (s'.below (row.filter s'.hangs)).Sublist (s.below row) :=
  (List.Sublist.flatMap_right _ fun child _ => pruned.preorder_sublist linked child).trans
    (List.filter_sublist.flatMap _)

theorem under {x id : NodeId} (inside : s'.Under x id) : s.Under x id := by
  induction inside using Relation.ReflTransGen.head_induction_on with
  | refl => exact under_refl s id
  | @head child parent up _ ih =>
    rcases pruned.parent_cases linked child with gone | same
    · rw [gone] at up
      cases up
    · exact ih.step (same ▸ up)

theorem under_or_cut {x id : NodeId} (inside : s.Under x id) :
    s'.Under x id ∨ ∃ cut, s.Under x cut ∧ s.Under cut id ∧ s'.parent cut = none := by
  induction inside using Relation.ReflTransGen.head_induction_on with
  | refl => exact Or.inl (under_refl s' id)
  | @head child parent up higher ih =>
    rcases pruned.parent_cases linked child with gone | same
    · exact Or.inr ⟨child, under_refl s child, Relation.ReflTransGen.head up higher, gone⟩
    · rcases ih with still | ⟨cut, beneath, within, gone⟩
      · exact Or.inl (still.step (same.trans up))
      · exact Or.inr ⟨cut, beneath.step up, within, gone⟩

theorem exists_cut {x : NodeId} {row : List NodeId} (before : x ∈ s.below row)
    (after : x ∉ s'.below (row.filter s'.hangs)) : ∃ cut ∈ s.below row, s.Under x cut ∧ s'.parent cut = none := by
  obtain ⟨id, listed, under⟩ := linked.mem_below.mp before
  rcases pruned.under_or_cut linked under with still | ⟨cut, beneath, inside, gone⟩
  · cases up : s'.parent id with
    | none => exact ⟨id, linked.mem_below.mpr ⟨id, listed, under_refl s id⟩, under, up⟩
    | some parent =>
      have kept : id ∈ row.filter s'.hangs := List.mem_filter.mpr ⟨listed, by rw [hangs, up]; rfl⟩
      exact absurd (pruned.formed.linked.mem_below.mpr ⟨id, kept, still⟩) after
  · exact ⟨cut, linked.mem_below.mpr ⟨id, listed, inside⟩, beneath, gone⟩

end Pruned

end below

/-- The node has lost its parent in a visit, and had not been visited up to then. -/
def TakenFirst (visits : List Visit) (id : NodeId) : Prop :=
  ∃ before visit after, visits = before ++ visit :: after ∧ visit.left.parent id = none ∧
    id ∉ (before ++ [visit]).map Visit.node

theorem takenFirst_cons_of_gone {visit : Visit} {id : NodeId} (gone : visit.left.parent id = none)
    (other : id ≠ visit.node) (later : List Visit) : TakenFirst (visit :: later) id :=
  ⟨[], visit, later, rfl, gone, by simpa using other⟩

theorem TakenFirst.cons {later : List Visit} {id : NodeId} (taken : TakenFirst later id) {visit : Visit}
    (other : id ≠ visit.node) : TakenFirst (visit :: later) id := by
  obtain ⟨before, last, after, rfl, gone, unseen⟩ := taken
  refine ⟨visit :: before, last, after, rfl, gone, ?_⟩
  rw [List.cons_append, List.map_cons, List.mem_cons]
  exact fun seen => seen.elim other unseen

/-- The visits come by the nodes in order, and leave out only what hangs in a node taken first. -/
structure Swept (s : Sheet) (ids : List NodeId) (visits : List Visit) : Prop where
  inOrder : (visits.map Visit.node).Sublist ids
  taken : ∀ x ∈ ids, x ∉ visits.map Visit.node → ∃ above ∈ ids, s.Under x above ∧ TakenFirst visits above

/-- What is ahead after a visit that takes nodes away is what was ahead, without what hangs in those nodes. -/
structure Visit.Thins (visit : Visit) (ids left : List NodeId) : Prop where
  fewer : left.Sublist ids
  lost : ∀ x ∈ ids, x ∉ left → ∃ cut ∈ ids, visit.found.Under x cut ∧ visit.left.parent cut = none
  under : ∀ x id, visit.left.Under x id → visit.found.Under x id

theorem Visit.Thins.swept {visit : Visit} {ids left : List NodeId} {later : List Visit}
    (thins : visit.Thins ids left) (once : visit.node ∉ ids) (swept : visit.left.Swept left later) :
    visit.found.Swept (visit.node :: ids) (visit :: later) where
  inOrder := (swept.inOrder.trans thins.fewer).cons_cons visit.node
  taken x listed unseen := by
    rw [List.map_cons, List.mem_cons, not_or] at unseen
    have waits : x ∈ ids := (List.mem_cons.mp listed).resolve_left unseen.1
    have other : ∀ id ∈ ids, id ≠ visit.node := fun id isAhead same => once (same ▸ isAhead)
    by_cases kept : x ∈ left
    · obtain ⟨above, isAhead, beneath, taken⟩ := swept.taken x kept unseen.2
      have stood := thins.fewer.subset isAhead
      exact ⟨above, List.mem_cons_of_mem _ stood, thins.under x above beneath, taken.cons (other above stood)⟩
    · obtain ⟨cut, isAhead, beneath, gone⟩ := thins.lost x waits kept
      exact ⟨cut, List.mem_cons_of_mem _ isAhead, beneath, takenFirst_cons_of_gone gone (other cut isAhead) later⟩

theorem Swept.of_nodes_eq {s s' : Sheet} {ids : List NodeId} {visits : List Visit} (swept : s.Swept ids visits)
    (same : s'.nodes = s.nodes) : s'.Swept ids visits where
  inOrder := swept.inOrder
  taken x listed unseen := by
    obtain ⟨above, isAhead, beneath, taken⟩ := swept.taken x listed unseen
    exact ⟨above, isAhead, (under_of_nodes_eq same x above).mpr beneath, taken⟩

section walk

variable {σ : Type} {script : Script σ} {s : Sheet} {rest : List Cursor}

theorem ahead_of_nodes_eq {s' : Sheet} (same : s'.nodes = s.nodes) (opened : List Cursor) :
    s'.ahead opened = s.ahead opened := by
  rw [ahead_eq_below, ahead_eq_below, below_of_nodes_eq same, funext (waiting_of_nodes_eq same)]

theorem Linked.ahead_of_next (linked : s.Linked) {cursor : Cursor} {child : NodeId}
    (next : (s.children cursor.container)[cursor.next]? = some child) (outer : List Cursor) :
    s.ahead (cursor :: outer) = child ::
      s.below (s.children child ++ ({ cursor with next := cursor.next + 1 } :: outer).flatMap s.waiting) := by
  rw [ahead_eq_below, List.flatMap_cons, waiting_of_next next, List.cons_append, linked.below_cons,
    List.flatMap_cons]

theorem Pruned.thins {visit : Visit} {shift : Cursor → Cursor} (pruned : Pruned visit.found visit.left shift)
    (linked : visit.found.Linked) (opened : List Cursor) :
    visit.Thins (visit.found.below (visit.found.children visit.node ++ opened.flatMap visit.found.waiting))
      (visit.left.ahead (visit.left.entered visit.node ++ opened.map shift)) := by
  have row : (opened.map shift).flatMap visit.left.waiting =
      (opened.flatMap visit.found.waiting).filter visit.left.hangs := by
    rw [List.flatMap_map, List.filter_flatMap]
    exact List.flatMap_congr fun cursor _ => pruned.waiting cursor
  rw [ahead_eq_below, List.flatMap_append, flatMap_waiting_entered, pruned.children, row, ← List.filter_append]
  exact ⟨pruned.below_sublist linked _, fun x before after => pruned.exists_cut linked before after,
    fun x id inside => pruned.under linked inside⟩

theorem Visit.thins {visit : Visit} (formed : visit.found.WellFormed)
    (removals : ∀ edit ∈ visit.edits, edit.isRemoval = true) {cursor : Cursor} {outer : List Cursor}
    (cursors : visit.found.cursors = { cursor with next := cursor.next + 1 } :: (outer ++ rest))
    (next : (visit.found.children cursor.container)[cursor.next]? = some visit.node)
    (entered : s.cursors = visit.left.entered visit.node ++ visit.left.cursors)
    (same : s.nodes = visit.left.nodes) :
    ∃ opened rest' ids, s.cursors = opened ++ rest' ∧ rest'.length = rest.length ∧
      opened.length ≤ outer.length + 2 ∧ visit.found.ahead (cursor :: outer) = visit.node :: ids ∧
      s.WellFormed ∧ visit.Thins ids (s.ahead opened) := by
  obtain ⟨shift, pruned⟩ : ∃ shift, Pruned visit.found visit.left shift := formed.pruned_edited removals
  refine ⟨visit.left.entered visit.node ++ ({ cursor with next := cursor.next + 1 } :: outer).map shift,
    rest.map shift, _, ?_, List.length_map _, ?_, formed.linked.ahead_of_next next outer,
    pruned.formed.of_nodes_eq same, ?_⟩
  · rw [entered, pruned.cursors, cursors, List.map_cons, List.map_append, List.map_cons, List.append_assoc,
      List.cons_append]
  · have atMost : (visit.left.entered visit.node).length ≤ 1 := by
      unfold Sheet.entered
      split <;> simp
    rw [List.length_append, List.length_map, List.length_cons]
    omega
  · rw [ahead_of_nodes_eq same]
    exact pruned.thins formed.linked _

def Script.OnlyRemoves (script : Script σ) : Prop :=
  ∀ node state, ∀ edit ∈ (script node state).1, edit.isRemoval = true

def Script.Sweeps (script : Script σ) (base bound : Nat) (s : Sheet) (memory : σ) (visits : List Visit)
    (ids : List NodeId) : Prop :=
  ∃ s' memory' later, s'.cursors.length = base ∧ s.Swept ids later ∧
    ∀ steps, bound ≤ steps →
      walkSteps script.visitor base steps (s, memory, visits) = (s', memory', visits ++ later)

section sweeps

variable {base bound : Nat} {memory : σ} {visits : List Visit}

theorem Script.sweeps_of_ended (script : Script σ) (bound : Nat) (memory : σ) (visits : List Visit)
    (ended : s.cursors.length = base) : script.Sweeps base bound s memory visits [] := by
  refine ⟨s, memory, [], ended, ⟨List.Sublist.refl _, fun x listed => absurd listed List.not_mem_nil⟩, ?_⟩
  intro steps _
  rw [List.append_nil, walkSteps_of_le (Nat.le_of_eq ended)]

theorem Script.Sweeps.step {t : Sheet} {memory' : σ} {visits' now : List Visit} {ids left : List NodeId}
    (sweeps : script.Sweeps base bound t memory' visits' left) (goes : base < s.cursors.length)
    (stepped : walkStep script.visitor (s, memory, visits) = (t, memory', visits'))
    (recorded : visits' = visits ++ now) (onward : ∀ later, t.Swept left later → s.Swept ids (now ++ later)) :
    script.Sweeps base (bound + 1) s memory visits ids := by
  obtain ⟨s', memory'', later, ended, swept, walked⟩ := sweeps
  refine ⟨s', memory'', now ++ later, ended, onward later swept, fun steps many => ?_⟩
  obtain ⟨fewer, rfl⟩ : ∃ fewer, steps = fewer + 1 := ⟨steps - 1, by omega⟩
  rw [walkSteps, if_neg (Nat.not_le.mpr goes), stepped, walked fewer (by omega), recorded, List.append_assoc]

end sweeps

theorem WellFormed.sweeps (removes : script.OnlyRemoves) (bound : Nat) (formed : s.WellFormed)
    {opened : List Cursor} (cursors : s.cursors = opened ++ rest) (once : (s.ahead opened).Nodup)
    (enough : 2 * (s.ahead opened).length + opened.length ≤ bound) (memory : σ) (visits : List Visit) :
    script.Sweeps rest.length bound s memory visits (s.ahead opened) := by
  -- A visit takes one node from what is ahead and opens at most one container, so that twice the nodes ahead and
  -- the open containers together get less with every step.
  induction bound using Nat.strong_induction_on generalizing s opened rest memory visits with
  | _ bound ih =>
    cases opened with
    | nil => exact script.sweeps_of_ended bound memory visits (congrArg List.length cursors)
    | cons cursor outer =>
      rw [List.length_cons] at enough
      obtain ⟨less, rfl⟩ : ∃ less, bound = less + 1 := ⟨bound - 1, by omega⟩
      have goes : rest.length < s.cursors.length := by
        rw [cursors, List.length_append, List.length_cons]
        omega
      cases next : (s.children cursor.container)[cursor.next]? with
      | none =>
        obtain ⟨t, isLeft⟩ : ∃ t : Sheet, t = { s with cursors := outer ++ rest } := ⟨_, rfl⟩
        have step := walkStep_of_none script.visitor (memory, visits) cursors next
        have same : t.nodes = s.nodes := by rw [isLeft]
        have left : s.ahead (cursor :: outer) = t.ahead outer :=
          (ahead_leave next).trans (ahead_of_nodes_eq same outer).symm
        change walkStep _ _ = ({ s with cursors := outer ++ rest }, memory, visits) at step
        rw [← isLeft] at step
        rw [left] at once enough ⊢
        have walked := ih less (Nat.lt_succ_self less) (formed.of_nodes_eq same) (by rw [isLeft]) once (by omega)
          memory visits
        exact walked.step goes step (List.append_nil visits).symm fun later swept => swept.of_nodes_eq same.symm
      | some child =>
        obtain ⟨found, isFound⟩ : ∃ found : Sheet,
          found = { s with cursors := { cursor with next := cursor.next + 1 } :: (outer ++ rest) } := ⟨_, rfl⟩
        obtain ⟨visit, isVisit⟩ : ∃ visit, visit = script.visit child found memory := ⟨_, rfl⟩
        have step := script.walkStep_visitor cursors next memory visits isFound isVisit
        have same : visit.found.nodes = s.nodes := by rw [isVisit, Script.visit, isFound]
        obtain ⟨opened, rest', ids, isOpen, sameBase, few, isNext, formed', thins⟩ := Visit.thins
          (s := if (visit.left.children child).isEmpty then visit.left else visit.left.enter child)
          (formed.of_nodes_eq same) (by rw [isVisit]; exact removes child _) (by rw [isVisit, Script.visit, isFound])
          (by rw [isVisit, Script.visit, children_of_nodes_eq (by rw [isFound])]; exact next)
          (by rw [isVisit]; exact cursors_enter_unless _ child) (nodes_enter_unless visit.left child)
        rw [ahead_of_nodes_eq same] at isNext
        rw [isNext] at once enough ⊢
        obtain ⟨fresh, once⟩ := List.nodup_cons.mp once
        have shorter := thins.fewer.length_le
        rw [List.length_cons] at enough
        have walked := ih less (Nat.lt_succ_self less) formed' isOpen (thins.fewer.nodup once) (by omega)
          (script child (found, memory)).2 (visits ++ [visit])
        rw [sameBase] at walked
        exact walked.step goes step rfl fun later swept => (thins.swept fresh
          (swept.of_nodes_eq (nodes_enter_unless visit.left child).symm)).of_nodes_eq same.symm

/-- A walk whose script takes away whatever nodes it likes comes to an end. It visits no node twice, it keeps to
the document order of the sheet that it set out on, and it leaves out a node only if that node, or one above it,
was taken away before its own visit. -/
theorem walk_of_removals (formed : s.WellFormed) (removes : script.OnlyRemoves) (memory : σ) :
    ∃ s' memory' visits,
      (∀ steps, 2 * (s.descendants root).length < steps →
        walk script.visitor steps (s, memory, []) = (s', memory', visits)) ∧
      s'.cursors.length = s.cursors.length ∧
      (visits.map Visit.node).Nodup ∧
      (visits.map Visit.node).Sublist (s.descendants root) ∧
      ∀ x ∈ s.descendants root, x ∉ visits.map Visit.node →
        ∃ above ∈ s.descendants root, s.Under x above ∧ TakenFirst visits above := by
  have same : (s.enter root).nodes = s.nodes := rfl
  have ahead : (s.enter root).ahead [⟨root, 0⟩] = s.descendants root :=
    (ahead_of_nodes_eq same [⟨root, 0⟩]).trans formed.linked.ahead_root
  have once : (s.descendants root).Nodup := by
    have whole := formed.linked.nodup_preorder_shape root
    rw [formed.linked.preorder_shape] at whole
    exact (List.nodup_cons.mp whole).2
  have cursors : (s.enter root).cursors = [⟨root, 0⟩] ++ s.cursors := rfl
  have entered : (s.enter root).WellFormed := formed.of_nodes_eq same
  obtain ⟨s', memory', visits, ended, swept, walked⟩ := entered.sweeps removes
    (2 * (s.descendants root).length + 1) cursors (by rwa [ahead]) (by rw [ahead]; rfl) memory []
  rw [ahead] at swept
  refine ⟨s', memory', visits, walked, ended, swept.inOrder.nodup once, swept.inOrder, fun x listed unseen => ?_⟩
  obtain ⟨above, isBelow, beneath, taken⟩ := swept.taken x listed unseen
  exact ⟨above, isBelow, (under_of_nodes_eq same x above).mp beneath, taken⟩

end walk

/-- At the first visit, what comes next inside the node and behind it is taken away, and later on all that
hangs in the root. -/
def thinning : Script Nat := fun node (s, seen) =>
  (if seen = 0 then ((s.firstChild node).toList ++ (s.next? node).toList).map .remove else [.removeAll root],
    seen + 1)

/-- A child of the node that is visited, its next sibling, and then the rest of a container that is open further
out are taken away. -/
theorem walk_of_removals_two_containers :
    fiveRules.WellFormed ∧ thinning.OnlyRemoves ∧ fiveRules.descendants root = [1, 2, 3, 4, 5] ∧
      ∃ s' memory' visits,
        (∀ steps, 10 < steps → walk thinning.visitor steps (fiveRules, 0, []) = (s', memory', visits)) ∧
        s'.cursors.length = 0 ∧ visits.map Visit.node = [1, 3] ∧
        ∀ x ∈ [2, 4, 5], ∃ above ∈ [1, 2, 3, 4, 5], fiveRules.Under x above ∧ TakenFirst visits above := by
  have removes : thinning.OnlyRemoves := by
    rintro node ⟨s, seen⟩ edit listed
    rw [thinning] at listed
    split at listed
    · obtain ⟨id, -, rfl⟩ := List.mem_map.mp listed
      rfl
    · obtain rfl := List.mem_singleton.mp listed
      rfl
  have numbered : fiveRules.descendants root = [1, 2, 3, 4, 5] := by decide +kernel
  refine ⟨wellFormed_fiveRules, removes, numbered, ?_⟩
  obtain ⟨s', memory', visits, walked, ended, -, -, taken⟩ := walk_of_removals wellFormed_fiveRules removes 0
  rw [numbered] at walked taken
  have visited : (walk thinning.visitor 11 (fiveRules, 0, [])).2.2.map Visit.node = [1, 3] := by decide +kernel
  rw [walked 11 (by decide)] at visited
  refine ⟨s', memory', visits, walked, ended, visited, fun x listed => taken x ?_ ?_⟩
  · revert x
    decide
  · rw [visited]
    revert x
    decide

end Sheet

end NestLint
