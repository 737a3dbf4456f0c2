import NestLint.Proofs.Nesting.Links
import NestLint.Proofs.Nesting.Termination

/-!
Walks whose visitor follows a script. At every visit the script decides, from what it sees and remembers, on a
row of edits, and the visit is put on record. All that an edit does to a walk under way is done to the rows
that the open containers have left: a node that is taken away leaves the row that it waits in, and a node that
is appended is put at the end of its row, unless the cursor there has been left behind the end of the children.
-/

namespace NestLint

namespace Sheet

inductive Edit where
  | create (kind : Kind)
  | append (parent child : NodeId)
  | remove (id : NodeId)
  | removeAll (id : NodeId)
deriving DecidableEq

namespace Edit

def apply (s : Sheet) : Edit → Sheet
  | .create kind => (s.create kind).2
  | .append parent child => s.append parent child
  | .remove id => s.remove id
  | .removeAll id => s.removeAll id

def isRemoval : Edit → Bool
  | .create _ | .append _ _ => false
  | .remove _ | .removeAll _ => true

def Stored (s : Sheet) : Edit → Prop
  | .append parent child => parent < s.nodes.size ∧ child < s.nodes.size
  | _ => True

instance (s : Sheet) : (edit : Edit) → Decidable (edit.Stored s)
  | .append parent child => inferInstanceAs (Decidable (parent < s.nodes.size ∧ child < s.nodes.size))
  | .create _ | .remove _ | .removeAll _ => isTrue trivial

end Edit

def edited (s : Sheet) (edits : List Edit) : Sheet := edits.foldl Edit.apply s

abbrev Script (σ : Type) := NodeId → Sheet × σ → List Edit × σ

/-- A visit: the node, the sheet as it was found, and what was done. -/
structure Visit where
  node : NodeId
  found : Sheet
  edits : List Edit

def Visit.left (v : Visit) : Sheet := v.found.edited v.edits

def Script.visit {σ : Type} (script : Script σ) (node : NodeId) (s : Sheet) (memory : σ) : Visit :=
  ⟨node, s, (script node (s, memory)).1⟩

/-- The visitor that follows a script and puts its visits on record. -/
def Script.visitor {σ : Type} (script : Script σ) : Visitor (σ × List Visit) :=
  fun node (s, memory, visits) =>
    ((script.visit node s memory).left, (script node (s, memory)).2, visits ++ [script.visit node s memory])

def waiting (s : Sheet) (cursor : Cursor) : List NodeId := (s.children cursor.container).drop cursor.next

theorem waiting_of_next {s : Sheet} {cursor : Cursor} {child : NodeId}
    (next : (s.children cursor.container)[cursor.next]? = some child) :
    s.waiting cursor = child :: s.waiting { cursor with next := cursor.next + 1 } := by
  obtain ⟨inside, isChild⟩ := List.getElem?_eq_some_iff.mp next
  rw [waiting, List.drop_eq_getElem_cons inside, isChild]
  rfl

theorem waiting_of_nodes_eq {s s' : Sheet} (same : s'.nodes = s.nodes) (cursor : Cursor) :
    s'.waiting cursor = s.waiting cursor := by
  rw [waiting, waiting, children_of_nodes_eq same]

/-- The cursor does not stand behind the end of the children. -/
def Covers (s : Sheet) (cursor : Cursor) : Prop := cursor.next ≤ (s.children cursor.container).length

instance (s : Sheet) (cursor : Cursor) : Decidable (s.Covers cursor) := inferInstanceAs (Decidable (_ ≤ _))

def shiftWithout (s : Sheet) (id : NodeId) (cursor : Cursor) : Cursor :=
  match s.parent id, s.indexOf? id with
  | some parent, some index => cursor.afterRemoval parent index
  | _, _ => cursor

def Edit.shift (s : Sheet) : Edit → Cursor → Cursor
  | .append _ id | .remove id => s.shiftWithout id
  | .create _ | .removeAll _ => id

section cursors

variable (s : Sheet) (id : NodeId)

theorem container_shiftWithout (cursor : Cursor) : (s.shiftWithout id cursor).container = cursor.container := by
  unfold shiftWithout
  split
  · unfold Cursor.afterRemoval
    split <;> rfl
  · rfl

theorem cursors_remove : (s.remove id).cursors = s.cursors.map (s.shiftWithout id) := by
  cases up : s.parent id with
  | none =>
    have still : s.shiftWithout id = fun cursor => cursor := by
      funext cursor
      simp only [shiftWithout, up]
    rw [remove_of_detached s id up, still, List.map_id']
  | some parent =>
    cases place : s.indexOf? id with
    | none =>
      have still : s.shiftWithout id = fun cursor => cursor := by
        funext cursor
        simp only [shiftWithout, up, place]
      simp only [remove, up, place, still, List.map_id']
    | some index =>
      have along : s.shiftWithout id = fun cursor => cursor.afterRemoval parent index := by
        funext cursor
        simp only [shiftWithout, up, place]
      simp only [remove, up, place, along]
      exact congrArg (List.map _) (cursors_passBefore s id parent index)

theorem cursors_removeAll : (s.removeAll id).cursors = s.cursors := by
  have kept : ∀ (ids : List NodeId) (u : Sheet),
      (ids.foldl (fun u child => u.setParent child none) u).cursors = u.cursors := by
    intro ids
    induction ids with
    | nil => exact fun _ => rfl
    | cons child rest ih => exact fun u => ih _
  exact kept _ _

theorem container_shift (edit : Edit) (cursor : Cursor) :
    (edit.shift s cursor).container = cursor.container := by
  cases edit with
  | create kind => rfl
  | append parent child => exact container_shiftWithout s child cursor
  | remove id => exact container_shiftWithout s id cursor
  | removeAll id => rfl

theorem cursors_apply (edit : Edit) : (edit.apply s).cursors = s.cursors.map (edit.shift s) := by
  cases edit with
  | create kind => exact (List.map_id s.cursors).symm
  | append parent child =>
    exact (cursors_borrowBefore (s.remove child) child parent).trans (cursors_remove s child)
  | remove id => exact cursors_remove s id
  | removeAll id => exact (cursors_removeAll s id).trans (List.map_id s.cursors).symm

end cursors

theorem drop_erase {row : List NodeId} (once : row.Nodup) {id : NodeId} {index next : Nat}
    (place : row.idxOf? id = some index) :
    (row.erase id).drop (if index < next then next - 1 else next) = (row.drop next).erase id := by
  obtain ⟨inside, isHere, -⟩ := List.idxOf?_eq_some_iff.mp place
  have apart := List.disjoint_take_drop once (Nat.le_refl next)
  by_cases before : index < next
  · have listed : id ∈ row.take next := List.mem_take_iff_getElem.mpr ⟨index, by omega, isHere⟩
    rw [if_pos before, List.erase_of_not_mem fun later => apart listed later]
    by_cases short : row.length < next
    · rw [List.drop_eq_nil_of_le (Nat.le_of_lt short), List.drop_eq_nil_of_le]
      rw [List.length_erase_of_mem (List.mem_of_mem_take listed)]
      omega
    · conv_lhs => rw [← List.take_append_drop next row, List.erase_append_left _ listed]
      apply List.drop_left'
      rw [List.length_erase_of_mem listed, List.length_take_of_le (Nat.not_lt.mp short)]
  · have listed : id ∈ row.drop next := List.mem_drop_iff_getElem.mpr
      ⟨index - next, by omega, by rw [← isHere]; congr 1; omega⟩
    rw [if_neg before]
    conv_lhs => rw [← List.take_append_drop next row, List.erase_append_right _ fun early => apart early listed]
    apply List.drop_left'
    exact List.length_take_of_le (by omega)

section rows

variable {s : Sheet} (paired : s.Paired) (id : NodeId) (cursor : Cursor)

include paired

theorem Paired.shiftWithout_cases :
    (id ∉ s.children cursor.container ∧ s.shiftWithout id cursor = cursor) ∨
      ∃ index, (s.children cursor.container).idxOf? id = some index ∧
        (s.shiftWithout id cursor).next = if index < cursor.next then cursor.next - 1 else cursor.next := by
  cases up : s.parent id with
  | none =>
    refine Or.inl ⟨fun listed => ?_, by simp only [shiftWithout, up]⟩
    rw [paired.parent_of_mem listed] at up
    cases up
  | some parent =>
    obtain ⟨index, place, -⟩ := paired.remove_eq up
    have found : s.indexOf? id = some index := by rw [indexOf?, up, Option.bind_some, place]
    have along : s.shiftWithout id cursor = cursor.afterRemoval parent index := by
      simp only [shiftWithout, up, found]
    by_cases here : cursor.container = parent
    · refine Or.inr ⟨index, here ▸ place, ?_⟩
      rw [along, Cursor.afterRemoval]
      simp only [here, true_and]
      split <;> rfl
    · refine Or.inl ⟨fun listed => ?_, ?_⟩
      · have other := paired.parent_of_mem listed
        rw [up] at other
        exact here (Option.some.inj other).symm
      · rw [along, Cursor.afterRemoval, if_neg fun both => here both.1]

theorem Paired.waiting_remove :
    (s.remove id).waiting (s.shiftWithout id cursor) = (s.waiting cursor).erase id := by
  rw [waiting, waiting, container_shiftWithout, paired.children_remove]
  rcases paired.shiftWithout_cases id cursor with ⟨absent, still⟩ | ⟨index, place, along⟩
  · rw [still, List.erase_of_not_mem absent,
      List.erase_of_not_mem fun later => absent (List.mem_of_mem_drop later)]
  · rw [along, drop_erase (paired.nodup _) place]

theorem Paired.covers_remove {cursor : Cursor} (covers : s.Covers cursor) :
    (s.remove id).Covers (s.shiftWithout id cursor) := by
  rw [Covers] at covers
  rw [Covers, container_shiftWithout, paired.children_remove]
  rcases paired.shiftWithout_cases id cursor with ⟨absent, still⟩ | ⟨index, place, along⟩
  · rwa [still, List.erase_of_not_mem absent]
  · obtain ⟨inside, isHere, -⟩ := List.idxOf?_eq_some_iff.mp place
    rw [along, List.length_erase_of_mem (isHere ▸ List.getElem_mem inside)]
    split <;> omega

theorem Paired.waiting_append {parent child : NodeId} (stored : parent < s.nodes.size) (cursor : Cursor) :
    (s.append parent child).waiting (s.shiftWithout child cursor) =
      (s.waiting cursor).erase child ++
        if cursor.container = parent ∧ (s.remove child).Covers (s.shiftWithout child cursor) then [child] else [] := by
  have row := paired.waiting_remove child cursor
  have reaches : (s.remove child).Covers (s.shiftWithout child cursor) ↔
      (s.shiftWithout child cursor).next ≤ ((s.children cursor.container).erase child).length := by
    rw [Covers, container_shiftWithout, paired.children_remove]
  rw [waiting, container_shiftWithout, paired.children_remove] at row
  rw [waiting, container_shiftWithout, paired.children_append _ stored]
  by_cases here : cursor.container = parent
  · rw [if_pos here, List.drop_append, row]
    by_cases covers : (s.remove child).Covers (s.shiftWithout child cursor)
    · rw [if_pos ⟨here, covers⟩, Nat.sub_eq_zero_of_le (reaches.mp covers), List.drop_zero]
    · rw [if_neg fun both => covers both.2, List.drop_eq_nil_of_le]
      rw [reaches] at covers
      rw [List.length_singleton]
      omega
  · rw [if_neg here, if_neg fun both => here both.1, List.append_nil, row]

theorem Paired.covers_append {parent child : NodeId} (stored : parent < s.nodes.size) {cursor : Cursor}
    (covers : s.Covers cursor) : (s.append parent child).Covers (s.shiftWithout child cursor) := by
  have kept := paired.covers_remove child covers
  rw [Covers, container_shiftWithout, paired.children_remove] at kept
  rw [Covers, container_shiftWithout, paired.children_append _ stored]
  split
  · rw [List.length_append]
    exact Nat.le_add_right_of_le kept
  · exact kept

end rows

theorem waiting_removeAll (s : Sheet) (id : NodeId) (cursor : Cursor) :
    (s.removeAll id).waiting cursor = if cursor.container = id then [] else s.waiting cursor := by
  rw [waiting, children_removeAll]
  split
  · exact List.drop_nil
  · rfl

theorem links_create (s : Sheet) (kind : Kind) (x : NodeId) :
    (s.create kind).2.children x = s.children x ∧ (s.create kind).2.parent x = s.parent x := by
  by_cases old : x < s.nodes.size
  · exact ⟨children_plant_of_lt old, parent_plant_of_lt old⟩
  have none : s.parent x = none := by
    cases up : s.parent x with
    | none => rfl
    | some parent => exact absurd (stored_of_parent up) old
  rw [children_of_not_stored (Nat.not_lt.mp old), none]
  rcases plant_of_ge (.node { kind := kind } []) (Nat.not_lt.mp old) with within | ⟨free, empty⟩
  · obtain rfl : x = s.nodes.size := Nat.le_antisymm (Nat.le_of_lt_succ within.2) within.1
    have planted := (planted_plant s (.node { kind := kind } [])).2.1
    exact ⟨congrArg Node.children planted, parent_plant_root⟩
  · exact ⟨empty, free⟩

/-- What an edit keeps: parents and children name each other, also where a node comes to hang below itself. -/
theorem Paired.apply {s : Sheet} (paired : s.Paired) {edit : Edit} (stored : edit.Stored s) :
    (edit.apply s).Paired := by
  cases edit with
  | create kind => exact paired.plant _
  | append parent child => exact paired.append stored.1 stored.2
  | remove id => exact paired.remove id
  | removeAll id => exact paired.removeAll id

section walk

variable {σ : Type} {s : Sheet} {cursor : Cursor} {outer : List Cursor}

def entered (s : Sheet) (id : NodeId) : List Cursor := if (s.children id).isEmpty then [] else [⟨id, 0⟩]

theorem cursors_enter_unless (s : Sheet) (id : NodeId) :
    (if (s.children id).isEmpty then s else s.enter id).cursors = s.entered id ++ s.cursors := by
  unfold entered
  split <;> rfl

theorem flatMap_waiting_entered (s : Sheet) (id : NodeId) : (s.entered id).flatMap s.waiting = s.children id := by
  unfold entered
  split
  next empty => rw [List.isEmpty_iff.mp empty, List.flatMap_nil]
  next => rw [List.flatMap_singleton, waiting, List.drop_zero]

theorem Script.walkStep_visitor (script : Script σ) (cursors : s.cursors = cursor :: outer) {child : NodeId}
    (next : (s.children cursor.container)[cursor.next]? = some child) (memory : σ) (visits : List Visit)
    {found : Sheet} (isFound : found = { s with cursors := { cursor with next := cursor.next + 1 } :: outer })
    {visit : Visit} (isVisit : visit = script.visit child found memory) :
    walkStep script.visitor (s, memory, visits) =
      (if (visit.left.children child).isEmpty then visit.left else visit.left.enter child,
        (script child (found, memory)).2, visits ++ [visit]) := by
  subst isFound isVisit
  exact walkStep_of_some script.visitor (memory, visits) cursors next rfl

theorem walkSteps_of_le {visitor : Visitor σ} {memory : σ} {base : Nat} (ended : s.cursors.length ≤ base)
    (steps : Nat) : walkSteps visitor base steps (s, memory) = (s, memory) := by
  cases steps with
  | zero => rfl
  | succ steps => exact if_pos ended

end walk

/-- Two rules in a rule, and two rules behind it. -/
def fiveRules : Sheet :=
  ofTree (.node { kind := .root } [
    .node { kind := .rule ['a'] } [.node { kind := .rule ['b'] } [], .node { kind := .rule ['c'] } []],
    .node { kind := .rule ['d'] } [], .node { kind := .rule ['e'] } []])

theorem wellFormed_fiveRules : fiveRules.WellFormed := ⟨linked_ofTree _, by decide, by decide⟩

end Sheet

end NestLint
