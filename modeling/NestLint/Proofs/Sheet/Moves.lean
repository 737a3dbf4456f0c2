import NestLint.Proofs.Sheet.Linked
import NestLint.Sheet.Edit

/-!
What the operations on a sheet do to labels, parents and children. Taking a node away erases it from
every list of children; appending a node erases it and then puts it at the end of one list. In a
linked sheet these are all the changes to links, and they keep the sheet linked as long as no node
is put below itself.
-/

namespace NestLint

def Label.setBefore (l : Label) (before : Option Text) : Label :=
  { l with raws := { l.raws with before := before } }

namespace Sheet

section accessors

variable (s : Sheet) (id x : NodeId)

theorem node_modify (f : Node → Node) :
    (s.modify id f).node x = if x = id ∧ id < s.nodes.size then f (s.node x) else s.node x := by
  by_cases same : x = id
  · subst same
    by_cases stored : x < s.nodes.size
    · rw [node_modify_self s x f stored, if_pos ⟨rfl, stored⟩]
    · rw [if_neg fun both => stored both.2]
      simp [modify, node, Array.getD, stored]
  · rw [node_modify_of_ne s id x f same, if_neg fun both => same both.1]

theorem modify_keeps {β : Type} (view : Node → β) (f : Node → Node)
    (keeps : ∀ n, view (f n) = view n) : view ((s.modify id f).node x) = view (s.node x) := by
  rw [node_modify]
  split
  · exact keeps _
  · rfl

theorem kind_eq : s.kind x = (s.label x).kind := rfl

@[simp] theorem parent_setKind (kind : Kind) : (s.setKind id kind).parent x = s.parent x :=
  modify_keeps s id x Node.parent _ fun _ => rfl

@[simp] theorem children_setKind (kind : Kind) : (s.setKind id kind).children x = s.children x :=
  modify_keeps s id x Node.children _ fun _ => rfl

@[simp] theorem parent_modifyRaws (f : Raws → Raws) :
    (s.modifyRaws id f).parent x = s.parent x := modify_keeps s id x Node.parent _ fun _ => rfl

@[simp] theorem children_modifyRaws (f : Raws → Raws) :
    (s.modifyRaws id f).children x = s.children x := modify_keeps s id x Node.children _ fun _ => rfl

@[simp] theorem label_setParent (parent : Option NodeId) :
    (s.setParent id parent).label x = s.label x := modify_keeps s id x Node.toLabel _ fun _ => rfl

@[simp] theorem children_setParent (parent : Option NodeId) :
    (s.setParent id parent).children x = s.children x :=
  modify_keeps s id x Node.children _ fun _ => rfl

@[simp] theorem label_setChildren (children : List NodeId) :
    (s.setChildren id children).label x = s.label x := modify_keeps s id x Node.toLabel _ fun _ => rfl

@[simp] theorem parent_setChildren (children : List NodeId) :
    (s.setChildren id children).parent x = s.parent x :=
  modify_keeps s id x Node.parent _ fun _ => rfl

theorem parent_setParent (parent : Option NodeId) (stored : id < s.nodes.size) :
    (s.setParent id parent).parent x = if x = id then parent else s.parent x := by
  rw [Sheet.parent, setParent, node_modify]
  by_cases same : x = id
  · rw [if_pos ⟨same, stored⟩, if_pos same]
  · rw [if_neg fun both => same both.1, if_neg same]
    rfl

theorem children_setChildren (children : List NodeId) (stored : id < s.nodes.size) :
    (s.setChildren id children).children x = if x = id then children else s.children x := by
  rw [Sheet.children, setChildren, node_modify]
  by_cases same : x = id
  · rw [if_pos ⟨same, stored⟩, if_pos same]
  · rw [if_neg fun both => same both.1, if_neg same]
    rfl

theorem label_modifyRaws (f : Raws → Raws) (stored : id < s.nodes.size) :
    (s.modifyRaws id f).label x =
      if x = id then { s.label x with raws := f (s.label x).raws } else s.label x := by
  rw [label, modifyRaws, node_modify]
  by_cases same : x = id
  · rw [if_pos ⟨same, stored⟩, if_pos same]
    rfl
  · rw [if_neg fun both => same both.1, if_neg same]
    rfl

theorem label_setKind (kind : Kind) (stored : id < s.nodes.size) :
    (s.setKind id kind).label x = if x = id then { s.label x with kind := kind } else s.label x := by
  rw [label, setKind, node_modify]
  by_cases same : x = id
  · rw [if_pos ⟨same, stored⟩, if_pos same]
    rfl
  · rw [if_neg fun both => same both.1, if_neg same]
    rfl

@[simp] theorem kind_setParent (parent : Option NodeId) : (s.setParent id parent).kind x = s.kind x :=
  modify_keeps s id x (fun n => n.kind) _ fun _ => rfl

@[simp] theorem kind_setChildren (children : List NodeId) :
    (s.setChildren id children).kind x = s.kind x := modify_keeps s id x (fun n => n.kind) _ fun _ => rfl

@[simp] theorem kind_modifyRaws (f : Raws → Raws) : (s.modifyRaws id f).kind x = s.kind x :=
  modify_keeps s id x (fun n => n.kind) _ fun _ => rfl

@[simp] theorem size_setParent (parent : Option NodeId) :
    (s.setParent id parent).nodes.size = s.nodes.size := size_modify s id _

@[simp] theorem size_setChildren (children : List NodeId) :
    (s.setChildren id children).nodes.size = s.nodes.size := size_modify s id _

@[simp] theorem size_modifyRaws (f : Raws → Raws) :
    (s.modifyRaws id f).nodes.size = s.nodes.size := size_modify s id _

@[simp] theorem size_setKind (kind : Kind) : (s.setKind id kind).nodes.size = s.nodes.size :=
  size_modify s id _

end accessors

theorem Linked.of_same_links {s s' : Sheet} (linked : s.Linked)
    (parents : ∀ id, s'.parent id = s.parent id) (children : ∀ id, s'.children id = s.children id) :
    s'.Linked where
  parent_iff child parent := by rw [parents, children]; exact linked.parent_iff child parent
  nodup parent := by rw [children]; exact linked.nodup parent
  ends := by simpa only [parents] using linked.ends

section passing

variable (s : Sheet) (id parent x : NodeId) (index : Nat)

@[simp] theorem parent_passBefore : (s.passBefore id parent index).parent x = s.parent x := by
  unfold passBefore
  repeat' split
  all_goals simp

@[simp] theorem children_passBefore : (s.passBefore id parent index).children x = s.children x := by
  unfold passBefore
  repeat' split
  all_goals simp

@[simp] theorem size_passBefore : (s.passBefore id parent index).nodes.size = s.nodes.size := by
  unfold passBefore
  repeat' split
  all_goals simp

@[simp] theorem kind_passBefore : (s.passBefore id parent index).kind x = s.kind x := by
  unfold passBefore
  repeat' split
  all_goals simp

@[simp] theorem kind_borrowBefore : (s.borrowBefore parent id).kind x = s.kind x := by
  unfold borrowBefore
  split <;> simp

@[simp] theorem parent_borrowBefore : (s.borrowBefore parent id).parent x = s.parent x := by
  unfold borrowBefore
  split <;> simp

@[simp] theorem children_borrowBefore : (s.borrowBefore parent id).children x = s.children x := by
  unfold borrowBefore
  split <;> simp

@[simp] theorem size_borrowBefore : (s.borrowBefore parent id).nodes.size = s.nodes.size := by
  unfold borrowBefore
  split <;> simp

end passing

theorem size_remove (s : Sheet) (id : NodeId) : (s.remove id).nodes.size = s.nodes.size := by
  unfold remove
  split
  · simp only [size_setParent, size_setChildren, size_passBefore]
  · rfl

theorem kind_remove (s : Sheet) (id x : NodeId) : (s.remove id).kind x = s.kind x := by
  unfold remove
  split
  next parent index _ _ =>
    have kept : ∀ children, (((s.passBefore id parent index).setChildren parent children).setParent id
        none).kind x = s.kind x := by
      intro children
      rw [kind_setParent, kind_setChildren, kind_passBefore]
    exact kept _
  next => rfl

theorem size_append (s : Sheet) (parent child : NodeId) :
    (s.append parent child).nodes.size = s.nodes.size := by
  rw [append, size_setChildren, size_setParent, size_borrowBefore, size_remove]

theorem kind_append (s : Sheet) (parent child x : NodeId) : (s.append parent child).kind x = s.kind x := by
  rw [append, kind_setChildren, kind_setParent, kind_borrowBefore, kind_remove]

theorem remove_of_detached (s : Sheet) (id : NodeId) (detached : s.parent id = none) :
    s.remove id = s := by
  simp [remove, detached]

theorem Paired.remove_eq {s : Sheet} (paired : s.Paired) {id parent : NodeId}
    (up : s.parent id = some parent) :
    ∃ index, (s.children parent).idxOf? id = some index ∧
      s.remove id =
        { ((s.passBefore id parent index).setChildren parent
            ((s.children parent).eraseIdx index)).setParent id none with
          cursors := ((s.passBefore id parent index).setChildren parent
            ((s.children parent).eraseIdx index)).cursors.map (·.afterRemoval parent index) } := by
  have listed := paired.mem_of_parent up
  cases place : (s.children parent).idxOf? id with
  | none => exact absurd listed (List.idxOf?_eq_none_iff.mp place)
  | some index =>
    refine ⟨index, rfl, ?_⟩
    have found : s.indexOf? id = some index := by rw [indexOf?, up, Option.bind_some, place]
    simp only [remove, up, found, children_passBefore]
    rfl

section remove

variable {s : Sheet} (paired : s.Paired) (id x : NodeId)

include paired

theorem Paired.children_remove : (s.remove id).children x = (s.children x).erase id := by
  cases up : s.parent id with
  | none =>
    rw [remove_of_detached s id up, List.erase_of_not_mem]
    intro listed
    rw [paired.parent_of_mem listed] at up
    cases up
  | some parent =>
    obtain ⟨index, place, same⟩ := paired.remove_eq up
    rw [same]
    change (((s.passBefore id parent index).setChildren parent
      ((s.children parent).eraseIdx index)).setParent id none).children x = _
    rw [children_setParent, children_setChildren _ _ _ _
      (by rw [size_passBefore]; exact stored_of_child (paired.mem_of_parent up)),
      children_passBefore]
    by_cases here : x = parent
    · rw [if_pos here, here, List.erase_eq_eraseIdx, place]
    · rw [if_neg here, List.erase_of_not_mem]
      intro listed
      have other := paired.parent_of_mem listed
      rw [up] at other
      exact here (Option.some.inj other).symm

theorem Paired.parent_remove :
    (s.remove id).parent x = if x = id then none else s.parent x := by
  cases up : s.parent id with
  | none =>
    rw [remove_of_detached s id up]
    split
    · next same => rw [same, up]
    · rfl
  | some parent =>
    obtain ⟨index, place, same⟩ := paired.remove_eq up
    rw [same]
    change (((s.passBefore id parent index).setChildren parent
      ((s.children parent).eraseIdx index)).setParent id none).parent x = _
    rw [parent_setParent _ _ _ _ (by rw [size_setChildren, size_passBefore]; exact stored_of_parent up),
      parent_setChildren, parent_passBefore]

theorem Paired.remove : (s.remove id).Paired where
  parent_iff child parent := by
    rw [paired.parent_remove, paired.children_remove]
    by_cases same : child = id
    · rw [if_pos same, same]
      simp [(paired.nodup parent).not_mem_erase]
    · rw [if_neg same, List.mem_erase_of_ne same, paired.parent_iff]
  nodup parent := by
    rw [paired.children_remove]
    exact (paired.nodup parent).erase id

end remove

section remove

variable {s : Sheet} (linked : s.Linked) (id x : NodeId)

include linked

theorem Linked.children_remove : (s.remove id).children x = (s.children x).erase id :=
  linked.paired.children_remove id x

theorem Linked.parent_remove :
    (s.remove id).parent x = if x = id then none else s.parent x := linked.paired.parent_remove id x

theorem Linked.remove : (s.remove id).Linked where
  parent_iff := (linked.paired.remove id).parent_iff
  nodup := (linked.paired.remove id).nodup
  ends := by
    refine Subrelation.wf ?_ linked.ends
    intro parent child up
    rw [linked.parent_remove] at up
    split at up
    · cases up
    · exact up

end remove

/-- `heir` is the node that becomes first below the root once `id` leaves. -/
def Heir (s : Sheet) (id heir : NodeId) : Prop := ∃ rest, s.children root = id :: heir :: rest

section labels

variable {s : Sheet} (linked : s.Linked) {id x : NodeId}

include linked

theorem Linked.label_remove_of_not_heir (other : ¬ s.Heir id x) :
    (s.remove id).label x = s.label x := by
  cases up : s.parent id with
  | none => rw [remove_of_detached s id up]
  | some parent =>
    obtain ⟨index, place, same⟩ := linked.paired.remove_eq up
    rw [same]
    change (((s.passBefore id parent index).setChildren parent
      ((s.children parent).eraseIdx index)).setParent id none).label x = _
    rw [label_setParent, label_setChildren]
    unfold passBefore
    split
    next first =>
      obtain ⟨rfl, rfl⟩ := first
      split
      next next second =>
        cases children : s.children root with
        | nil => simp [children] at second
        | cons a behind =>
          cases behind with
          | nil => simp [children] at second
          | cons b rest =>
            simp only [children, List.getElem?_cons_succ, List.getElem?_cons_zero,
              Option.some.injEq] at second
            have first : a = id := by simpa [children, List.idxOf?_cons] using place
            subst first second
            have stored : b < s.nodes.size :=
              linked.stored_of_mem (by simp [children] : b ∈ s.children root)
            rw [label_modifyRaws _ _ _ _ stored, if_neg]
            rintro rfl
            exact other ⟨rest, children⟩
      next => rfl
    next => rfl

theorem Linked.label_remove_heir (heir : s.Heir id x) :
    (s.remove id).label x = (s.label x).setBefore (s.label id).raws.before := by
  obtain ⟨rest, children⟩ := heir
  have up : s.parent id = some root := linked.parent_of_mem (by rw [children]; simp)
  have stored : x < s.nodes.size := linked.stored_of_mem (by simp [children] : x ∈ s.children root)
  obtain ⟨index, place, same⟩ := linked.paired.remove_eq up
  have first : index = 0 := by simpa [children, List.idxOf?_cons] using place.symm
  subst first
  rw [same]
  change (((s.passBefore id root 0).setChildren root
    ((s.children root).eraseIdx 0)).setParent id none).label x = _
  rw [label_setParent, label_setChildren]
  simp only [passBefore, and_self, ↓reduceIte, children, List.getElem?_cons_succ,
    List.getElem?_cons_zero]
  rw [label_modifyRaws _ _ _ _ stored, if_pos rfl]
  rfl

end labels

section append

variable {s : Sheet} (paired : s.Paired) {parent child : NodeId} (x : NodeId)

include paired

theorem Paired.children_append (stored : parent < s.nodes.size) :
    (s.append parent child).children x =
      if x = parent then (s.children x).erase child ++ [child] else (s.children x).erase child := by
  have room : parent < (((s.remove child).borrowBefore parent child).setParent child
      (some parent)).nodes.size := by
    rw [size_setParent, size_borrowBefore, size_remove]
    exact stored
  rw [append, children_setChildren _ _ _ _ room]
  simp only [children_setParent, children_borrowBefore, paired.children_remove]
  by_cases here : x = parent
  · rw [if_pos here, if_pos here, here]
  · rw [if_neg here, if_neg here]

theorem Paired.parent_append (stored : child < s.nodes.size) :
    (s.append parent child).parent x = if x = child then some parent else s.parent x := by
  have room : child < ((s.remove child).borrowBefore parent child).nodes.size := by
    rw [size_borrowBefore, size_remove]
    exact stored
  rw [append, parent_setChildren, parent_setParent _ _ _ _ room, parent_borrowBefore,
    paired.parent_remove]
  by_cases here : x = child
  · rw [if_pos here, if_pos here]
  · rw [if_neg here, if_neg here, if_neg here]

theorem Paired.append (storedParent : parent < s.nodes.size) (storedChild : child < s.nodes.size) :
    (s.append parent child).Paired where
  parent_iff x above := by
    rw [paired.parent_append x storedChild, paired.children_append above storedParent]
    have gone : child ∉ (s.children above).erase child := (paired.nodup above).not_mem_erase
    by_cases here : x = child
    · subst here
      by_cases there : above = parent
      · simp [there]
      · simp [there, gone, Ne.symm there]
    · have kept : x ∈ (s.children above).erase child ↔ x ∈ s.children above :=
        List.mem_erase_of_ne here
      by_cases there : above = parent
      · subst there
        simp [here, kept, paired.parent_iff]
      · simp [here, there, kept, paired.parent_iff]
  nodup above := by
    rw [paired.children_append above storedParent]
    have rest : ((s.children above).erase child).Nodup := (paired.nodup above).erase child
    have gone : child ∉ (s.children above).erase child := (paired.nodup above).not_mem_erase
    split
    · rw [List.nodup_append]
      refine ⟨rest, by simp, ?_⟩
      intro a listed b last
      rw [List.mem_singleton.mp last]
      rintro rfl
      exact gone listed
    · exact rest

end append

section append

variable {s : Sheet} (linked : s.Linked) {parent child : NodeId} (x : NodeId)

include linked

theorem Linked.not_heir_self : ¬ s.Heir x x := by
  rintro ⟨rest, children⟩
  have once := linked.nodup root
  simp [children] at once

theorem Linked.children_append (stored : parent < s.nodes.size) :
    (s.append parent child).children x =
      if x = parent then (s.children x).erase child ++ [child] else (s.children x).erase child :=
  linked.paired.children_append x stored

theorem Linked.parent_append (stored : child < s.nodes.size) :
    (s.append parent child).parent x = if x = child then some parent else s.parent x :=
  linked.paired.parent_append x stored

theorem Linked.label_append (known : (s.label child).raws.before.isSome) :
    (s.append parent child).label x = (s.remove child).label x := by
  obtain ⟨before, own⟩ := Option.isSome_iff_exists.mp known
  have kept : ((s.remove child).raws child).before = some before := by
    have same := linked.label_remove_of_not_heir (linked.not_heir_self child)
    rw [← own, ← same]
    rfl
  rw [append, label_setChildren, label_setParent]
  simp [borrowBefore, kept]

theorem Linked.label_append_of_detached (known : (s.label child).raws.before.isSome)
    (detached : s.parent child = none) : (s.append parent child).label x = s.label x := by
  rw [linked.label_append x known, remove_of_detached s child detached]

theorem Linked.append (storedParent : parent < s.nodes.size) (storedChild : child < s.nodes.size)
    (outside : ¬ s.Under parent child) : (s.append parent child).Linked where
  parent_iff := (linked.paired.append storedParent storedChild).parent_iff
  nodup := (linked.paired.append storedParent storedChild).nodup
  ends := by
    -- Above `parent` nothing has changed, since `child` is not there; so the chain from `child`
    -- ends, and with it every chain that comes through `child`.
    have away : ∀ y, ¬ s.Under y child →
        Acc (fun above below => (s.append parent child).parent below = some above) y := by
      intro y
      induction y using linked.ends.induction with
      | _ y ih =>
        intro apart
        refine ⟨y, fun above up => ?_⟩
        rw [linked.parent_append y storedChild] at up
        split at up
        next same => exact absurd (same ▸ under_refl s y) apart
        next => exact ih above up fun higher => apart (higher.step up)
    refine ⟨fun y => ?_⟩
    induction y using linked.ends.induction with
    | _ y ih =>
      refine ⟨y, fun above up => ?_⟩
      rw [linked.parent_append y storedChild] at up
      split at up
      next same => exact Option.some.inj up ▸ away parent outside
      next => exact ih above up

end append

section plant

variable {s : Sheet} {t : Tree Label} {x : NodeId}

theorem node_plant_of_lt (old : x < s.nodes.size) : (s.plant t).2.node x = s.node x := by
  simp only [plant, node, Array.getD_eq_getD_getElem?, Array.getElem?_append_left old]

theorem label_plant_of_lt (old : x < s.nodes.size) : (s.plant t).2.label x = s.label x := by
  rw [label, node_plant_of_lt old, label]

theorem children_plant_of_lt (old : x < s.nodes.size) :
    (s.plant t).2.children x = s.children x := by
  rw [Sheet.children, node_plant_of_lt old, Sheet.children]

theorem parent_plant_of_lt (old : x < s.nodes.size) : (s.plant t).2.parent x = s.parent x := by
  rw [Sheet.parent, node_plant_of_lt old, Sheet.parent]

theorem parent_plant_root : (s.plant t).2.parent s.nodes.size = none := by
  have planted := planted_plant s t
  cases t with
  | node l ts => rw [Sheet.parent, planted.2.1]

theorem plant_of_ge (t : Tree Label) (new : s.nodes.size ≤ x) :
    Within s.nodes.size t.size x ∨
      ((s.plant t).2.parent x = none ∧ (s.plant t).2.children x = []) := by
  by_cases inside : x < s.nodes.size + t.size
  · exact Or.inl ⟨new, inside⟩
  · right
    have outside : ¬ x < (s.plant t).2.nodes.size := by rw [size_plant]; exact inside
    refine ⟨?_, ?_⟩
    · cases up : (s.plant t).2.parent x with
      | none => rfl
      | some parent => exact absurd (stored_of_parent up) outside
    · cases children : (s.plant t).2.children x with
      | nil => rfl
      | cons child rest =>
        have listed : child ∈ (s.plant t).2.children x := by rw [children]; exact List.mem_cons_self
        exact absurd (stored_of_child listed) outside

theorem parent_plant_of_ge {child parent : NodeId} (new : s.nodes.size ≤ child)
    (up : (s.plant t).2.parent child = some parent) :
    s.nodes.size ≤ parent ∧ parent < child ∧ child ∈ (s.plant t).2.children parent := by
  have planted := planted_plant s t
  rcases plant_of_ge t new with within | ⟨none, -⟩
  · have notTop : child ≠ s.nodes.size := by
      rintro rfl
      rw [parent_plant_root] at up
      cases up
    obtain ⟨above, low, less, up', listed⟩ := planted_parent planted
      (Nat.lt_of_le_of_ne within.1 notTop.symm) within.2
    rw [up] at up'
    cases up'
    exact ⟨low, less, listed⟩
  · rw [none] at up
    cases up

theorem Paired.plant (paired : s.Paired) (t : Tree Label) : (s.plant t).2.Paired where
  parent_iff child parent := by
    by_cases oldParent : parent < s.nodes.size
    · rw [children_plant_of_lt oldParent]
      by_cases oldChild : child < s.nodes.size
      · rw [parent_plant_of_lt oldChild]
        exact paired.parent_iff child parent
      · refine ⟨fun up => ?_, fun listed => ?_⟩
        · exact absurd (parent_plant_of_ge (Nat.not_lt.mp oldChild) up).1 (Nat.not_le.mpr oldParent)
        · exact absurd (stored_of_parent (paired.parent_of_mem listed)) oldChild
    · refine ⟨fun up => ?_, fun listed => ?_⟩
      · by_cases oldChild : child < s.nodes.size
        · rw [parent_plant_of_lt oldChild] at up
          exact absurd (stored_of_child (paired.mem_of_parent up)) oldParent
        · exact (parent_plant_of_ge (Nat.not_lt.mp oldChild) up).2.2
      · rcases plant_of_ge t (Nat.not_lt.mp oldParent) with within | ⟨-, none⟩
        · exact ((planted_children (planted_plant s t) within).2 child listed).2
        · rw [none] at listed
          cases listed
  nodup parent := by
    by_cases old : parent < s.nodes.size
    · rw [children_plant_of_lt old]
      exact paired.nodup parent
    · rcases plant_of_ge t (Nat.not_lt.mp old) with within | ⟨-, none⟩
      · exact (planted_children (planted_plant s t) within).1
      · rw [none]
        exact List.nodup_nil

theorem Linked.plant (linked : s.Linked) (t : Tree Label) : (s.plant t).2.Linked where
  parent_iff := (linked.paired.plant t).parent_iff
  nodup := (linked.paired.plant t).nodup
  ends := by
    have oldEnds : ∀ y : Nat, y < s.nodes.size →
        Acc (fun above below => (s.plant t).2.parent below = some above) y := by
      intro y
      induction y using linked.ends.induction with
      | _ y ih =>
        intro old
        refine ⟨y, fun above up => ?_⟩
        rw [parent_plant_of_lt old] at up
        exact ih above up (stored_of_child (linked.mem_of_parent up))
    refine ⟨fun x => ?_⟩
    induction x using Nat.strong_induction_on with
    | _ x ih =>
      by_cases old : x < s.nodes.size
      · exact oldEnds x old
      · refine ⟨x, fun above up => ?_⟩
        exact ih above (parent_plant_of_ge (Nat.not_lt.mp old) up).2.1

theorem linked_ofTree (t : Tree Label) : (ofTree t).Linked := by
  have blank : ({ nodes := #[] } : Sheet).Linked := by
    refine ⟨?_, ?_, ⟨fun x => ⟨x, ?_⟩⟩⟩ <;> simp [Sheet.parent, Sheet.children, node, Node.ofLabel]
  have same : ofTree t = (({ nodes := #[] } : Sheet).plant t).2 := by simp [ofTree, plant, root]
  rw [same]
  exact blank.plant t

end plant

end Sheet

end NestLint
