import NestLint.Proofs.Sheet.Laid

/-!
Moving one of two nodes that stand side by side. `PutInside` says what a sheet is like when one node of
the pair has become the last child of the other, `TurnedInside` when its children have gone into a new
node there, and `Wrapped` when the first child of one node has given its children to a new node in the
other. Each lists all changes to the old nodes, so no later proof looks at the single moves.
-/

namespace NestLint

namespace Sheet

/-- Two nodes stand side by side among the children of `place`, in either order. -/
def Beside (s : Sheet) (place a b : NodeId) (front behind : List NodeId) : Prop :=
  s.children place = front ++ a :: b :: behind ∨ s.children place = front ++ b :: a :: behind

namespace Beside

variable {s : Sheet} {place a b : NodeId} {front behind : List NodeId}

theorem symm (beside : s.Beside place a b front behind) : s.Beside place b a front behind :=
  Or.symm beside

variable (linked : s.Linked) (beside : s.Beside place a b front behind)

include linked beside

theorem up_left : s.parent a = some place := by
  apply linked.parent_of_mem
  rcases beside with row | row <;> simp [row]

theorem up_right : s.parent b = some place := beside.symm.up_left linked

theorem apart : a ∉ front ∧ a ≠ b ∧ a ∉ behind := by
  have once := linked.nodup place
  rcases beside with row | row
  · rw [row] at once
    simp [List.nodup_append] at once
    grind
  · rw [row] at once
    simp [List.nodup_append] at once
    grind

theorem ne : a ≠ b := (beside.apart linked).2.1

theorem erase_left : (s.children place).erase a = front ++ b :: behind := by
  obtain ⟨early, different, -⟩ := beside.apart linked
  rcases beside with row | row
  · rw [row, List.erase_append_right _ early, List.erase_cons_head]
  · rw [row, List.erase_append_right _ early,
      List.erase_cons_tail (by simpa using different.symm), List.erase_cons_head]

theorem up_other {c : NodeId} (listed : c ∈ front ∨ c ∈ behind) :
    s.parent c = some place ∧ c ≠ a ∧ c ≠ b := by
  obtain ⟨earlyA, -, lateA⟩ := beside.apart linked
  obtain ⟨earlyB, -, lateB⟩ := beside.symm.apart linked
  refine ⟨?_, ?_, ?_⟩
  · apply linked.parent_of_mem
    rcases beside with row | row <;> rcases listed with early | late <;> simp [*]
  · rintro rfl
    exact listed.elim earlyA lateA
  · rintro rfl
    exact listed.elim earlyB lateB

theorem eq_of_heir {x : NodeId} (heir : s.Heir a x) : x = b := by
  obtain ⟨rest, top⟩ := heir
  obtain ⟨early, different, -⟩ := beside.apart linked
  have up : s.parent a = some root := linked.parent_of_mem (by rw [top]; exact List.mem_cons_self)
  have same : place = root := Option.some.inj ((beside.up_left linked).symm.trans up)
  subst same
  rcases beside with row | row
  · cases front with
    | nil =>
      rw [top, List.nil_append] at row
      exact (List.cons.inj (List.cons.inj row).2).1
    | cons c front =>
      rw [top, List.cons_append] at row
      exact absurd (List.mem_cons.mpr (Or.inl (List.cons.inj row).1)) early
  · cases front with
    | nil =>
      rw [top, List.nil_append] at row
      exact absurd (List.cons.inj row).1 different
    | cons c front =>
      rw [top, List.cons_append] at row
      exact absurd (List.mem_cons.mpr (Or.inl (List.cons.inj row).1)) early

theorem ne_place : a ≠ place :=
  linked.ne_of_under_child (beside.up_left linked) (under_refl s a) (under_refl s place)

theorem not_under : ¬ s.Under b a := by
  intro under
  exact linked.ne_of_under_siblings (beside.up_left linked) (beside.up_right linked)
    (beside.ne linked) under (under_refl s b) rfl

theorem label_remove {x : NodeId} (other : x ≠ b) : (s.remove a).label x = s.label x :=
  linked.label_remove_of_not_heir fun heir => other (beside.eq_of_heir linked heir)

theorem ne_below {c x : NodeId} (listed : c ∈ s.children a) (under : s.Under x c) :
    x ≠ place ∧ x ≠ a ∧ x ≠ b := by
  have up := linked.parent_of_mem listed
  have upA := beside.up_left linked
  have higher : s.Under a place := (under_refl s place).step upA
  have above : s.Under x a := under.trans ((under_refl s a).step up)
  exact ⟨linked.ne_of_under_child up under higher,
    linked.ne_of_under_child up under (under_refl s a),
    linked.ne_of_under_siblings upA (beside.up_right linked) (beside.ne linked) above
      (under_refl s b)⟩

end Beside

theorem row_of_prev? {s : Sheet} {node prev : NodeId} (isPrev : s.prev? node = some prev) :
    ∃ place front behind, s.parent node = some place ∧
      s.children place = front ++ prev :: node :: behind := by
  obtain ⟨place, up, before⟩ := Option.bind_eq_some_iff.mp isPrev
  split at before
  next index isIndex =>
    rw [Sheet.indexOf?, up, Option.bind_some, List.idxOf?_eq_some_iff] at isIndex
    obtain ⟨inside, isNode, -⟩ := isIndex
    obtain ⟨inside', isBefore⟩ := List.getElem?_eq_some_iff.mp before
    refine ⟨place, (s.children place).take index, (s.children place).drop (index + 2), up, ?_⟩
    have second := List.drop_eq_getElem_cons inside
    have first := List.drop_eq_getElem_cons inside'
    rw [isNode] at second
    rw [isBefore, second] at first
    rw [← first, List.take_append_drop]
  next => cases before

theorem Linked.prev?_of_row {s : Sheet} (linked : s.Linked) {place node prev : NodeId}
    {front behind : List NodeId} (row : s.children place = front ++ prev :: node :: behind) :
    s.prev? node = some prev := by
  have up : s.parent node = some place := linked.parent_of_mem (by rw [row]; simp)
  have index : s.indexOf? node = some (front.length + 1) := by
    have once := linked.nodup place
    rw [row, List.nodup_append, List.nodup_cons] at once
    obtain ⟨-, ⟨different, -⟩, apart⟩ := once
    rw [indexOf?, up, Option.bind_some, row, List.idxOf?_eq_some_iff]
    refine ⟨by simp, by simp, fun i early => ?_⟩
    rcases Nat.lt_succ_iff_lt_or_eq.mp early with before | rfl
    · rw [List.getElem_append_left before]
      exact apart _ (List.getElem_mem before) node (by simp)
    · rw [List.getElem_append_right (Nat.le_refl _)]
      simp only [Nat.sub_self, List.getElem_cons_zero]
      rintro rfl
      exact different List.mem_cons_self
  rw [prev?, up, Option.bind_some, index]
  simp [row]

section moves

variable {s : Sheet} {place a b : NodeId} {front behind : List NodeId}

structure PutInside (s s' : Sheet) (place a b : NodeId) (front behind : List NodeId) : Prop where
  spaced : s'.Spaced
  size : s'.nodes.size = s.nodes.size
  label : ∀ x, x ≠ b → s'.label x = s.label x
  label_outer : ∃ before, s'.label b = (s.label b).setBefore before ∧
    (before = (s.label b).raws.before ∨ before = (s.label a).raws.before)
  top : ∀ x, s.parent x = none → s'.parent x = none
  row : s'.children place = front ++ b :: behind
  grown : s'.children b = s.children b ++ [a]
  children : ∀ x, x ≠ place → x ≠ b → s'.children x = s.children x

theorem putInside_append (spaced : s.Spaced) (beside : s.Beside place a b front behind) :
    PutInside s (s.append b a) place a b front behind := by
  have linked := spaced.linked
  have upA := beside.up_left linked
  have storedB := stored_of_parent (beside.up_right linked)
  have known := spaced.before upA
  have notPlace := beside.symm.ne_place linked
  refine ⟨?_, size_append _ _ _, fun x other => ?_, ?_, fun x free => ?_, ?_, ?_,
    fun x notTop other => ?_⟩
  · exact spaced.append storedB (stored_of_parent upA) known (beside.not_under linked)
  · rw [linked.label_append x known, beside.label_remove linked other]
  · obtain ⟨before, same, passed⟩ := linked.exists_label_remove a b
    exact ⟨before, by rw [linked.label_append b known, same], passed⟩
  · rw [linked.parent_append x (stored_of_parent upA), if_neg, free]
    rintro rfl
    rw [upA] at free
    cases free
  · rw [linked.children_append place storedB, if_neg notPlace.symm, beside.erase_left linked]
  · rw [linked.children_append b storedB, if_pos rfl, linked.erase_children_of_ne upA notPlace]
  · rw [linked.children_append x storedB, if_neg other, linked.erase_children_of_ne upA notTop]


structure CutOut (s s' : Sheet) (a : NodeId) (new : Label) : Prop where
  spaced : s'.Spaced
  size : s'.nodes.size = s.nodes.size + 1
  label : ∀ x, x < s.nodes.size → x ≠ a → s'.label x = (s.remove a).label x
  parent : ∀ x, x < s.nodes.size → s'.parent x = if x = a then none else s.parent x
  children : ∀ x, x < s.nodes.size → s'.children x = (s.children x).erase a
  free : s'.parent s.nodes.size = none
  label_new : s'.label s.nodes.size = new
  children_new : s'.children s.nodes.size = []

theorem cutOut (spaced : s.Spaced) (stored : a < s.nodes.size) (inner : a ≠ root) (kind : Kind)
    {new : Label} (known : new.raws.before.isSome) :
    CutOut s (((s.remove a).setKind a kind).plant (.node new [])).2 a new := by
  have linked := spaced.linked
  have size : ((s.remove a).setKind a kind).nodes.size = s.nodes.size := by
    rw [size_setKind, size_remove]
  have planted := ((spaced.remove a).setKind inner kind).leafPlanted known
  obtain ⟨spaced', room, label, parent, children, free, labelNew, childrenNew⟩ := planted
  rw [size] at room label parent children free labelNew childrenNew
  refine ⟨spaced', room, fun x old other => ?_, fun x old => ?_, fun x old => ?_, free, labelNew,
    childrenNew⟩
  · rw [label x old, label_setKind _ _ _ _ (by rw [size_remove]; exact stored), if_neg other]
  · rw [parent x old, parent_setKind, linked.parent_remove]
  · rw [children x old, children_setKind, linked.children_remove]

/-- One of a pair has been taken away, and its children now hang in a new node at the end of the
other. -/
structure TurnedInside (s s' : Sheet) (place a b : NodeId) (front behind : List NodeId)
    (new : Label) : Prop where
  spaced : s'.Spaced
  size : s'.nodes.size = s.nodes.size + 1
  label : ∀ x, x < s.nodes.size → x ≠ a → x ≠ b → s'.label x = s.label x
  label_inner : ∃ before, s'.label b = (s.label b).setBefore before ∧
    (before = (s.label b).raws.before ∨ before = (s.label a).raws.before)
  label_new : s'.label s.nodes.size = new
  top : ∀ x, x < s.nodes.size → s.parent x = none → s'.parent x = none
  emptied : s'.parent a = none ∧ s'.children a = []
  row : s'.children place = front ++ b :: behind
  grown : s'.children b = s.children b ++ [s.nodes.size]
  handed : s'.children s.nodes.size = s.children a
  children : ∀ x, x < s.nodes.size → x ≠ place → x ≠ a → x ≠ b → s'.children x = s.children x

theorem turnedInside (spaced : s.Spaced) (beside : s.Beside place a b front behind) (inner : a ≠ root)
    {new : Label} (known : new.raws.before.isSome) {planted : Sheet} (cut : CutOut s planted a new) :
    TurnedInside s
      (((planted.children a).foldl (fun sheet child => sheet.append s.nodes.size child) planted).append
        b s.nodes.size) place a b front behind new := by
  have linked := spaced.linked
  have upA := beside.up_left linked
  have storedA : a < s.nodes.size := stored_of_parent upA
  have storedB : b < s.nodes.size := stored_of_parent (beside.up_right linked)
  have notPlaceB := beside.symm.ne_place linked
  have rowA : planted.children a = s.children a := by
    rw [cut.children a storedA, linked.erase_children_of_ne upA (beside.ne_place linked)]
  -- First the children go over to the new node.
  have handed := cut.spaced.handedOver rowA (cut.size ▸ Nat.lt_succ_self _) cut.free
    (Nat.ne_of_lt storedA).symm inner
  rw [rowA]
  generalize (s.children a).foldl (fun sheet child => sheet.append s.nodes.size child) planted =
    filled at handed ⊢
  -- Then the new node is attached. The nodes above `b` are where they were.
  have outside : ¬ filled.Under b s.nodes.size := by
    intro under
    have before : s.Under b s.nodes.size := by
      apply under.of_same_above
      intro x above
      have notA : x ≠ a := by
        rintro rfl
        exact beside.not_under linked above
      have notListed : x ∉ s.children a := by
        intro listed
        exact beside.not_under linked
          (above.trans ((under_refl s a).step (linked.parent_of_mem listed)))
      rw [handed.parent, if_neg notListed, cut.parent x (linked.stored_above above storedB), if_neg notA]
    exact Nat.lt_irrefl _ (linked.stored_above before storedB)
  have notListed : s.nodes.size ∉ s.children a :=
    fun listed => Nat.lt_irrefl _ (linked.stored_of_mem listed)
  have done := handed.spaced.attached (by rw [handed.size, cut.size]; exact Nat.lt_succ_of_lt storedB)
    (by rw [handed.size, cut.size]; exact Nat.lt_succ_self _)
    (by rw [handed.label, cut.label_new]; exact known)
    (by rw [handed.parent, if_neg notListed]; exact cut.free) outside
  have ofOld : ∀ x, x < s.nodes.size → x ≠ a → filled.children x = (s.children x).erase a := by
    intro x old other
    rw [handed.children, if_neg other, if_neg (Nat.ne_of_lt old), cut.children x old]
  refine ⟨done.spaced, by rw [done.size, handed.size, cut.size], fun x old notA notB => ?_, ?_, ?_,
    fun x old free => ?_, ?_, ?_, ?_, ?_, fun x old notPlace notA notB => ?_⟩
  · rw [done.label, handed.label, cut.label x old notA, beside.label_remove linked notB]
  · obtain ⟨before, same, passed⟩ := linked.exists_label_remove a b
    exact ⟨before,
      by rw [done.label, handed.label, cut.label b storedB (beside.ne linked).symm, same], passed⟩
  · rw [done.label, handed.label, cut.label_new]
  · have notChild : x ∉ s.children a := by
      intro listed
      rw [linked.parent_of_mem listed] at free
      cases free
    rw [done.parent, if_neg (Nat.ne_of_lt old), handed.parent, if_neg notChild, cut.parent x old]
    split
    · rfl
    · exact free
  · have notOwn : a ∉ s.children a :=
      fun listed => linked.not_under_child (linked.parent_of_mem listed) (under_refl s a)
    refine ⟨?_, by rw [done.children, if_neg (beside.ne linked), handed.children, if_pos rfl]⟩
    rw [done.parent, if_neg (Nat.ne_of_lt storedA), handed.parent, if_neg notOwn, cut.parent a storedA,
      if_pos rfl]
  · rw [done.children, if_neg notPlaceB.symm,
      ofOld place (stored_of_child (linked.mem_of_parent upA)) (beside.ne_place linked).symm,
      beside.erase_left linked]
  · rw [done.children, if_pos rfl, ofOld b storedB (beside.ne linked).symm,
      linked.erase_children_of_ne upA notPlaceB]
  · rw [done.children, if_neg (Nat.ne_of_lt storedB).symm, handed.children,
      if_neg (Nat.ne_of_lt storedA).symm, if_pos rfl, cut.children_new, List.nil_append]
  · rw [done.children, if_neg notB, ofOld x old notA, linked.erase_children_of_ne upA notPlace]

theorem Linked.map_tree_children {s' : Sheet} (linked : s.Linked) (linked' : s'.Linked) {id : NodeId}
    (same : ∀ c ∈ s.children id, ∀ x, s.Under x c →
      s'.label x = s.label x ∧ s'.children x = s.children x) :
    (s.children id).map s'.tree = (s.children id).map s.tree := by
  apply List.map_congr_left
  intro c listed
  exact linked.tree_congr linked' c (same c listed)

/-- The children of `c`, the first child of `b`, now hang in a new node at the end of `a`, and `c` is
gone. -/
structure Wrapped (s s' : Sheet) (a b c : NodeId) (rest : List NodeId) (new : Label) : Prop where
  spaced : s'.Spaced
  size : s.nodes.size < s'.nodes.size
  label : ∀ x, x < s.nodes.size → s'.label x = s.label x
  top : ∀ x, x < s.nodes.size → s.parent x = none → s'.parent x = none
  tree : s'.tree s.nodes.size = .node new ((s.children c).map s.tree)
  grown : s'.children a = s.children a ++ [s.nodes.size]
  shrunk : s'.children b = rest
  children : ∀ x, x < s.nodes.size → x ≠ a → x ≠ b → s'.children x = s.children x

theorem wrapped (spaced : s.Spaced) {c : NodeId} {rest : List NodeId} (storedA : a < s.nodes.size)
    (different : a ≠ b) (upB : s.parent b = some place) (inner : b ≠ root)
    (row : s.children b = c :: rest) {new : Label} (known : new.raws.before.isSome) {planted : Sheet}
    (leaf : LeafPlanted s planted new) :
    Wrapped s
      ((((planted.children c).foldl (fun sheet child =>
        (sheet.clone child).2.append s.nodes.size (sheet.clone child).1) planted).append a
          s.nodes.size).remove c) a b c rest new := by
  have linked := spaced.linked
  have storedB := stored_of_parent upB
  have upC : s.parent c = some b := linked.parent_of_mem (by rw [row]; exact List.mem_cons_self)
  have storedC := stored_of_parent upC
  have room : s.nodes.size < planted.nodes.size := leaf.size ▸ Nat.lt_succ_self _
  -- First the new node is filled with copies.
  rw [leaf.children c storedC]
  have filled := leaf.spaced.graftRow (s.children c) room
    (fun child listed => by
      rw [leaf.parent child (linked.stored_of_mem listed), linked.parent_of_mem listed]
      rfl)
    (fun child listed under => Nat.lt_irrefl s.nodes.size (by
      conv_lhs => rw [under_of_parent_eq_none leaf.free under]
      exact linked.stored_of_mem listed))
  generalize (s.children c).foldl (fun sheet child =>
    (sheet.clone child).2.append s.nodes.size (sheet.clone child).1) planted = copied at filled ⊢
  have oldP : ∀ {x}, x < s.nodes.size → x < planted.nodes.size := fun old => Nat.lt_trans old room
  have trees : (s.children c).map planted.tree = (s.children c).map s.tree :=
    linked.map_tree_children leaf.spaced.linked fun child listed x under => by
      have old := under.stored (linked.stored_of_mem listed)
      exact ⟨leaf.label x old, leaf.children x old⟩
  have treeC : copied.tree s.nodes.size = .node new ((s.children c).map s.tree) := by
    rw [filled.spaced.linked.tree_eq, filled.grown, leaf.children_new, List.map_nil, List.nil_append,
      trees, filled.label _ room, leaf.label_new]
  have notUnder : ∀ x, x < s.nodes.size → ¬ copied.Under x s.nodes.size := by
    intro x old under
    have before : s.Under x s.nodes.size := (filled.under leaf.spaced.linked (oldP old) under).of_same_above
      fun y above => leaf.parent y (linked.stored_above above old)
    exact Nat.lt_irrefl _ (linked.stored_above before old)
  -- Then it is attached, and the first child is taken away.
  have done := filled.spaced.attached (Nat.lt_of_lt_of_le (oldP storedA) filled.size)
    (Nat.lt_of_lt_of_le room filled.size)
    (by rw [filled.label _ room, leaf.label_new]; exact known)
    (by rw [filled.parent _ room]; exact leaf.free) (notUnder a storedA)
  generalize copied.append a s.nodes.size = attached at done
  have upC' : attached.parent c = some b := by
    rw [done.parent, if_neg (Nat.ne_of_lt storedC), filled.parent c (oldP storedC),
      leaf.parent c storedC, upC]
  have notHeir : ∀ x, ¬ attached.Heir c x := by
    rintro x ⟨others, top⟩
    have up := done.spaced.linked.parent_of_mem
      (show c ∈ attached.children root by rw [top]; exact List.mem_cons_self)
    rw [upC'] at up
    exact inner (Option.some.inj up)
  have labels : ∀ x, (attached.remove c).label x = copied.label x := fun x => by
    rw [done.spaced.linked.label_remove_of_not_heir (notHeir x), done.label]
  have links : ∀ x, x ≠ b → (attached.remove c).children x =
      if x = a then copied.children x ++ [s.nodes.size] else copied.children x := by
    intro x other
    rw [done.spaced.linked.children_remove, done.spaced.linked.erase_children_of_ne upC' other,
      done.children]
  have oldChildren : ∀ x, x < s.nodes.size → copied.children x = s.children x := by
    intro x old
    rw [filled.children x (oldP old) (Nat.ne_of_lt old), leaf.children x old]
  refine ⟨done.spaced.remove c, ?_, fun x old => ?_, fun x old free => ?_, ?_, ?_, ?_,
    fun x old notA notB => ?_⟩
  · rw [size_remove, done.size]
    exact Nat.lt_of_lt_of_le room filled.size
  · rw [labels, filled.label x (oldP old), leaf.label x old]
  · rw [done.spaced.linked.parent_remove]
    split
    · rfl
    · rw [done.parent, if_neg (Nat.ne_of_lt old), filled.parent x (oldP old), leaf.parent x old, free]
  · rw [filled.spaced.linked.tree_congr (done.spaced.remove c).linked s.nodes.size, treeC]
    intro x under
    have notA : x ≠ a := by
      rintro rfl
      exact notUnder x storedA under
    have notB : x ≠ b := by
      rintro rfl
      exact notUnder x storedB under
    rw [labels, links x notB, if_neg notA]
    exact ⟨rfl, rfl⟩
  · rw [links a different, if_pos rfl, oldChildren a storedA]
  · rw [done.spaced.linked.children_remove, done.children, if_neg different.symm, oldChildren b storedB,
      row, List.erase_cons_head]
  · rw [links x notB, if_neg notA, oldChildren x old]

end moves

end Sheet

end NestLint
