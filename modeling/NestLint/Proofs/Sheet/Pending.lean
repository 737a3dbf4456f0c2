import NestLint.Proofs.Nesting.Termination

/-!
What is pending in a walk: the children that the open containers have not come to yet. A node that is no
longer pending may be taken away or put somewhere else, as long as it does not go into an open container;
the cursors move along, and what is pending stays exactly the same.
-/

namespace NestLint

namespace Sheet

variable {s s' : Sheet} {id parent x : NodeId}

/-- The children that the open containers still have to visit, those of the innermost first. -/
def pending (s : Sheet) : List NodeId :=
  s.cursors.flatMap fun cursor => (s.children cursor.container).drop cursor.next

theorem pending_congr (cursors : s'.cursors = s.cursors)
    (rows : ∀ c ∈ s.containers, s'.children c = s.children c) : s'.pending = s.pending := by
  rw [pending, pending, cursors]
  apply List.flatMap_congr
  intro cursor isOpen
  rw [rows cursor.container (List.mem_map_of_mem isOpen)]

theorem Linked.parent_of_pending (linked : s.Linked) (waits : x ∈ s.pending) :
    ∃ c ∈ s.containers, s.parent x = some c := by
  obtain ⟨cursor, isOpen, listed⟩ := List.mem_flatMap.mp waits
  exact ⟨cursor.container, List.mem_map_of_mem isOpen, linked.parent_of_mem (List.mem_of_mem_drop listed)⟩

theorem Linked.pending_of_before (linked : s.Linked) {place prev node : NodeId} {front behind : List NodeId}
    (row : s.children place = front ++ prev :: node :: behind) (waits : prev ∈ s.pending) :
    node ∈ s.pending := by
  obtain ⟨cursor, isOpen, listed⟩ := List.mem_flatMap.mp waits
  have here : cursor.container = place := by
    have up := linked.parent_of_mem (List.mem_of_mem_drop listed)
    rw [linked.parent_of_mem (show prev ∈ s.children place by rw [row]; simp)] at up
    exact (Option.some.inj up).symm
  refine List.mem_flatMap.mpr ⟨cursor, isOpen, ?_⟩
  have once := linked.nodup place
  rw [row, List.nodup_append, List.nodup_cons] at once
  obtain ⟨-, ⟨notLater, -⟩, notEarlier⟩ := once
  rw [here, row] at listed ⊢
  by_cases early : cursor.next ≤ front.length
  · rw [List.drop_append_of_le_length early]
    simp
  · obtain ⟨more, isNext⟩ := Nat.exists_eq_add_of_lt (Nat.not_le.mp early)
    have later : (front ++ prev :: node :: behind).drop cursor.next = (node :: behind).drop more := by
      rw [isNext, Nat.add_assoc, ← List.drop_drop, List.drop_left, List.drop_succ_cons]
    rw [later] at listed
    exact absurd (List.mem_of_mem_drop listed) notLater

theorem Linked.nodup_pending (linked : s.Linked) (stacked : s.Stacked s.containers) : s.pending.Nodup := by
  refine List.nodup_flatMap.mpr ⟨fun cursor _ => (linked.nodup cursor.container).drop, ?_⟩
  refine (List.pairwise_map.mp stacked.nested).imp fun {cursor cursor'} apart x listed listed' => ?_
  have up := linked.parent_of_mem (List.mem_of_mem_drop listed)
  rw [linked.parent_of_mem (List.mem_of_mem_drop listed')] at up
  exact apart.1 (Option.some.inj up).symm

theorem pending_enter (s : Sheet) (id : NodeId) : (s.enter id).pending = s.children id ++ s.pending := rfl

section step

variable {cursor : Cursor} {outer : List Cursor}

theorem pending_leave (cursors : s.cursors = cursor :: outer)
    (next : (s.children cursor.container)[cursor.next]? = none) :
    ({ s with cursors := outer } : Sheet).pending = s.pending := by
  have nothing : (s.children cursor.container).drop cursor.next = [] :=
    List.drop_eq_nil_of_le (List.getElem?_eq_none_iff.mp next)
  rw [pending, pending, cursors, List.flatMap_cons, nothing]
  rfl

theorem pending_next (cursors : s.cursors = cursor :: outer) {child : NodeId}
    (next : (s.children cursor.container)[cursor.next]? = some child) :
    s.pending = child ::
      ({ s with cursors := { cursor with next := cursor.next + 1 } :: outer } : Sheet).pending := by
  obtain ⟨inside, isChild⟩ := List.getElem?_eq_some_iff.mp next
  rw [pending, pending, cursors, List.flatMap_cons, List.flatMap_cons, List.drop_eq_getElem_cons inside, isChild]
  rfl

end step

theorem drop_eraseIdx {row : List NodeId} {index next : Nat} (before : index < next)
    (inside : index < row.length) : (row.eraseIdx index).drop (next - 1) = row.drop next := by
  have front : (row.take index).length = index := List.length_take_of_le (Nat.le_of_lt inside)
  rw [List.eraseIdx_eq_take_drop_succ, List.drop_append, List.drop_eq_nil_of_le (by omega), front,
    List.nil_append, List.drop_drop]
  congr 1
  omega

theorem pending_remove (done : id ∉ s.pending) : (s.remove id).pending = s.pending := by
  cases isIndex : s.indexOf? id with
  | none =>
    rw [remove, isIndex]
    split
    next isSome => cases isSome
    next => rfl
  | some index =>
    obtain ⟨place, up, listed⟩ := Option.bind_eq_some_iff.mp isIndex
    obtain ⟨inside, isHere, -⟩ := List.idxOf?_eq_some_iff.mp listed
    have cursors : (s.remove id).cursors = s.cursors.map (·.afterRemoval place index) := by
      simp only [remove, up, isIndex]
      exact congrArg _ (cursors_passBefore s id place index)
    have rows : ∀ c, (s.remove id).children c =
        if c = place then (s.children place).eraseIdx index else s.children c := by
      intro c
      simp only [remove, up, isIndex]
      change (((s.passBefore id place index).setChildren place _).setParent id none).children c = _
      rw [children_setParent, children_setChildren _ _ _ _
        (by rw [size_passBefore]; exact stored_of_child (List.getElem_mem inside)), children_passBefore,
        children_passBefore]
    rw [pending, cursors, List.flatMap_map]
    apply List.flatMap_congr
    intro cursor isOpen
    have waits : cursor.container = place → index < cursor.next := by
      intro here
      by_contra late
      apply done
      refine List.mem_flatMap.mpr ⟨cursor, isOpen, ?_⟩
      rw [here, ← isHere, List.mem_drop_iff_getElem]
      exact ⟨index - cursor.next, by omega, by congr 1; omega⟩
    by_cases here : cursor.container = place
    · have before := waits here
      rw [Cursor.afterRemoval, if_pos ⟨here, before⟩, rows, if_pos here, here, drop_eraseIdx before inside]
    · rw [Cursor.afterRemoval, if_neg (fun both => here both.1), rows, if_neg here]

theorem pending_append (done : id ∉ s.pending) (shut : parent ∉ s.containers) :
    (s.append parent id).pending = s.pending := by
  rw [← pending_remove done]
  apply pending_congr
  · exact cursors_borrowBefore (s.remove id) id parent
  · intro c isOpen
    rw [containers_remove] at isOpen
    have other : c ≠ parent := by
      rintro rfl
      exact shut isOpen
    rw [append, setChildren, Sheet.children, node_modify_of_ne _ _ _ _ other, ← Sheet.children,
      children_setParent, children_borrowBefore]

theorem pending_foldl_append (ids : List NodeId) (done : ∀ id ∈ ids, id ∉ s.pending)
    (shut : parent ∉ s.containers) :
    (ids.foldl (fun sheet id => sheet.append parent id) s).pending = s.pending := by
  induction ids generalizing s with
  | nil => rfl
  | cons id rest ih =>
    obtain ⟨own, later⟩ := List.forall_mem_cons.mp done
    have same := pending_append own shut
    rw [List.foldl_cons, ih (by rwa [same]) (by rwa [containers_append]), same]

theorem pending_plant (t : Tree Label) (stored : ∀ c ∈ s.containers, c < s.nodes.size) :
    (s.plant t).2.pending = s.pending :=
  pending_congr rfl fun c isOpen => children_plant_of_lt (stored c isOpen)

theorem pending_setKind (kind : Kind) : (s.setKind id kind).pending = s.pending :=
  pending_congr rfl fun c _ => children_setKind s id c kind

end Sheet

end NestLint
