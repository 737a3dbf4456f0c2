import NestLint.Proofs.Sheet.Subtree

/-!
Deep copies. A copy can be made node by node: the node alone is stored first, then its children are copied in
turn, and each copy is hung behind the others as soon as it is finished. Since every copy goes to the end of
the store, this is the same as planting the tree of the node, whose numbers follow the preorder. So the
copies take the next numbers in the order of the originals, and the copy of a node names the copies of its
parent and of its children.
-/

namespace NestLint

namespace Tree

theorem rootsFrom_concat (base : NodeId) (ts : List (Tree Label)) (t : Tree Label) :
    rootsFrom base (ts ++ [t]) = rootsFrom base ts ++ [base + sizeAll ts] := by
  induction ts generalizing base with
  | nil => rfl
  | cons u rest ih => rw [List.cons_append, rootsFrom, rootsFrom, ih, sizeAll, Nat.add_assoc, List.cons_append]

theorem layoutAll_concat (base parent : NodeId) (ts : List (Tree Label)) (t : Tree Label) :
    layoutAll base parent (ts ++ [t]) =
      layoutAll base parent ts ++ layout (base + sizeAll ts) (some parent) t := by
  induction ts generalizing base with
  | nil => simp [layoutAll, sizeAll]
  | cons u rest ih =>
    rw [List.cons_append, layoutAll, layoutAll, ih, sizeAll, Nat.add_assoc, List.append_assoc]

end Tree

namespace Sheet

open Tree

section hanging

variable (cursors : List Cursor) (front back : List Node) (n : Node)

theorem modify_mid (f : Node → Node) :
    modify ⟨(front ++ n :: back).toArray, cursors⟩ front.length f =
      ⟨(front ++ f n :: back).toArray, cursors⟩ := by
  have same : (front ++ n :: back).modify front.length f = front ++ f n :: back := by
    induction front with
    | nil => rfl
    | cons m rest ih => rw [List.cons_append, List.length_cons, List.modify_succ_cons, ih, List.cons_append]
  rw [modify, List.modify_toArray, same]

theorem children_mid : children ⟨(front ++ n :: back).toArray, cursors⟩ front.length = n.children := by
  simp [children, node, Array.getD]

end hanging

def adopt (s : Sheet) (parent child : NodeId) : Sheet :=
  (s.setParent child (some parent)).setChildren parent (s.children parent ++ [child])

theorem adopt_plant (s : Sheet) (l : Label) (ts : List (Tree Label)) (t : Tree Label) :
    ((s.plant (.node l ts)).2.plant t).2.adopt s.nodes.size ((s.plant (.node l ts)).2.plant t).1 =
      (s.plant (.node l (ts ++ [t]))).2 := by
  obtain ⟨⟨old⟩, cursors⟩ := s
  obtain ⟨below, us⟩ := t
  have second : old.length + (sizeAll ts + 1) =
      (old ++ Node.mk l none (rootsFrom (old.length + 1) ts) ::
        layoutAll (old.length + 1) old.length ts).length := by
    rw [List.length_append, List.length_cons, length_layoutAll]
  have next : old.length + 1 + sizeAll ts = old.length + (sizeAll ts + 1) := by omega
  simp only [plant, layout, List.size_toArray, List.append_toArray, List.length_append, List.length_cons,
    length_layoutAll]
  rw [adopt, setParent, second, modify_mid, setChildren]
  simp only [List.append_assoc, List.cons_append]
  rw [modify_mid, children_mid, layoutAll_concat, rootsFrom_concat, layout, next, second]

/-- A deep copy made node by node, as far as `fuel` goes. -/
def copyWithin : Nat → Sheet → NodeId → NodeId × Sheet
  | 0, s, id => s.cloneEmpty id
  | fuel + 1, s, id =>
    let alone := s.cloneEmpty id
    (alone.1, (alone.2.children id).foldl (fun s child =>
      (copyWithin fuel s child).2.adopt alone.1 (copyWithin fuel s child).1) alone.2)

/-- The second sheet holds the nodes of the first one as they are, and perhaps more behind them. -/
structure Extends (s later : Sheet) : Prop where
  size : s.nodes.size ≤ later.nodes.size
  node : ∀ x < s.nodes.size, later.node x = s.node x

theorem Extends.plant {s later : Sheet} (more : s.Extends later) (t : Tree Label) :
    s.Extends (later.plant t).2 where
  size := by rw [size_plant]; exact Nat.le_add_right_of_le more.size
  node x old := by rw [node_plant_of_lt (Nat.lt_of_lt_of_le old more.size), more.node x old]

section copying

variable {s : Sheet} {fuel : Nat}

theorem foldl_copyWithin {t : NodeId → Tree Label}
    (each : ∀ later, s.Extends later → ∀ id < s.nodes.size, copyWithin fuel later id = later.plant (t id))
    {first : Sheet} (more : s.Extends first) (l : Label) (done : List (Tree Label)) {ids : List NodeId}
    (stored : ∀ id ∈ ids, id < s.nodes.size) :
    ids.foldl (fun s child => (copyWithin fuel s child).2.adopt first.nodes.size (copyWithin fuel s child).1)
        (first.plant (.node l done)).2 =
      (first.plant (.node l (done ++ ids.map t))).2 := by
  induction ids generalizing done with
  | nil => rw [List.map_nil, List.append_nil, List.foldl_nil]
  | cons id rest ih =>
    rw [List.forall_mem_cons] at stored
    rw [List.foldl_cons, each _ (more.plant _) id stored.1, adopt_plant, ih (done ++ [t id]) stored.2,
      List.map_cons, List.append_assoc, List.singleton_append]

theorem copyWithin_eq_plant (stored : ∀ x, ∀ child ∈ s.children x, child < s.nodes.size) (fuel : Nat)
    (later : Sheet) (more : s.Extends later) (id : NodeId) (old : id < s.nodes.size) :
    copyWithin fuel later id = later.plant ((s.shapeWithin fuel id).map s.label) := by
  have label : later.label id = s.label id := by rw [Sheet.label, more.node id old, Sheet.label]
  induction fuel generalizing later id with
  | zero => rw [copyWithin, cloneEmpty, label, shapeWithin, Tree.map, mapAll]
  | succ fuel ih =>
    have row : (later.plant (.node (s.label id) [])).2.children id = s.children id := by
      rw [Sheet.children, (more.plant _).node id old, Sheet.children]
    have each : ∀ later, s.Extends later → ∀ id < s.nodes.size,
        copyWithin fuel later id = later.plant ((s.shapeWithin fuel id).map s.label) := by
      intro later more id old
      exact ih later more id old (by rw [Sheet.label, more.node id old, Sheet.label])
    have copied := foldl_copyWithin each more (s.label id) [] (stored id)
    rw [shapeWithin, Tree.map, mapAll_eq_map, List.map_map, copyWithin, cloneEmpty, label, row]
    exact Prod.ext rfl copied

end copying

def subtree (s : Sheet) (id : NodeId) : List NodeId := id :: s.descendants id

section numbering

variable {s s' : Sheet} (linked : s.Linked) {number : NodeId → NodeId}

include linked

theorem Linked.length_subtree (id : NodeId) : (s.subtree id).length = (s.tree id).size := by
  rw [subtree, ← linked.preorder_shape, length_preorder, tree, size_map]

theorem Linked.planted_siblings {ids : List NodeId} {base parent : NodeId}
    (planted : s'.PlantedAll base parent (ids.map s.tree))
    (counts : (ids.flatMap s.subtree).map number = List.range' base (sizeAll (ids.map s.tree))) :
    rootsFrom base (ids.map s.tree) = ids.map number ∧
      ∀ id ∈ ids, s'.Planted (number id) (some parent) (s.tree id) ∧
        (s.subtree id).map number = List.range' (number id) (s.tree id).size := by
  induction ids generalizing base with
  | nil => exact ⟨rfl, fun id listed => absurd listed List.not_mem_nil⟩
  | cons id rest ih =>
    rw [List.map_cons] at planted
    rw [List.flatMap_cons, List.map_append, List.map_cons, sizeAll, ← List.range'_append_1] at counts
    have lengths : ((s.subtree id).map number).length = (List.range' base (s.tree id).size).length := by
      rw [List.length_map, linked.length_subtree, List.length_range']
    have ⟨first, later⟩ := List.append_inj counts lengths
    have begins : number id = base := by
      obtain ⟨size, positive⟩ := Nat.exists_eq_add_one.mpr (size_pos (s.tree id))
      rw [positive, List.range'_succ, subtree, List.map_cons, List.cons.injEq] at first
      exact first.1
    have ⟨roots, others⟩ := ih planted.2 later
    rw [List.map_cons, rootsFrom, roots, List.map_cons, begins]
    refine ⟨rfl, fun other listed => ?_⟩
    rcases List.mem_cons.mp listed with rfl | behind
    · rw [begins]
      exact ⟨planted.1, first⟩
    · exact others other behind

theorem Linked.subtree_eq (id : NodeId) : s.subtree id = id :: (s.children id).flatMap s.subtree := by
  rw [subtree, ← linked.preorder_shape, linked.shape_eq, Tree.preorder, preorderAll_map]
  congr 2
  funext child
  exact linked.preorder_shape child

theorem Linked.node_of_planted {id : NodeId} {parent : Option NodeId}
    (planted : s'.Planted (number id) parent (s.tree id))
    (counts : (s.subtree id).map number = List.range' (number id) (s.tree id).size) {x : NodeId}
    (below : s.Under x id) :
    s'.node (number x) =
      { s.label x with
        parent := if x = id then parent else (s.parent x).map number
        children := (s.children x).map number } := by
  induction id using linked.induction_below generalizing parent with
  | step id ih =>
    rw [linked.tree_eq] at planted counts
    rw [linked.subtree_eq, List.map_cons, size, List.range'_succ, List.cons.injEq] at counts
    have ⟨roots, each⟩ := linked.planted_siblings planted.2.2 counts.2
    rcases Relation.ReflTransGen.cases_tail below with rfl | ⟨child, under, up⟩
    · rw [planted.2.1, roots, if_pos rfl]
    · have listed := linked.mem_of_parent up
      have ⟨childPlanted, childCounts⟩ := each child listed
      rw [ih child listed childPlanted childCounts under]
      have other : x ≠ id := linked.ne_of_under_child up under (under_refl s id)
      rw [if_neg other]
      by_cases top : x = child
      · rw [if_pos top, top, up, Option.map_some]
      · rw [if_neg top]

end numbering

/-- The number that the copy of a node gets when the subtree of `id` is copied: the copies follow behind all
other nodes, in the order of their originals. -/
def copyOf (s : Sheet) (id x : NodeId) : NodeId := s.nodes.size + (s.subtree id).idxOf x

/-- The second sheet is the first one with a copy of the subtree of `id` behind its nodes. -/
structure CopiedBehind (s s' : Sheet) (id copy : NodeId) : Prop where
  /-- The copy of the node itself takes the next number. -/
  first : copy = s.nodes.size
  size : s'.nodes.size = s.nodes.size + (s.subtree id).length
  /-- The nodes that are copied are those below the node. -/
  mem : ∀ x, x ∈ s.subtree id ↔ s.Under x id
  /-- They are listed in preorder. -/
  preorder : ∀ x, s.subtree x = x :: (s.children x).flatMap s.subtree
  /-- The copies take the next numbers, one each, in the order of this list. -/
  numbers : (s.subtree id).map (s.copyOf id) = List.range' s.nodes.size (s.subtree id).length
  /-- A copy has kind, layout and source of its original, and hangs among the copies as the original hangs
  among the originals; the copy of the node itself hangs nowhere. -/
  node : ∀ x ∈ s.subtree id, s'.node (s.copyOf id x) =
    { s.label x with
      parent := if x = id then none else (s.parent x).map (s.copyOf id)
      children := (s.children x).map (s.copyOf id) }
  /-- Nothing else has changed. -/
  old : ∀ x < s.nodes.size, s'.node x = s.node x
  cursors : s'.cursors = s.cursors

theorem Linked.nodup_subtree {s : Sheet} (linked : s.Linked) (id : NodeId) : (s.subtree id).Nodup := by
  rw [subtree, ← linked.preorder_shape]
  exact linked.nodup_preorder_shape id

theorem Linked.map_copyOf {s : Sheet} (linked : s.Linked) (id : NodeId) :
    (s.subtree id).map (s.copyOf id) = List.range' s.nodes.size (s.subtree id).length := by
  apply List.ext_getElem
  · rw [List.length_map, List.length_range']
  · intro i inside _
    rw [List.getElem_map, List.getElem_range', copyOf, (linked.nodup_subtree id).idxOf_getElem, Nat.one_mul]

theorem Linked.copyWithin_eq_clone {s : Sheet} (linked : s.Linked) {id : NodeId} (stored : id < s.nodes.size)
    {fuel : Nat} (enough : s.nodes.size ≤ fuel) : copyWithin fuel s id = s.clone id := by
  have shape : s.shapeWithin fuel id = s.shape id := by
    induction fuel, enough using Nat.le_induction with
    | base => rfl
    | succ fuel enough ih =>
      have deep : (s.reach id).card ≤ fuel + 1 := by
        have := card_reach_le s id
        omega
      rw [linked.shapeWithin_succ fuel id deep, ih]
  rw [clone, tree, ← shape]
  exact copyWithin_eq_plant (fun _ _ listed => linked.stored_of_mem listed) fuel s
    ⟨Nat.le_refl _, fun _ _ => rfl⟩ id stored

/-- A deep copy of a subtree is faithful and fresh, and making it node by node gives the same, however many
levels are allowed for it beyond the number of nodes. -/
theorem clone_copies {s : Sheet} (formed : s.WellFormed) {id : NodeId} (stored : id < s.nodes.size) :
    CopiedBehind s (s.clone id).2 id (s.clone id).1 ∧
      ∀ fuel, s.nodes.size ≤ fuel → copyWithin fuel s id = s.clone id := by
  have linked := formed.linked
  have mem : ∀ x, x ∈ s.subtree id ↔ s.Under x id := by
    intro x
    rw [subtree, ← linked.preorder_shape, linked.mem_preorder_shape]
  have begins : s.copyOf id id = s.nodes.size := by
    rw [copyOf, subtree, List.idxOf_cons_self, Nat.add_zero]
  have planted := planted_plant s (s.tree id)
  have counts := linked.map_copyOf id
  rw [← begins] at planted
  rw [← begins, linked.length_subtree] at counts
  refine ⟨⟨rfl, ?_, mem, linked.subtree_eq, linked.map_copyOf id, ?_, ?_, rfl⟩, ?_⟩
  · rw [clone, size_plant, linked.length_subtree]
  · intro x listed
    exact linked.node_of_planted planted counts ((mem x).mp listed)
  · intro x old
    exact node_plant_of_lt old
  · intro fuel enough
    exact linked.copyWithin_eq_clone stored enough

/-- A rule that holds a rule with a declaration and an empty one, between two others. -/
theorem clone_copies_nested :
    ∃ s, Sheet.parse "x\x7b\x7da\x7bb\x7bc:d\x7de\x7b\x7d\x7df\x7b\x7d" = .ok s ∧
      CopiedBehind s (s.clone 2).2 2 (s.clone 2).1 ∧ copyWithin 7 s 2 = s.clone 2 ∧ (s.clone 2).1 = 7 ∧
      (s.clone 2).2.children 7 = [8, 10] ∧ (s.clone 2).2.parent 9 = some 8 := by
  have known : ((Sheet.parse "x\x7b\x7da\x7bb\x7bc:d\x7de\x7b\x7d\x7df\x7b\x7d").toOption.any fun s =>
      s.nodes.size == 7 && s.subtree 2 == [2, 3, 4, 5] && s.children 2 == [3, 5] && s.parent 4 == some 3) =
        true := by
    decide +kernel
  obtain ⟨s, parsed⟩ := Sheet.exists_sheet_of_accepted
    "x\x7b\x7da\x7bb\x7bc:d\x7de\x7b\x7d\x7df\x7b\x7d" (by decide +kernel)
  rw [parsed] at known
  simp only [Except.toOption, Option.any_some, Bool.and_eq_true, beq_iff_eq] at known
  obtain ⟨⟨⟨size, below⟩, row⟩, up⟩ := known
  obtain ⟨copied, same⟩ := clone_copies (Sheet.laid_of_parse parsed).toWellFormed
    (show 2 < s.nodes.size by rw [size]; decide)
  have number : ∀ x, s.copyOf 2 x = 7 + [2, 3, 4, 5].idxOf x := by
    intro x
    rw [copyOf, size, below]
  have top := copied.node 2 (by rw [below]; decide)
  have deepest := copied.node 4 (by rw [below]; decide)
  rw [number] at top deepest
  refine ⟨s, parsed, copied, same 7 (Nat.le_of_eq size), copied.first.trans size, ?_, ?_⟩
  · calc (s.clone 2).2.children 7
        = (s.children 2).map (s.copyOf 2) := congrArg Node.children top
      _ = [s.copyOf 2 3, s.copyOf 2 5] := by rw [row]; rfl
      _ = [8, 10] := by rw [number, number]; rfl
  · calc (s.clone 2).2.parent 9
        = (s.parent 4).map (s.copyOf 2) := congrArg Node.parent deepest
      _ = some (s.copyOf 2 3) := by rw [up, Option.map_some]
      _ = some 8 := by rw [number]; rfl

end Sheet

end NestLint
