import NestLint.Proofs.Sheet.Moves
import NestLint.Proofs.Source.RoundTrip

/-!
Sheets that know what stands before every node. In such a sheet no node has to borrow blanks when it
is appended, so moving nodes changes no label but that of the node that becomes first below the root.
Every sheet that has been read is of this kind, and the moves that nesting is made of keep it so: a row
of children that goes over to another node, and a row of copies that is put into a node.
-/

namespace NestLint

namespace Tree

theorem mem_preorderAll {α : Type} {a : α} {ts : List (Tree α)} :
    a ∈ preorderAll ts ↔ ∃ t ∈ ts, a ∈ t.preorder := by
  induction ts with
  | nil => simp [preorderAll]
  | cons t rest ih => simp [preorderAll, ih]

mutual
theorem map_layout (base : NodeId) (parent : Option NodeId) (t : Tree Label) :
    (layout base parent t).map Node.toLabel = t.preorder := by
  cases t with
  | node l ts => rw [layout, List.map_cons, map_layoutAll (base + 1) base ts, preorder]
theorem map_layoutAll (base parent : NodeId) (ts : List (Tree Label)) :
    (layoutAll base parent ts).map Node.toLabel = preorderAll ts := by
  cases ts with
  | nil => rfl
  | cons t rest =>
    rw [layoutAll, List.map_append, map_layout base (some parent) t,
      map_layoutAll (base + t.size) parent rest, preorderAll]
end

mutual
theorem before_of_known {t : Tree Label} (known : t.Known) (own : t.label.raws.before.isSome) :
    ∀ l ∈ t.preorder, l.raws.before.isSome := by
  cases t with
  | node m ts =>
    intro l listed
    rw [preorder, List.mem_cons] at listed
    rcases listed with rfl | deeper
    · exact own
    · exact before_of_knownAll known.2.2 l deeper
theorem before_of_knownAll {ts : List (Tree Label)} (known : KnownAll ts) :
    ∀ l ∈ preorderAll ts, l.raws.before.isSome := by
  cases ts with
  | nil => simp [preorderAll]
  | cons t rest =>
    intro l listed
    rw [preorderAll, List.mem_append] at listed
    rcases listed with first | later
    · exact before_of_known known.2.1 known.1 l first
    · exact before_of_knownAll known.2.2 l later
end

end Tree

namespace Sheet

theorem label_plant (s : Sheet) (t : Tree Label) {x : Nat} (new : s.nodes.size ≤ x)
    (stored : x < (s.plant t).2.nodes.size) :
    t.preorder[x - s.nodes.size]? = some ((s.plant t).2.label x) := by
  rw [size_plant] at stored
  have bound : x - s.nodes.size < (t.layout s.nodes.size none).length := by
    rw [Tree.length_layout]
    omega
  rw [← Tree.map_layout s.nodes.size none t, List.getElem?_map,
    List.getElem?_eq_getElem bound, Option.map_some, label, node, plant]
  simp only [Array.getD_eq_getD_getElem?, Array.getElem?_append_right new, List.getElem?_toArray,
    List.getElem?_eq_getElem bound, Option.getD_some]

theorem label_ofTree (t : Tree Label) {x : Nat} (stored : x < (ofTree t).nodes.size) :
    t.preorder[x]? = some ((ofTree t).label x) := by
  have same : ofTree t = (({ nodes := #[] } : Sheet).plant t).2 := by simp [ofTree, plant, root]
  rw [same] at stored ⊢
  exact label_plant { nodes := #[] } t (Nat.zero_le x) stored

theorem Linked.exists_label {s : Sheet} (linked : s.Linked) (id : NodeId) {l : Label}
    (listed : l ∈ (s.tree id).preorder) : ∃ x, s.Under x id ∧ s.label x = l := by
  induction id using linked.induction_below with
  | step id ih =>
    rw [linked.tree_eq, Tree.preorder, List.mem_cons, Tree.mem_preorderAll] at listed
    rcases listed with rfl | ⟨t, isChild, deeper⟩
    · exact ⟨id, under_refl s id, rfl⟩
    · obtain ⟨child, isListed, rfl⟩ := List.mem_map.mp isChild
      obtain ⟨x, below, same⟩ := ih child isListed deeper
      exact ⟨x, below.trans ((under_refl s id).step (linked.parent_of_mem isListed)), same⟩

theorem Linked.exists_label_remove {s : Sheet} (linked : s.Linked) (id x : NodeId) :
    ∃ before, (s.remove id).label x = (s.label x).setBefore before ∧
      (before = (s.label x).raws.before ∨ before = (s.label id).raws.before) := by
  by_cases heir : s.Heir id x
  · exact ⟨_, linked.label_remove_heir heir, Or.inr rfl⟩
  · exact ⟨_, linked.label_remove_of_not_heir heir, Or.inl rfl⟩

namespace WellFormed

variable {s : Sheet} (formed : s.WellFormed)

include formed

theorem setKind {id : NodeId} (other : id ≠ root) (kind : Kind) : (s.setKind id kind).WellFormed where
  linked := formed.linked.of_same_links (fun x => parent_setKind s id x kind)
    fun x => children_setKind s id x kind
  root_stored := by rw [size_setKind]; exact formed.root_stored
  root_kind := by
    rw [Sheet.kind, Sheet.setKind, node_modify_of_ne s id root _ other.symm]
    exact formed.root_kind

theorem remove (id : NodeId) : (s.remove id).WellFormed where
  linked := formed.linked.remove id
  root_stored := by rw [size_remove]; exact formed.root_stored
  root_kind := by rw [kind_remove]; exact formed.root_kind

theorem plant (t : Tree Label) : (s.plant t).2.WellFormed where
  linked := formed.linked.plant t
  root_stored := by
    rw [size_plant]
    exact Nat.lt_add_right _ formed.root_stored
  root_kind := (congrArg Label.kind (label_plant_of_lt formed.root_stored)).trans formed.root_kind

end WellFormed

/-- A well-formed sheet whose nodes know what stands before them, wherever they hang. -/
structure Spaced (s : Sheet) : Prop extends s.WellFormed where
  before : ∀ {id parent}, s.parent id = some parent → (s.label id).raws.before.isSome

/-- A spaced sheet whose root hangs nowhere. -/
structure Laid (s : Sheet) : Prop extends s.Spaced where
  root_top : s.parent root = none

namespace Spaced

variable {s : Sheet}

theorem before_of_mem_tree (spaced : s.Spaced) {id parent : NodeId} (up : s.parent id = some parent) :
    ∀ l ∈ (s.tree id).preorder, l.raws.before.isSome := by
  intro l listed
  obtain ⟨x, below, rfl⟩ := spaced.linked.exists_label id listed
  rcases under_iff.mp below with rfl | ⟨above, upX, -⟩
  · exact spaced.before up
  · exact spaced.before upX

theorem setKind (spaced : s.Spaced) {id : NodeId} (other : id ≠ root) (kind : Kind) :
    (s.setKind id kind).Spaced where
  toWellFormed := spaced.toWellFormed.setKind other kind
  before up := by
    rw [parent_setKind] at up
    have same : ∀ x, ((s.setKind id kind).label x).raws = (s.label x).raws :=
      fun x => modify_keeps s id x (fun n => n.raws) _ fun _ => rfl
    rw [same]
    exact spaced.before up

end Spaced

theorem Spaced.remove {s : Sheet} (spaced : s.Spaced) (id : NodeId) : (s.remove id).Spaced where
  toWellFormed := spaced.toWellFormed.remove id
  before {x parent} up := by
    rw [spaced.linked.parent_remove] at up
    split at up
    next => cases up
    next =>
      cases upId : s.parent id with
      | none =>
        rw [remove_of_detached s id upId]
        exact spaced.before up
      | some above =>
        obtain ⟨before, same, own | passed⟩ := spaced.linked.exists_label_remove id x
        · rw [same, own]
          exact spaced.before up
        · rw [same, passed]
          exact spaced.before upId

theorem Spaced.append {s : Sheet} (spaced : s.Spaced) {parent child : NodeId}
    (storedParent : parent < s.nodes.size) (storedChild : child < s.nodes.size)
    (known : (s.label child).raws.before.isSome) (outside : ¬ s.Under parent child) :
    (s.append parent child).Spaced := by
  have linked := spaced.linked
  have labels : ∀ x, (s.append parent child).label x = (s.remove child).label x :=
    fun x => linked.label_append x known
  refine ⟨⟨linked.append storedParent storedChild outside, ?_, ?_⟩, fun {x above} up => ?_⟩
  · rw [size_append]
    exact spaced.root_stored
  · rw [kind_eq, labels, ← kind_eq]
    exact (spaced.remove child).root_kind
  · rw [labels]
    rw [linked.parent_append x storedChild] at up
    by_cases here : x = child
    · rw [here, linked.label_remove_of_not_heir (linked.not_heir_self child)]
      exact known
    · rw [if_neg here] at up
      have before : (s.remove child).parent x = some above := by
        rw [linked.parent_remove, if_neg here]
        exact up
      exact (spaced.remove child).before before

theorem Spaced.plant {s : Sheet} (spaced : s.Spaced) {t : Tree Label}
    (known : ∀ l ∈ t.preorder, l.raws.before.isSome) : (s.plant t).2.Spaced where
  toWellFormed := spaced.toWellFormed.plant t
  before {x parent} up := by
    by_cases old : x < s.nodes.size
    · rw [parent_plant_of_lt old] at up
      rw [label_plant_of_lt old]
      exact spaced.before up
    · have found := label_plant s t (Nat.not_lt.mp old) (stored_of_parent up)
      exact known _ (List.mem_of_getElem? found)

structure LeafPlanted (s s' : Sheet) (new : Label) : Prop where
  spaced : s'.Spaced
  size : s'.nodes.size = s.nodes.size + 1
  label : ∀ x, x < s.nodes.size → s'.label x = s.label x
  parent : ∀ x, x < s.nodes.size → s'.parent x = s.parent x
  children : ∀ x, x < s.nodes.size → s'.children x = s.children x
  free : s'.parent s.nodes.size = none
  label_new : s'.label s.nodes.size = new
  children_new : s'.children s.nodes.size = []

theorem Spaced.leafPlanted {s : Sheet} (spaced : s.Spaced) {new : Label} (known : new.raws.before.isSome) :
    LeafPlanted s (s.plant (.node new [])).2 new := by
  have spaced' : (s.plant (.node new [])).2.Spaced := by
    apply spaced.plant
    intro l listed
    rw [List.mem_singleton.mp listed]
    exact known
  have tree := tree_plant s (.node new [])
  rw [spaced'.linked.tree_eq, Tree.node.injEq, List.map_eq_nil_iff] at tree
  exact ⟨spaced', size_plant s _, fun x old => label_plant_of_lt old, fun x old => parent_plant_of_lt old,
    fun x old => children_plant_of_lt old, parent_plant_root, tree.1, tree.2⟩

theorem laid_of_parse {source : String} {s : Sheet} (parsed : Sheet.parse source = .ok s) :
    s.Laid := by
  obtain ⟨t, read, rfl⟩ := exists_tree_of_parse parsed
  have known := Tree.known_moved .kept t (Source.parse_written read).1
  have isRoot : (t.map (Label.moved .kept)).label.kind = .root := by
    rw [Tree.label_map]
    exact (Source.parse_root read).1
  generalize t.map (Label.moved .kept) = kept at known isRoot
  cases kept with
  | node l ts =>
    have own := (planted_ofTree (.node l ts)).2.1
    have top : (ofTree (.node l ts)).parent root = none := by rw [Sheet.parent, own]
    refine ⟨⟨⟨linked_ofTree _, ?_, ?_⟩, fun {id parent} up => ?_⟩, top⟩
    · rw [size_ofTree]
      exact Tree.size_pos _
    · rw [Sheet.kind, own]
      exact isRoot
    · have found := label_ofTree (.node l ts) (stored_of_parent up)
      cases id with
      | zero => exact absurd (up.symm.trans top) (by simp)
      | succ index =>
        rw [Tree.preorder, List.getElem?_cons_succ] at found
        exact Tree.before_of_knownAll known.2.2 _ (List.mem_of_getElem? found)

/-- The children `ids` of `source` have become the last children of `target`; nothing else is
different. -/
structure HandedOver (s s' : Sheet) (source target : NodeId) (ids : List NodeId) : Prop where
  spaced : s'.Spaced
  size : s'.nodes.size = s.nodes.size
  label : ∀ x, s'.label x = s.label x
  parent : ∀ x, s'.parent x = if x ∈ ids then some target else s.parent x
  children : ∀ x, s'.children x =
    if x = source then [] else if x = target then s.children x ++ ids else s.children x

theorem Spaced.handedOver {s : Sheet} (spaced : s.Spaced) {source target : NodeId} {ids : List NodeId}
    (row : s.children source = ids) (stored : target < s.nodes.size)
    (free : s.parent target = none) (different : target ≠ source) (inner : source ≠ root) :
    HandedOver s (ids.foldl (fun s child => s.append target child) s) source target ids := by
  induction ids generalizing s with
  | nil =>
    refine ⟨spaced, rfl, fun x => rfl, fun x => by simp, fun x => ?_⟩
    by_cases here : x = source
    · rw [if_pos here, List.foldl_nil, here, row]
    · simp [here]
  | cons child rest ih =>
    have linked := spaced.linked
    have up : s.parent child = some source := linked.parent_of_mem (by rw [row]; exact List.mem_cons_self)
    have storedChild := stored_of_parent up
    have apart : target ≠ child := by
      rintro rfl
      rw [free] at up
      cases up
    have outside : ¬ s.Under target child := fun under => apart (under_of_parent_eq_none free under)
    have notHeir : ∀ x, ¬ s.Heir child x := by
      rintro x ⟨others, first⟩
      have top := linked.parent_of_mem (show child ∈ s.children root by rw [first]; exact List.mem_cons_self)
      rw [up] at top
      exact inner (Option.some.inj top)
    have labels : ∀ x, (s.append target child).label x = s.label x := fun x => by
      rw [linked.label_append x (spaced.before up),
        linked.label_remove_of_not_heir (notHeir x)]
    have links : ∀ x, (s.append target child).children x =
        if x = source then rest else if x = target then s.children x ++ [child] else s.children x := by
      intro x
      rw [linked.children_append x stored]
      by_cases here : x = source
      · rw [if_pos here, if_neg (here ▸ different.symm), here, row, List.erase_cons_head]
      · rw [if_neg here, linked.erase_children_of_ne up here]
    have spaced' := spaced.append stored storedChild (spaced.before up) outside
    have parents : ∀ x, (s.append target child).parent x =
        if x = child then some target else s.parent x := fun x => linked.parent_append x storedChild
    have done := ih spaced' (by rw [links, if_pos rfl]) (by rw [size_append]; exact stored)
      (by rw [parents, if_neg apart]; exact free)
    rw [List.foldl_cons]
    refine ⟨done.spaced, done.size.trans (size_append _ _ _), fun x => (done.label x).trans (labels x),
      fun x => ?_, fun x => ?_⟩
    · rw [done.parent, parents]
      by_cases first : x = child
      · simp [first]
      · simp [first]
    · rw [done.children, links]
      by_cases here : x = source
      · rw [if_pos here, if_pos here]
      · by_cases there : x = target
        · simp [there, different]
        · simp [here, there]

/-- The nodes of `s` are as they were, except that some may have been added to the children of
`target`; `trees` are the subtrees that have been added. -/
structure Grafted (s s' : Sheet) (target : NodeId) (trees : List (Tree Label)) : Prop where
  spaced : s'.Spaced
  size : s.nodes.size ≤ s'.nodes.size
  label : ∀ x, x < s.nodes.size → s'.label x = s.label x
  parent : ∀ x, x < s.nodes.size → s'.parent x = s.parent x
  children : ∀ x, x < s.nodes.size → x ≠ target → s'.children x = s.children x
  grown : (s'.children target).map s'.tree = (s.children target).map s.tree ++ trees

namespace Grafted

variable {s s' : Sheet} {target : NodeId} {trees : List (Tree Label)}

theorem tree_of_not_under (grafted : Grafted s s' target trees) (linked : s.Linked) {id : NodeId}
    (stored : id < s.nodes.size) (apart : ¬ s.Under target id) : s'.tree id = s.tree id := by
  apply linked.tree_congr grafted.spaced.linked
  intro x under
  have old := under.stored stored
  refine ⟨grafted.label x old, grafted.children x old ?_⟩
  rintro rfl
  exact apart under

theorem under (grafted : Grafted s s' target trees) (linked : s.Linked) {id other : NodeId}
    (stored : id < s.nodes.size) (under : s'.Under id other) : s.Under id other :=
  under.of_same_above fun x above => grafted.parent x (linked.stored_above above stored)

end Grafted

structure Attached (s s' : Sheet) (target child : NodeId) : Prop where
  spaced : s'.Spaced
  size : s'.nodes.size = s.nodes.size
  label : ∀ x, s'.label x = s.label x
  parent : ∀ x, s'.parent x = if x = child then some target else s.parent x
  children : ∀ x, s'.children x = if x = target then s.children x ++ [child] else s.children x

theorem Spaced.attached {s : Sheet} (spaced : s.Spaced) {target child : NodeId}
    (storedTarget : target < s.nodes.size) (storedChild : child < s.nodes.size)
    (known : (s.label child).raws.before.isSome) (free : s.parent child = none)
    (outside : ¬ s.Under target child) : Attached s (s.append target child) target child := by
  have linked := spaced.linked
  have gone : ∀ x, (s.children x).erase child = s.children x := by
    intro x
    apply List.erase_of_not_mem
    intro listed
    rw [linked.parent_of_mem listed] at free
    cases free
  refine ⟨spaced.append storedTarget storedChild known outside, size_append _ _ _, fun x => ?_,
    fun x => linked.parent_append x storedChild, fun x => ?_⟩
  · exact linked.label_append_of_detached x known free
  · rw [linked.children_append x storedTarget, gone]

theorem Spaced.graft {s : Sheet} (spaced : s.Spaced) {target : NodeId} {t : Tree Label}
    (stored : target < s.nodes.size) (known : ∀ l ∈ t.preorder, l.raws.before.isSome) :
    Grafted s ((s.plant t).2.append target s.nodes.size) target [t] := by
  have linked := spaced.linked
  have planted := spaced.plant known
  have bigger : s.nodes.size < (s.plant t).2.nodes.size := by
    rw [size_plant]
    exact Nat.lt_add_of_pos_right t.size_pos
  have outside : ¬ (s.plant t).2.Under target s.nodes.size := by
    intro under
    have before := under.of_same_above fun x above =>
      parent_plant_of_lt (linked.stored_above above stored)
    exact Nat.lt_irrefl _ (linked.stored_above before stored)
  have done := planted.attached (Nat.lt_trans stored bigger) bigger
    (known _ (List.mem_of_getElem? (label_plant s t (Nat.le_refl _) bigger))) parent_plant_root outside
  generalize ((s.plant t).2.append target s.nodes.size) = s' at done
  refine ⟨done.spaced, ?_, fun x old => ?_, fun x old => ?_, fun x old other => ?_, ?_⟩
  · rw [done.size]
    exact Nat.le_of_lt bigger
  · rw [done.label, label_plant_of_lt old]
  · rw [done.parent, if_neg (Nat.ne_of_lt old), parent_plant_of_lt old]
  · rw [done.children, if_neg other, children_plant_of_lt old]
  · -- The planted tree and the old children both stand clear of the list that has grown.
    have new : s'.tree s.nodes.size = t := by
      rw [planted.linked.tree_congr done.spaced.linked s.nodes.size, tree_plant]
      intro x under
      refine ⟨done.label x, ?_⟩
      rw [done.children, if_neg]
      rintro rfl
      exact outside under
    have old : ∀ child ∈ s.children target, s'.tree child = s.tree child := by
      intro child listed
      have up := linked.parent_of_mem listed
      apply linked.tree_congr done.spaced.linked
      intro x under
      have storedX := under.stored (stored_of_parent up)
      rw [done.label, label_plant_of_lt storedX, done.children,
        if_neg (linked.ne_of_under_child up under (under_refl s target)),
        children_plant_of_lt storedX]
      exact ⟨rfl, rfl⟩
    rw [done.children, if_pos rfl, children_plant_of_lt stored, List.map_append, List.map_cons,
      List.map_nil, new, List.map_congr_left old]

theorem Spaced.graftRow {s : Sheet} (spaced : s.Spaced) {target : NodeId} (ids : List NodeId)
    (stored : target < s.nodes.size) (hang : ∀ child ∈ ids, (s.parent child).isSome)
    (apart : ∀ child ∈ ids, ¬ s.Under target child) :
    Grafted s (ids.foldl (fun s child => (s.clone child).2.append target (s.clone child).1) s) target
      (ids.map s.tree) := by
  induction ids generalizing s with
  | nil =>
    refine ⟨spaced, Nat.le_refl _, fun x _ => rfl, fun x _ => rfl, fun x _ _ => rfl, ?_⟩
    rw [List.foldl_nil, List.map_nil, List.append_nil]
  | cons child rest ih =>
    have linked := spaced.linked
    obtain ⟨parent, up⟩ := Option.isSome_iff_exists.mp (hang child List.mem_cons_self)
    have first : Grafted s ((s.clone child).2.append target (s.clone child).1) target [s.tree child] :=
      spaced.graft stored (spaced.before_of_mem_tree up)
    have stays : ∀ other ∈ rest, other < s.nodes.size ∧ ¬ s.Under target other := by
      intro other listed
      obtain ⟨above, upOther⟩ := Option.isSome_iff_exists.mp (hang other (List.mem_cons_of_mem _ listed))
      exact ⟨stored_of_parent upOther, apart other (List.mem_cons_of_mem _ listed)⟩
    have later := ih first.spaced (Nat.lt_of_lt_of_le stored first.size)
      (fun other listed => by
        rw [first.parent other (stays other listed).1]
        exact hang other (List.mem_cons_of_mem _ listed))
      (fun other listed under => (stays other listed).2 (first.under linked stored under))
    have trees : rest.map ((s.clone child).2.append target (s.clone child).1).tree = rest.map s.tree :=
      List.map_congr_left fun other listed =>
        first.tree_of_not_under linked (stays other listed).1 (stays other listed).2
    rw [List.foldl_cons]
    refine ⟨later.spaced, Nat.le_trans first.size later.size, fun x old => ?_, fun x old => ?_,
      fun x old other => ?_, ?_⟩
    · rw [later.label x (Nat.lt_of_lt_of_le old first.size), first.label x old]
    · rw [later.parent x (Nat.lt_of_lt_of_le old first.size), first.parent x old]
    · rw [later.children x (Nat.lt_of_lt_of_le old first.size) other, first.children x old other]
    · rw [later.grown, first.grown, trees, List.append_assoc, List.map_cons, List.singleton_append]

end Sheet

end NestLint
