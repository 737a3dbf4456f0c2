import NestLint.Proofs.Sheet.Subtree
import NestLint.Sheet.Selectors

/-!
What stands before a node has no influence on anything but itself. Two sheets are alike when they
differ in that at most; alike sheets have the same links, kinds and selectors, and every operation
takes alike sheets to alike sheets. So what is known of sheets that know what stands before every node
carries over to all others: each well-formed sheet is alike to one of that kind, its tightened form.
-/

namespace NestLint

def Label.bare (l : Label) : Label := l.setBefore none

def Node.bare (n : Node) : Node := { n with raws := { n.raws with before := none } }

namespace Tree

theorem rootsFrom_mapAll (f : Label → Label) (base : NodeId) (ts : List (Tree Label)) :
    rootsFrom base (mapAll f ts) = rootsFrom base ts := by
  induction ts generalizing base with
  | nil => rfl
  | cons t rest ih => rw [mapAll, rootsFrom, rootsFrom, size_map f t, ih]

mutual
theorem layout_map_bare (base : NodeId) (parent : Option NodeId) (t : Tree Label) :
    layout base parent (t.map Label.bare) = (layout base parent t).map Node.bare := by
  cases t with
  | node l ts =>
    rw [map, layout, layout, List.map_cons, rootsFrom_mapAll, layoutAll_map_bare (base + 1) base ts]
    rfl
theorem layoutAll_map_bare (base parent : NodeId) (ts : List (Tree Label)) :
    layoutAll base parent (mapAll Label.bare ts) = (layoutAll base parent ts).map Node.bare := by
  cases ts with
  | nil => rfl
  | cons t rest =>
    rw [mapAll, layoutAll, layoutAll, List.map_append, size_map, layout_map_bare base (some parent) t,
      layoutAll_map_bare (base + t.size) parent rest]
end

end Tree

namespace Sheet

/-- The sheets differ in what stands before their nodes, and in nothing else. -/
structure Alike (s t : Sheet) : Prop where
  cursors : s.cursors = t.cursors
  size : s.nodes.size = t.nodes.size
  bare : ∀ id, (s.node id).bare = (t.node id).bare

namespace Alike

variable {s t u : Sheet}

theorem refl (s : Sheet) : Alike s s := ⟨rfl, rfl, fun _ => rfl⟩

theorem symm (alike : Alike s t) : Alike t s :=
  ⟨alike.cursors.symm, alike.size.symm, fun id => (alike.bare id).symm⟩

theorem trans (first : Alike s t) (second : Alike t u) : Alike s u :=
  ⟨first.cursors.trans second.cursors, first.size.trans second.size,
    fun id => (first.bare id).trans (second.bare id)⟩

theorem view {β : Type} (alike : Alike s t) (look : Node → β) (blind : ∀ n, look n.bare = look n)
    (id : NodeId) : look (s.node id) = look (t.node id) := by
  rw [← blind, alike.bare id, blind]

theorem parent (alike : Alike s t) (id : NodeId) : s.parent id = t.parent id :=
  alike.view Node.parent (fun _ => rfl) id

theorem children (alike : Alike s t) (id : NodeId) : s.children id = t.children id :=
  alike.view Node.children (fun _ => rfl) id

theorem kind (alike : Alike s t) (id : NodeId) : s.kind id = t.kind id :=
  alike.view (fun n => n.kind) (fun _ => rfl) id

theorem between (alike : Alike s t) (id : NodeId) : (s.raws id).between = (t.raws id).between :=
  alike.view (fun n => n.raws.between) (fun _ => rfl) id

theorem label (alike : Alike s t) (id : NodeId) : (s.label id).bare = (t.label id).bare :=
  alike.view (fun n => n.toLabel.bare) (fun _ => rfl) id

theorem selector? (alike : Alike s t) (id : NodeId) : s.selector? id = t.selector? id := by
  rw [Sheet.selector?, Sheet.selector?, alike.kind]

theorem indexOf? (alike : Alike s t) (id : NodeId) : s.indexOf? id = t.indexOf? id := by
  simp only [Sheet.indexOf?, alike.parent, alike.children]

theorem shape (alike : Alike s t) (id : NodeId) : s.shape id = t.shape id := by
  have within : ∀ fuel id, s.shapeWithin fuel id = t.shapeWithin fuel id := by
    intro fuel
    induction fuel with
    | zero => exact fun _ => rfl
    | succ fuel ih =>
      intro id
      rw [shapeWithin, shapeWithin, alike.children]
      congr 1
      exact List.map_congr_left fun child _ => ih child
  rw [Sheet.shape, Sheet.shape, alike.size, within]

theorem tree (alike : Alike s t) (id : NodeId) :
    (s.tree id).map Label.bare = (t.tree id).map Label.bare := by
  rw [Sheet.tree, Sheet.tree, Tree.map_map, Tree.map_map, alike.shape]
  congr 1
  funext id
  exact alike.label id

theorem linked (alike : Alike s t) (linked : s.Linked) : t.Linked :=
  linked.of_same_links (fun id => (alike.parent id).symm) fun id => (alike.children id).symm

theorem wellFormed (alike : Alike s t) (formed : s.WellFormed) : t.WellFormed where
  linked := alike.linked formed.linked
  root_stored := alike.size ▸ formed.root_stored
  root_kind := (alike.kind root).symm.trans formed.root_kind

theorem under (alike : Alike s t) (id other : NodeId) : s.Under id other ↔ t.Under id other := by
  have parents : s.parent = t.parent := funext alike.parent
  rw [Under, Under, parents]

end Alike

section changes

variable {s t : Sheet} (alike : Alike s t)

include alike

theorem Alike.modify {f g : Node → Node} (agree : ∀ m n, m.bare = n.bare → (f m).bare = (g n).bare)
    (id : NodeId) : Alike (s.modify id f) (t.modify id g) where
  cursors := alike.cursors
  size := by rw [size_modify, size_modify, alike.size]
  bare x := by
    rw [node_modify, node_modify, alike.size]
    split
    · exact agree _ _ (alike.bare x)
    · exact alike.bare x

theorem Alike.modify_blind (f : Node → Node) (blind : ∀ n, (f n).bare = f n.bare) (id : NodeId) :
    Alike (s.modify id f) (t.modify id f) := by
  apply alike.modify
  intro m n same
  rw [blind, blind, same]

theorem Alike.setKind (id : NodeId) (kind : Kind) : Alike (s.setKind id kind) (t.setKind id kind) :=
  alike.modify_blind (fun n => { n with kind := kind }) (fun _ => rfl) id

theorem Alike.setParent (id : NodeId) (parent : Option NodeId) :
    Alike (s.setParent id parent) (t.setParent id parent) :=
  alike.modify_blind (fun n => { n with parent := parent }) (fun _ => rfl) id

theorem Alike.setChildren (id : NodeId) (children : List NodeId) :
    Alike (s.setChildren id children) (t.setChildren id children) :=
  alike.modify_blind (fun n => { n with children := children }) (fun _ => rfl) id

end changes

theorem alike_setBefore (s : Sheet) (id : NodeId) (before : Option Text) :
    Alike (s.modifyRaws id fun r => { r with before := before }) s where
  cursors := rfl
  size := size_modifyRaws s id _
  bare x := modify_keeps s id x Node.bare _ fun _ => rfl

theorem alike_passBefore (s : Sheet) (id parent : NodeId) (index : Nat) :
    Alike (s.passBefore id parent index) s := by
  unfold passBefore
  split
  · split
    · exact alike_setBefore s _ _
    · exact .refl s
  · exact .refl s

theorem alike_borrowBefore (s : Sheet) (parent child : NodeId) :
    Alike (s.borrowBefore parent child) s := by
  unfold borrowBefore
  split
  · exact alike_setBefore s _ _
  · exact .refl s

section operations

variable {s t : Sheet} (alike : Alike s t)

include alike

theorem Alike.remove (id : NodeId) : Alike (s.remove id) (t.remove id) := by
  unfold Sheet.remove
  rw [alike.parent, alike.indexOf?]
  split
  next parent index _ _ =>
    have passed : Alike (s.passBefore id parent index) (t.passBefore id parent index) :=
      ((alike_passBefore s id parent index).trans alike).trans (alike_passBefore t id parent index).symm
    have cut := (passed.setChildren parent
      (((s.passBefore id parent index).children parent).eraseIdx index)).setParent id none
    rw [passed.children] at cut
    simp only [passed.children]
    exact ⟨by rw [cut.cursors], cut.size, cut.bare⟩
  next => exact alike

theorem Alike.append (parent child : NodeId) : Alike (s.append parent child) (t.append parent child) := by
  have removed := alike.remove child
  have borrowed : Alike ((s.remove child).borrowBefore parent child)
      ((t.remove child).borrowBefore parent child) :=
    ((alike_borrowBefore _ parent child).trans removed).trans (alike_borrowBefore _ parent child).symm
  have hung := borrowed.setParent child (some parent)
  have listed := hung.setChildren parent
    ((((s.remove child).borrowBefore parent child).setParent child (some parent)).children parent ++ [child])
  rw [Sheet.append, Sheet.append]
  simp only [hung.children] at listed ⊢
  exact listed

theorem Alike.plant {u v : Tree Label} (same : u.map Label.bare = v.map Label.bare) :
    Alike (s.plant u).2 (t.plant v).2 := by
  have rows : (u.layout s.nodes.size none).map Node.bare = (v.layout t.nodes.size none).map Node.bare := by
    rw [← Tree.layout_map_bare, ← Tree.layout_map_bare, same, alike.size]
  refine ⟨alike.cursors, ?_, fun x => ?_⟩
  · have sizes := congrArg Tree.size same
    rw [Tree.size_map, Tree.size_map] at sizes
    rw [size_plant, size_plant, alike.size, sizes]
  · by_cases old : x < s.nodes.size
    · rw [node_plant_of_lt old, node_plant_of_lt (alike.size ▸ old)]
      exact alike.bare x
    · have new := Nat.not_lt.mp old
      have found := congrArg (fun row => row[x - s.nodes.size]?) rows
      simp only [List.getElem?_map] at found
      simp only [Sheet.plant, node, Array.getD_eq_getD_getElem?, Array.getElem?_append_right new,
        Array.getElem?_append_right (alike.size ▸ new), List.getElem?_toArray, ← alike.size]
      rw [← Option.getD_map Node.bare, ← Option.getD_map Node.bare, alike.size, ← alike.size, found,
        alike.size]

theorem Alike.plantLeaf {l m : Label} (same : l.bare = m.bare) :
    Alike (s.plant (.node l [])).2 (t.plant (.node m [])).2 :=
  alike.plant (congrArg (fun label => Tree.node label []) same)

theorem Alike.foldl {f : Sheet → NodeId → Sheet}
    (keeps : ∀ {u v : Sheet} (id : NodeId), Alike u v → Alike (f u id) (f v id)) (ids : List NodeId) :
    Alike (ids.foldl f s) (ids.foldl f t) := by
  induction ids generalizing s t with
  | nil => exact alike
  | cons id rest ih => exact ih (keeps id alike)

theorem Alike.clone (id : NodeId) : Alike (s.clone id).2 (t.clone id).2 := alike.plant (alike.tree id)

theorem Alike.openOf (id : NodeId) : s.openOf id = t.openOf id := by
  have above : ∀ fuel id, s.ancestorsWithin fuel id = t.ancestorsWithin fuel id := by
    intro fuel
    induction fuel with
    | zero => exact fun _ => rfl
    | succ fuel ih =>
      intro id
      rw [ancestorsWithin, ancestorsWithin, alike.parent]
      split
      · rw [ih]
      · rfl
  have style : s.styleBeforeOpen id = t.styleBeforeOpen id := by
    simp only [styleBeforeOpen, infer, topmost, ancestors, descendants, alike.size, above, alike.shape,
      alike.kind, alike.between]
  rw [Sheet.openOf, Sheet.openOf, alike.between, alike.parent, style]

theorem Alike.selectors? (id : NodeId) : s.selectors? id = t.selectors? id := by
  rw [Sheet.selectors?, Sheet.selectors?, alike.selector?]

theorem Alike.setSelectors (id : NodeId) (selectors : List Text) :
    Alike (s.setSelectors id selectors) (t.setSelectors id selectors) := by
  unfold Sheet.setSelectors Sheet.setSelector
  simp only [alike.selector?, alike.openOf, alike.kind]
  split
  · exact alike
  · split
    · exact alike.setKind id _
    · exact alike

end operations

/-- The sheet with nothing at all before its nodes. -/
def tightened (s : Sheet) : Sheet :=
  { s with nodes := s.nodes.map fun n => { n with raws := { n.raws with before := some [] } } }

theorem node_tightened (s : Sheet) {id : NodeId} (stored : id < s.nodes.size) :
    s.tightened.node id = { s.node id with raws := { (s.node id).raws with before := some [] } } := by
  simp [tightened, node, Array.getD, stored]

theorem alike_tightened (s : Sheet) : Alike s s.tightened where
  cursors := rfl
  size := by simp [tightened]
  bare id := by
    by_cases stored : id < s.nodes.size
    · rw [node_tightened s stored]
      rfl
    · simp [tightened, node, Array.getD, stored]

/-- Every well-formed sheet is alike to one that knows what stands before every node. -/
theorem WellFormed.spaced_tightened {s : Sheet} (formed : s.WellFormed) : s.tightened.Spaced where
  toWellFormed := (alike_tightened s).wellFormed formed
  before {id parent} up := by
    have stored : id < s.nodes.size := by
      rw [(alike_tightened s).size]
      exact stored_of_parent up
    rw [Sheet.label, node_tightened s stored]
    rfl

end Sheet

end NestLint
