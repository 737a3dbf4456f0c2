import NestLint.Sheet.Plant

/-!
What a sheet holds once a tree has been put into its store. `Planted` says it node by node along the
tree: the node at `base` has the label of the root and names the roots of the subtrees, which are
planted one after the other behind it. Reading the stored subtree back gives the tree.
-/

namespace NestLint

namespace Tree

theorem mapAll_eq_map {α β : Type} (f : α → β) (ts : List (Tree α)) :
    mapAll f ts = ts.map (map f) := by
  induction ts with
  | nil => rfl
  | cons t rest ih => rw [mapAll, ih, List.map_cons]

theorem size_pos {α : Type} (t : Tree α) : 0 < t.size := by
  cases t with
  | node a ts => simp [size]

theorem le_of_mem_rootsFrom {base id : Nat} {ts : List (Tree Label)}
    (listed : id ∈ rootsFrom base ts) : base ≤ id := by
  induction ts generalizing base with
  | nil => simp [rootsFrom] at listed
  | cons t later ih =>
    rw [rootsFrom, List.mem_cons] at listed
    rcases listed with rfl | behind
    · exact Nat.le_refl id
    · exact Nat.le_trans (Nat.le_add_right base t.size) (ih behind)

theorem nodup_rootsFrom (base : Nat) (ts : List (Tree Label)) : (rootsFrom base ts).Nodup := by
  induction ts generalizing base with
  | nil => simp [rootsFrom]
  | cons t later ih =>
    rw [rootsFrom, List.nodup_cons]
    refine ⟨?_, ih _⟩
    intro behind
    have beyond := le_of_mem_rootsFrom behind
    have positive := size_pos t
    omega

end Tree

namespace Sheet

open Tree

mutual
/-- The nodes of a tree stand in the store from `base` on, and its root hangs in `parent`. -/
def Planted (s : Sheet) (base : NodeId) (parent : Option NodeId) : Tree Label → Prop
  | .node l ts =>
    base < s.nodes.size ∧
      s.node base = { l with parent := parent, children := rootsFrom (base + 1) ts } ∧
      PlantedAll s (base + 1) base ts
def PlantedAll (s : Sheet) (base : NodeId) (parent : NodeId) : List (Tree Label) → Prop
  | [] => True
  | t :: ts => Planted s base (some parent) t ∧ PlantedAll s (base + t.size) parent ts
end

theorem node_of_drop (s : Sheet) (base : NodeId) (n : Node) (rest : List Node)
    (stored : s.nodes.toList.drop base = n :: rest) :
    base < s.nodes.size ∧ s.node base = n ∧ s.nodes.toList.drop (base + 1) = rest := by
  have found : s.nodes.toList[base]? = some n := by
    have first : (s.nodes.toList.drop base)[0]? = some n := by rw [stored]; rfl
    rwa [List.getElem?_drop, Nat.add_zero] at first
  obtain ⟨inside, same⟩ := List.getElem?_eq_some_iff.mp found
  refine ⟨by simpa using inside, ?_, ?_⟩
  · have bound : base < s.nodes.size := by simpa using inside
    simp only [node, Array.getD, bound, ↓reduceDIte]
    simpa using same
  · rw [← List.drop_drop, stored, List.drop_one, List.tail_cons]

mutual
theorem planted_of_drop (s : Sheet) (base : NodeId) (parent : Option NodeId) (t : Tree Label)
    (rest : List Node) (stored : s.nodes.toList.drop base = layout base parent t ++ rest) :
    s.Planted base parent t := by
  cases t with
  | node l ts =>
    rw [layout, List.cons_append] at stored
    obtain ⟨bound, own, below⟩ := node_of_drop s base _ _ stored
    exact ⟨bound, own, plantedAll_of_drop s (base + 1) base ts rest below⟩
theorem plantedAll_of_drop (s : Sheet) (base parent : NodeId) (ts : List (Tree Label))
    (rest : List Node) (stored : s.nodes.toList.drop base = layoutAll base parent ts ++ rest) :
    s.PlantedAll base parent ts := by
  cases ts with
  | nil => trivial
  | cons t later =>
    rw [layoutAll, List.append_assoc] at stored
    have behind : s.nodes.toList.drop (base + t.size) =
        layoutAll (base + t.size) parent later ++ rest := by
      rw [← List.drop_drop, stored]
      exact List.drop_left' (length_layout base (some parent) t)
    exact ⟨planted_of_drop s base (some parent) t _ stored,
      plantedAll_of_drop s (base + t.size) parent later rest behind⟩
end

mutual
theorem map_shapeWithin (s : Sheet) (fuel : Nat) (base : NodeId) (parent : Option NodeId)
    (t : Tree Label) (planted : s.Planted base parent t) (deep : t.size ≤ fuel) :
    (s.shapeWithin fuel base).map s.label = t := by
  cases t with
  | node l ts =>
    obtain ⟨-, own, below⟩ := planted
    rw [size] at deep
    obtain ⟨rest, rfl⟩ : ∃ rest, fuel = rest + 1 := ⟨fuel - 1, by omega⟩
    have children : s.children base = rootsFrom (base + 1) ts := by rw [Sheet.children, own]
    have label : s.label base = l := by rw [Sheet.label, own]
    rw [shapeWithin, Tree.map, label, children,
      mapAll_shapeWithin s rest (base + 1) base ts below (by omega)]
theorem mapAll_shapeWithin (s : Sheet) (fuel : Nat) (base parent : NodeId) (ts : List (Tree Label))
    (planted : s.PlantedAll base parent ts) (deep : sizeAll ts ≤ fuel) :
    mapAll s.label ((rootsFrom base ts).map (s.shapeWithin fuel)) = ts := by
  cases ts with
  | nil => rfl
  | cons t later =>
    rw [sizeAll] at deep
    rw [rootsFrom, List.map_cons, mapAll,
      map_shapeWithin s fuel base (some parent) t planted.1 (by omega),
      mapAll_shapeWithin s fuel (base + t.size) parent later planted.2 (by omega)]
end

theorem planted_plant (s : Sheet) (t : Tree Label) :
    (s.plant t).2.Planted s.nodes.size none t :=
  planted_of_drop _ _ _ t [] (by simp [plant])

theorem planted_ofTree (t : Tree Label) : (ofTree t).Planted root none t :=
  planted_of_drop _ _ _ t [] (by simp [ofTree, root])

theorem size_ofTree (t : Tree Label) : (ofTree t).nodes.size = t.size := by
  simp [ofTree, length_layout]

theorem tree_plant (s : Sheet) (t : Tree Label) : (s.plant t).2.tree s.nodes.size = t :=
  map_shapeWithin _ _ _ _ t (planted_plant s t) (by rw [size_plant]; omega)

theorem tree_ofTree (t : Tree Label) : (ofTree t).tree root = t :=
  map_shapeWithin _ _ _ _ t (planted_ofTree t) (Nat.le_of_eq (size_ofTree t).symm)

def Within (base size id : Nat) : Prop := base ≤ id ∧ id < base + size

theorem plantedAll_roots {s : Sheet} {base parent : Nat} {ts : List (Tree Label)}
    (planted : s.PlantedAll base parent ts) :
    ∀ id : Nat, id ∈ rootsFrom base ts → Within base (sizeAll ts) id ∧ s.parent id = some parent := by
  induction ts generalizing base with
  | nil => simp [rootsFrom]
  | cons t later ih =>
    obtain ⟨first, behind⟩ := planted
    intro id listed
    rw [rootsFrom, List.mem_cons] at listed
    rw [sizeAll]
    rcases listed with rfl | further
    · have positive := size_pos t
      cases t with
      | node l ts =>
        refine ⟨⟨Nat.le_refl id, by omega⟩, ?_⟩
        rw [Sheet.parent, first.2.1]
    · obtain ⟨⟨low, high⟩, up⟩ := ih behind id further
      exact ⟨⟨by omega, by omega⟩, up⟩

mutual
theorem planted_children {s : Sheet} {base : Nat} {parent : Option NodeId} {t : Tree Label}
    (planted : s.Planted base parent t) {id : Nat} (within : Within base t.size id) :
    (s.children id).Nodup ∧
      ∀ child : Nat, child ∈ s.children id → Within base t.size child ∧ s.parent child = some id := by
  cases t with
  | node l ts =>
    obtain ⟨-, own, below⟩ := planted
    obtain ⟨low, high⟩ := within
    rw [size] at high ⊢
    by_cases top : id = base
    · subst top
      have children : s.children id = rootsFrom (id + 1) ts := by rw [Sheet.children, own]
      rw [children]
      refine ⟨nodup_rootsFrom _ _, ?_⟩
      intro child listed
      obtain ⟨⟨low', high'⟩, up⟩ := plantedAll_roots below child listed
      exact ⟨⟨by omega, by omega⟩, up⟩
    · have deeper : Within (base + 1) (sizeAll ts) id := ⟨by omega, by omega⟩
      obtain ⟨once, each⟩ := plantedAll_children below deeper
      refine ⟨once, ?_⟩
      intro child listed
      obtain ⟨⟨low', high'⟩, up⟩ := each child listed
      exact ⟨⟨by omega, by omega⟩, up⟩
theorem plantedAll_children {s : Sheet} {base parent : Nat} {ts : List (Tree Label)}
    (planted : s.PlantedAll base parent ts) {id : Nat} (within : Within base (sizeAll ts) id) :
    (s.children id).Nodup ∧
      ∀ child : Nat, child ∈ s.children id → Within base (sizeAll ts) child ∧ s.parent child = some id := by
  cases ts with
  | nil => exact absurd within.2 (by rw [sizeAll]; exact Nat.not_lt.mpr within.1)
  | cons t later =>
    obtain ⟨first, behind⟩ := planted
    obtain ⟨low, high⟩ := within
    rw [sizeAll] at high ⊢
    by_cases early : id < base + t.size
    · obtain ⟨once, each⟩ := planted_children first ⟨low, early⟩
      refine ⟨once, ?_⟩
      intro child listed
      obtain ⟨⟨low', high'⟩, up⟩ := each child listed
      exact ⟨⟨low', by omega⟩, up⟩
    · have further : Within (base + t.size) (sizeAll later) id := ⟨by omega, by omega⟩
      obtain ⟨once, each⟩ := plantedAll_children behind further
      refine ⟨once, ?_⟩
      intro child listed
      obtain ⟨⟨low', high'⟩, up⟩ := each child listed
      exact ⟨⟨by omega, by omega⟩, up⟩
end

mutual
theorem planted_parent {s : Sheet} {base : Nat} {parent : Option NodeId} {t : Tree Label}
    (planted : s.Planted base parent t) {id : Nat} (low : base < id) (high : id < base + t.size) :
    ∃ above : Nat, base ≤ above ∧ above < id ∧ s.parent id = some above ∧ id ∈ s.children above := by
  cases t with
  | node l ts =>
    obtain ⟨-, own, below⟩ := planted
    rw [size] at high
    rcases plantedAll_parent below ⟨low, by omega⟩ with ⟨top, up⟩ | ⟨above, low', less, up, listed⟩
    · refine ⟨base, Nat.le_refl base, low, up, ?_⟩
      rw [Sheet.children, own]
      exact top
    · exact ⟨above, by omega, less, up, listed⟩
theorem plantedAll_parent {s : Sheet} {base parent : Nat} {ts : List (Tree Label)}
    (planted : s.PlantedAll base parent ts) {id : Nat} (within : Within base (sizeAll ts) id) :
    (id ∈ rootsFrom base ts ∧ s.parent id = some parent) ∨
      ∃ above : Nat, base ≤ above ∧ above < id ∧ s.parent id = some above ∧ id ∈ s.children above := by
  cases ts with
  | nil => exact absurd within.2 (by rw [sizeAll]; exact Nat.not_lt.mpr within.1)
  | cons t later =>
    have tops := plantedAll_roots planted
    obtain ⟨first, behind⟩ := planted
    obtain ⟨low, high⟩ := within
    rw [sizeAll] at high
    by_cases top : id = base
    · subst top
      have listed : id ∈ rootsFrom id (t :: later) := by rw [rootsFrom]; exact List.mem_cons_self
      exact Or.inl ⟨listed, (tops id listed).2⟩
    · by_cases early : id < base + t.size
      · exact Or.inr (planted_parent first (by omega) early)
      · have further : Within (base + t.size) (sizeAll later) id := ⟨by omega, by omega⟩
        rcases plantedAll_parent behind further with ⟨listed, up⟩ | ⟨above, low', less, up, listed⟩
        · exact Or.inl ⟨by rw [rootsFrom]; exact List.mem_cons_of_mem _ listed, up⟩
        · exact Or.inr ⟨above, by omega, less, up, listed⟩
end

end Sheet

end NestLint
