import NestLint.Sheet.Basic

/-!
Putting a tree of labels into the store. The nodes take the next free numbers in preorder, so the
number of every node is known before any is stored: a subtree that starts at `base` takes
`base, …, base + size - 1`.
-/

namespace NestLint

namespace Tree

def rootsFrom (base : NodeId) : List (Tree Label) → List NodeId
  | [] => []
  | t :: ts => base :: rootsFrom (base + t.size) ts

mutual
/-- The nodes of a tree in preorder, numbered from `base` on. -/
def layout (base : NodeId) (parent : Option NodeId) : Tree Label → List Node
  | .node label ts =>
    { label with parent := parent, children := rootsFrom (base + 1) ts } ::
      layoutAll (base + 1) base ts
def layoutAll (base : NodeId) (parent : NodeId) : List (Tree Label) → List Node
  | [] => []
  | t :: ts => layout base (some parent) t ++ layoutAll (base + t.size) parent ts
end

mutual
theorem length_layout (base : NodeId) (parent : Option NodeId) (t : Tree Label) :
    (layout base parent t).length = t.size := by
  cases t with
  | node label ts => simp [layout, size, length_layoutAll]
theorem length_layoutAll (base parent : NodeId) (ts : List (Tree Label)) :
    (layoutAll base parent ts).length = sizeAll ts := by
  cases ts with
  | nil => rfl
  | cons t rest => simp [layoutAll, sizeAll, length_layout, length_layoutAll]
end

end Tree

namespace Sheet

/-- Stores a tree that hangs nowhere yet; its root takes the next free number. -/
def plant (s : Sheet) (t : Tree Label) : NodeId × Sheet :=
  (s.nodes.size, { s with nodes := s.nodes ++ (t.layout s.nodes.size none).toArray })

def ofTree (t : Tree Label) : Sheet := { nodes := (t.layout root none).toArray }

def create (s : Sheet) (kind : Kind) : NodeId × Sheet := s.plant (.node { kind := kind } [])

def clone (s : Sheet) (id : NodeId) : NodeId × Sheet := s.plant (s.tree id)

def cloneEmpty (s : Sheet) (id : NodeId) : NodeId × Sheet := s.plant (.node (s.label id) [])

@[simp] theorem size_plant (s : Sheet) (t : Tree Label) :
    (s.plant t).2.nodes.size = s.nodes.size + t.size := by
  simp [plant, Tree.length_layout]

end Sheet

end NestLint
