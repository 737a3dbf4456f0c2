/-!
Rose trees: a label and a list of subtrees. The stylesheet reader produces one, and the shape of a
stored stylesheet is one; `preorder` fixes the order in which their nodes are counted.
-/

namespace NestLint

inductive Tree (α : Type) where
  | node (label : α) (children : List (Tree α))
deriving Repr, Inhabited

namespace Tree

variable {α β : Type}

def label : Tree α → α
  | .node a _ => a

def children : Tree α → List (Tree α)
  | .node _ ts => ts

mutual
def preorder : Tree α → List α
  | .node a ts => a :: preorderAll ts
def preorderAll : List (Tree α) → List α
  | [] => []
  | t :: ts => preorder t ++ preorderAll ts
end

mutual
def size : Tree α → Nat
  | .node _ ts => sizeAll ts + 1
def sizeAll : List (Tree α) → Nat
  | [] => 0
  | t :: ts => size t + sizeAll ts
end

mutual
def map (f : α → β) : Tree α → Tree β
  | .node a ts => .node (f a) (mapAll f ts)
def mapAll (f : α → β) : List (Tree α) → List (Tree β)
  | [] => []
  | t :: ts => map f t :: mapAll f ts
end

mutual
theorem map_map {γ : Type} (f : α → β) (g : β → γ) (t : Tree α) :
    (t.map f).map g = t.map fun a => g (f a) := by
  cases t with
  | node a ts => rw [map, map, map, mapAll_mapAll f g ts]
theorem mapAll_mapAll {γ : Type} (f : α → β) (g : β → γ) (ts : List (Tree α)) :
    mapAll g (mapAll f ts) = mapAll (fun a => g (f a)) ts := by
  cases ts with
  | nil => rfl
  | cons t rest => rw [mapAll, mapAll, mapAll, map_map f g t, mapAll_mapAll f g rest]
end

mutual
theorem length_preorder (t : Tree α) : t.preorder.length = t.size := by
  cases t with
  | node a ts => simp [preorder, size, length_preorderAll ts]
theorem length_preorderAll (ts : List (Tree α)) : (preorderAll ts).length = sizeAll ts := by
  cases ts with
  | nil => rfl
  | cons t rest => simp [preorderAll, sizeAll, length_preorder t, length_preorderAll rest]
end

mutual
theorem preorder_map (f : α → β) (t : Tree α) : (t.map f).preorder = t.preorder.map f := by
  cases t with
  | node a ts => simp [map, preorder, preorderAll_mapAll f ts]
theorem preorderAll_mapAll (f : α → β) (ts : List (Tree α)) :
    preorderAll (mapAll f ts) = (preorderAll ts).map f := by
  cases ts with
  | nil => rfl
  | cons t rest => simp [mapAll, preorderAll, preorder_map f t, preorderAll_mapAll f rest]
end

end Tree

end NestLint
