import NestLint.Sheet.Node
import NestLint.Tree

/-!
A sheet stores its nodes by number, the root first. Nodes that are taken out of the tree stay in
the store, so a number never dangles. While a walk is under way the sheet also holds one cursor
for each container whose children are being visited, the innermost first.

`shape` is the view of a stored subtree as a tree of numbers; everything that goes through a
subtree (its descendants, its text, its copy) is defined on that tree.
-/

namespace NestLint

/-- A container whose children are being visited, and the index of the child that comes next. -/
structure Cursor where
  container : NodeId
  next : Nat
deriving DecidableEq, Repr

structure Sheet where
  nodes : Array Node
  cursors : List Cursor := []
deriving Repr

namespace Sheet

def root : NodeId := 0

def empty : Sheet := { nodes := #[Node.ofLabel { kind := .root }] }

instance : Inhabited Sheet := ⟨empty⟩

/-- The node of that number; past the end of the store, an empty root. -/
def node (s : Sheet) (id : NodeId) : Node := s.nodes.getD id (Node.ofLabel { kind := .root })

def kind (s : Sheet) (id : NodeId) : Kind := (s.node id).kind

def raws (s : Sheet) (id : NodeId) : Raws := (s.node id).raws

def source (s : Sheet) (id : NodeId) : Option Span := (s.node id).source

def label (s : Sheet) (id : NodeId) : Label := (s.node id).toLabel

def parent (s : Sheet) (id : NodeId) : Option NodeId := (s.node id).parent

def children (s : Sheet) (id : NodeId) : List NodeId := (s.node id).children

def selector? (s : Sheet) (id : NodeId) : Option Text := (s.kind id).selector?

def firstChild (s : Sheet) (id : NodeId) : Option NodeId := (s.children id).head?

def lastChild (s : Sheet) (id : NodeId) : Option NodeId := (s.children id).getLast?

def modify (s : Sheet) (id : NodeId) (f : Node → Node) : Sheet :=
  { s with nodes := s.nodes.modify id f }

@[simp] theorem size_modify (s : Sheet) (id : NodeId) (f : Node → Node) :
    (s.modify id f).nodes.size = s.nodes.size := by
  simp [modify]

theorem node_modify_self (s : Sheet) (id : NodeId) (f : Node → Node) (stored : id < s.nodes.size) :
    (s.modify id f).node id = f (s.node id) := by
  simp [modify, node, Array.getD, stored, Array.getElem_modify]

theorem node_modify_of_ne (s : Sheet) (id other : NodeId) (f : Node → Node)
    (different : other ≠ id) : (s.modify id f).node other = s.node other := by
  by_cases stored : other < s.nodes.size
  · simp [modify, node, Array.getD, stored, Array.getElem_modify, different.symm]
  · simp [modify, node, Array.getD, stored]

def setKind (s : Sheet) (id : NodeId) (kind : Kind) : Sheet :=
  s.modify id fun n => { n with kind := kind }

def modifyRaws (s : Sheet) (id : NodeId) (f : Raws → Raws) : Sheet :=
  s.modify id fun n => { n with raws := f n.raws }

def setParent (s : Sheet) (id : NodeId) (parent : Option NodeId) : Sheet :=
  s.modify id fun n => { n with parent := parent }

def setChildren (s : Sheet) (id : NodeId) (children : List NodeId) : Sheet :=
  s.modify id fun n => { n with children := children }

def setSource (s : Sheet) (id : NodeId) (source : Option Span) : Sheet :=
  s.modify id fun n => { n with source := source }

def indexOf? (s : Sheet) (id : NodeId) : Option Nat :=
  (s.parent id).bind fun parent => (s.children parent).idxOf? id

/-- The sibling before a node; first children and detached nodes have none. -/
def prev? (s : Sheet) (id : NodeId) : Option NodeId :=
  (s.parent id).bind fun parent =>
    match s.indexOf? id with
    | some (index + 1) => (s.children parent)[index]?
    | _ => none

def next? (s : Sheet) (id : NodeId) : Option NodeId :=
  (s.parent id).bind fun parent =>
    (s.indexOf? id).bind fun index => (s.children parent)[index + 1]?

def ancestorsWithin (s : Sheet) : Nat → NodeId → List NodeId
  | 0, _ => []
  | fuel + 1, id =>
    match s.parent id with
    | some parent => parent :: ancestorsWithin s fuel parent
    | none => []

/-- The nodes above a node, its parent first. A chain of parents repeats no node, so it is never
longer than the store. -/
def ancestors (s : Sheet) (id : NodeId) : List NodeId := s.ancestorsWithin s.nodes.size id

def depth (s : Sheet) (id : NodeId) : Nat := ((s.ancestors id).takeWhile (· != root)).length

def topmost (s : Sheet) (id : NodeId) : NodeId := (s.ancestors id).getLast?.getD id

def shapeWithin (s : Sheet) : Nat → NodeId → Tree NodeId
  | 0, id => .node id []
  | fuel + 1, id => .node id ((s.children id).map (shapeWithin s fuel))

/-- The numbers of a subtree in its shape. A path downwards repeats no node, so it is never longer
than the store. -/
def shape (s : Sheet) (id : NodeId) : Tree NodeId := s.shapeWithin s.nodes.size id

def tree (s : Sheet) (id : NodeId) : Tree Label := (s.shape id).map s.label

def descendants (s : Sheet) (id : NodeId) : List NodeId := Tree.preorderAll (s.shape id).children

end Sheet

end NestLint
