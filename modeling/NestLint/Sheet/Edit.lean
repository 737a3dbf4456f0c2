import NestLint.Sheet.Plant

/-!
Moving nodes. Every operation keeps the two directions of a link together: a node's parent lists
it among its children exactly when the node names that parent.

Two courtesies keep the text of an edited sheet tidy. The first child of the root stands at the
start of the text, so when it leaves, the node that becomes first takes over what stood before it.
And a node that does not know what stands before it borrows the blanks of the sibling it is put
behind.
-/

namespace NestLint

/-- The cursor once the child at `index` has left `container`: the children behind it have moved
up by one, and a cursor among them moves along. -/
def Cursor.afterRemoval (cursor : Cursor) (container : NodeId) (index : Nat) : Cursor :=
  if cursor.container = container ∧ index < cursor.next then
    { cursor with next := cursor.next - 1 }
  else cursor

namespace Sheet

/-- The first child of the root hands what stands before it to the sibling that becomes first. -/
def passBefore (s : Sheet) (id parent : NodeId) (index : Nat) : Sheet :=
  if parent = root ∧ index = 0 then
    match (s.children parent)[1]? with
    | some next => s.modifyRaws next fun r => { r with before := (s.raws id).before }
    | none => s
  else s

def remove (s : Sheet) (id : NodeId) : Sheet :=
  match s.parent id, s.indexOf? id with
  | some parent, some index =>
    let s := s.passBefore id parent index
    let s := s.setChildren parent ((s.children parent).eraseIdx index)
    let s := s.setParent id none
    { s with cursors := s.cursors.map (·.afterRemoval parent index) }
  | _, _ => s

def removeAll (s : Sheet) (id : NodeId) : Sheet :=
  (s.children id).foldl (fun s child => s.setParent child none) (s.setChildren id [])

/-- A node that does not know what stands before it takes the blanks before the last child of its
parent to be. -/
def borrowBefore (s : Sheet) (parent child : NodeId) : Sheet :=
  match (s.raws child).before, (s.lastChild parent).bind fun last => (s.raws last).before with
  | none, some before => s.modifyRaws child fun r => { r with before := some (Text.blanks before) }
  | _, _ => s

/-- Makes `child` the last child of `parent`, wherever it was before. -/
def append (s : Sheet) (parent child : NodeId) : Sheet :=
  let s := (s.remove child).borrowBefore parent child
  let s := s.setParent child (some parent)
  s.setChildren parent (s.children parent ++ [child])

def setSelector (s : Sheet) (id : NodeId) (selector : Text) : Sheet :=
  if (s.kind id).isRule then s.setKind id (.rule selector) else s

end Sheet

end NestLint
