import NestLint.Sheet.Edit

/-!
Visiting every node below the root while the visitor changes the sheet. The walk keeps one cursor
per container that it is inside of; a cursor names the container and the child that comes next, and
removing a child moves the cursors behind it back. After a visit the walk goes on with the children
that the visited node has by then, wherever the node is.
-/

namespace NestLint.Sheet

variable {σ : Type}

abbrev Visitor (σ : Type) := NodeId → Sheet × σ → Sheet × σ

def enter (s : Sheet) (container : NodeId) : Sheet :=
  { s with cursors := ⟨container, 0⟩ :: s.cursors }

/-- One step of a walk: leave the innermost container if it has no child left to visit, otherwise
visit the next child and go inside it if it has children. -/
def walkStep (visit : Visitor σ) (state : Sheet × σ) : Sheet × σ :=
  let (s, memory) := state
  match s.cursors with
  | [] => state
  | cursor :: outer =>
    match (s.children cursor.container)[cursor.next]? with
    | none => ({ s with cursors := outer }, memory)
    | some child =>
      let s := { s with cursors := { cursor with next := cursor.next + 1 } :: outer }
      let (s, memory) := visit child (s, memory)
      (if (s.children child).isEmpty then s else s.enter child, memory)

/-- At most `fuel` steps, until no more than `base` containers are open. -/
def walkSteps (visit : Visitor σ) (base : Nat) : Nat → Sheet × σ → Sheet × σ
  | 0, state => state
  | fuel + 1, state =>
    if state.1.cursors.length ≤ base then state
    else walkSteps visit base fuel (walkStep visit state)

def walk (visit : Visitor σ) (fuel : Nat) (state : Sheet × σ) : Sheet × σ :=
  walkSteps visit state.1.cursors.length fuel (state.1.enter root, state.2)

end NestLint.Sheet
