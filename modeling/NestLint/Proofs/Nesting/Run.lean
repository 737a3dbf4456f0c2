import NestLint.Lint.Linter
import NestLint.Proofs.Nesting.Simulation

/-!
Whole runs. Every step of the walk changes the tree of the root by rewriting only: settling a node
rewrites as often as there is a match, and opening, leaving and moving cursors changes no node. So a
run over a sheet leads from its tree to the tree that it leaves through a chain of steps.
-/

namespace NestLint

namespace Sheet

variable {s s' : Sheet}

theorem children_of_nodes_eq (same : s'.nodes = s.nodes) (id : NodeId) : s'.children id = s.children id := by
  simp only [Sheet.children, node, same]

theorem parent_of_nodes_eq (same : s'.nodes = s.nodes) (id : NodeId) : s'.parent id = s.parent id := by
  simp only [Sheet.parent, node, same]

theorem shape_of_nodes_eq (same : s'.nodes = s.nodes) (id : NodeId) : s'.shape id = s.shape id := by
  have shapes : ∀ fuel id, s'.shapeWithin fuel id = s.shapeWithin fuel id := by
    intro fuel
    induction fuel with
    | zero => intro id; rfl
    | succ fuel ih =>
      intro id
      rw [shapeWithin, shapeWithin, children_of_nodes_eq same]
      congr 1
      exact List.map_congr_left fun child _ => ih child
  rw [shape, shape, same, shapes]

theorem tree_of_nodes_eq (same : s'.nodes = s.nodes) (id : NodeId) : s'.tree id = s.tree id := by
  have labels : s'.label = s.label := by
    funext id
    simp only [label, node, same]
  rw [tree, tree, shape_of_nodes_eq same, labels]

theorem Paired.of_nodes_eq (paired : s.Paired) (same : s'.nodes = s.nodes) : s'.Paired where
  parent_iff child parent := by
    rw [parent_of_nodes_eq same, children_of_nodes_eq same]
    exact paired.parent_iff child parent
  nodup parent := by
    rw [children_of_nodes_eq same]
    exact paired.nodup parent

theorem WellFormed.of_nodes_eq (formed : s.WellFormed) (same : s'.nodes = s.nodes) : s'.WellFormed where
  linked := formed.linked.of_same_links (parent_of_nodes_eq same) (children_of_nodes_eq same)
  root_stored := by rw [same]; exact formed.root_stored
  root_kind := by
    rw [← formed.root_kind]
    simp only [Sheet.kind, node, same]

theorem Spaced.of_nodes_eq (spaced : s.Spaced) (same : s'.nodes = s.nodes) : s'.Spaced where
  toWellFormed := spaced.toWellFormed.of_nodes_eq same
  before {id parent} up := by
    have upBefore : s.parent id = some parent := by rw [← up, parent_of_nodes_eq same]
    rw [← spaced.before upBefore]
    simp only [label, node, same]

theorem Laid.of_nodes_eq (laid : s.Laid) (same : s'.nodes = s.nodes) : s'.Laid where
  toSpaced := laid.toSpaced.of_nodes_eq same
  root_top := by rw [← laid.root_top, parent_of_nodes_eq same]

theorem under_of_nodes_eq (same : s'.nodes = s.nodes) (id other : NodeId) :
    s'.Under id other ↔ s.Under id other := by
  have parents : s'.parent = s.parent := funext (parent_of_nodes_eq same)
  rw [Under, Under, parents]

section walk

variable {σ : Type} (visitor : Visitor σ) {cursor : Cursor} {outer : List Cursor} (memory : σ)

theorem walkStep_of_none (cursors : s.cursors = cursor :: outer)
    (next : (s.children cursor.container)[cursor.next]? = none) :
    walkStep visitor (s, memory) = ({ s with cursors := outer }, memory) := by
  simp only [walkStep, cursors, next]

theorem walkStep_of_some {child : NodeId} (cursors : s.cursors = cursor :: outer)
    (next : (s.children cursor.container)[cursor.next]? = some child) {visited : Sheet × σ}
    (isVisited : visited =
      visitor child ({ s with cursors := { cursor with next := cursor.next + 1 } :: outer }, memory)) :
    walkStep visitor (s, memory) =
      (if (visited.1.children child).isEmpty then visited.1 else visited.1.enter child, visited.2) := by
  simp only [walkStep, cursors, next, isVisited]

theorem nodes_enter_unless (s : Sheet) (id : NodeId) :
    (if (s.children id).isEmpty then s else s.enter id).nodes = s.nodes := by
  split <;> rfl

theorem walkStep_keeps {P : Sheet → Prop} {visitor : Visitor σ}
    (nodes : ∀ {u v : Sheet}, P u → v.nodes = u.nodes → P v)
    (visits : ∀ (node : NodeId) (u : Sheet) (memory : σ), P u → P (visitor node (u, memory)).1)
    (holds : P s) : P (walkStep visitor (s, memory)).1 := by
  cases cursors : s.cursors with
  | nil =>
    rw [walkStep]
    simpa only [cursors] using holds
  | cons cursor outer =>
    cases next : (s.children cursor.container)[cursor.next]? with
    | none =>
      rw [walkStep_of_none _ memory cursors next]
      exact nodes holds rfl
    | some child =>
      -- The cursor moves on, the child is visited, and it may be entered.
      have moved : P { s with cursors := { cursor with next := cursor.next + 1 } :: outer } :=
        nodes holds rfl
      rw [walkStep_of_some _ memory cursors next rfl]
      exact nodes (visits child _ memory moved) (nodes_enter_unless _ child)

theorem walkSteps_keeps {P : Sheet → Prop} {visitor : Visitor σ}
    (nodes : ∀ {u v : Sheet}, P u → v.nodes = u.nodes → P v)
    (visits : ∀ (node : NodeId) (u : Sheet) (memory : σ), P u → P (visitor node (u, memory)).1)
    (holds : P s) (base steps : Nat) : P (walkSteps visitor base steps (s, memory)).1 := by
  induction steps generalizing s memory with
  | zero => exact holds
  | succ steps ih =>
    rw [walkSteps]
    split
    · exact holds
    · exact ih _ (walkStep_keeps memory nodes visits holds)

end walk

end Sheet

namespace Nesting

open Sheet

variable {accepts : Text → Bool} {s s' s'' : Sheet}

/-- The second sheet is laid out like the first, and its tree is reached by rewriting. -/
structure Reaches (accepts : Text → Bool) (s s' : Sheet) : Prop where
  laid : s'.Laid
  steps : Relation.ReflTransGen (Step accepts) (s.tree root) (s'.tree root)

theorem Reaches.of_nodes_eq (laid : s.Laid) (same : s'.nodes = s.nodes) : Reaches accepts s s' :=
  ⟨laid.of_nodes_eq same, by rw [tree_of_nodes_eq same]⟩

theorem Reaches.trans (first : Reaches accepts s s') (second : Reaches accepts s' s'') :
    Reaches accepts s s'' := ⟨second.laid, first.steps.trans second.steps⟩

theorem reaches_apply {node : NodeId} {m : Match} (laid : s.Laid)
    (found : matchAt accepts s node = some m) : Reaches accepts s (m.apply s) := by
  obtain ⟨place, -, nested⟩ := nested_apply laid.toSpaced found
  refine ⟨nested.laid laid, ?_⟩
  rcases nested.step_or_same laid with same | step
  · rw [same]
  · exact .single step

theorem reaches_settle (laid : s.Laid) (node : NodeId) (fuel : Nat) :
    Reaches accepts s (settle accepts node fuel s) := by
  induction fuel generalizing s with
  | zero => exact .of_nodes_eq laid rfl
  | succ fuel ih =>
    rw [settle]
    split
    next m found =>
      have first := reaches_apply laid found
      exact first.trans (ih first.laid)
    next => exact .of_nodes_eq laid rfl

theorem reaches_visit (laid : s.Laid) (fuel : Nat) (node : NodeId) (session : Session) :
    Reaches accepts s (visit accepts fuel node (s, session)).1 := by
  rw [visit]
  split
  · exact reaches_settle laid node fuel
  · exact .of_nodes_eq laid rfl

theorem mem_cursors_enter_unless {s : Sheet} {id : NodeId} {cursor : Cursor}
    (listed : cursor ∈ (if (s.children id).isEmpty then s else s.enter id).cursors) :
    cursor.container = id ∨ cursor ∈ s.cursors := by
  split at listed
  · exact Or.inr listed
  · rcases List.mem_cons.mp listed with rfl | outer
    · exact Or.inl rfl
    · exact Or.inr outer

theorem reaches_walkSteps (laid : s.Laid) (fuel base steps : Nat) (session : Session) :
    Reaches accepts s (walkSteps (visit accepts fuel) base steps (s, session)).1 := by
  apply walkSteps_keeps session (P := Reaches accepts s)
  · intro u v reached same
    exact reached.trans (.of_nodes_eq reached.laid same)
  · intro node u memory reached
    exact reached.trans (reaches_visit reached.laid fuel node memory)
  · exact .of_nodes_eq laid rfl

theorem reaches_check (laid : s.Laid) (session : Session) :
    Reaches accepts s (check accepts (s, session)).1 := by
  have opened : Reaches accepts s (s.enter root) := .of_nodes_eq laid rfl
  exact opened.trans (reaches_walkSteps opened.laid _ _ _ session)

end Nesting

open Nesting in
theorem Rule.reaches_check (rule : Rule) {s : Sheet} (laid : s.Laid) (session : Session) :
    Reaches rule.filter.accepts s (rule.check (s, session)).1 := by
  rw [Rule.check]
  split
  · exact Nesting.reaches_check laid session
  · exact .of_nodes_eq laid rfl

end NestLint
