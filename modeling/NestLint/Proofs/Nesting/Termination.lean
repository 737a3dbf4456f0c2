import Mathlib.Algebra.Group.Action.Defs
import Mathlib.Tactic.Ring
import NestLint.Proofs.Nesting.Links
import NestLint.Proofs.Nesting.Progress

/-!
A fixing run comes to an end by itself. `Settles` and `Walks` are the loop at one node and the walk
without any bound on their steps: they relate a sheet to the sheet that is left when, after finitely many
rewritings, there is nothing more to do. Every run over a well-formed sheet is of this kind, so the bound
that the run is given cuts nothing off.

Two things carry the argument. Each rewriting lowers the rank of the tree of the root, since the node
that is settled stays inside the innermost open container or drops out of the tree with nothing in it.
And the open containers hang in each other, so there are no more of them than nodes, and the work that is
left between two rewritings is bounded.
-/

namespace NestLint

namespace Sheet

def containers (s : Sheet) : List NodeId := s.cursors.map Cursor.container

section containers

variable (s : Sheet) (id parent : NodeId)

theorem containers_of_cursors {s s' : Sheet} (same : s'.cursors = s.cursors) :
    s'.containers = s.containers := by
  rw [containers, containers, same]

theorem cursors_passBefore (index : Nat) : (s.passBefore id parent index).cursors = s.cursors := by
  unfold passBefore
  split
  · split <;> rfl
  · rfl

theorem cursors_borrowBefore : (s.borrowBefore parent id).cursors = s.cursors := by
  unfold borrowBefore
  split <;> rfl

theorem containers_remove : (s.remove id).containers = s.containers := by
  have kept : ∀ parent index, Cursor.container ∘ (fun cursor => cursor.afterRemoval parent index) =
      Cursor.container := by
    intro parent index
    funext cursor
    simp only [Function.comp, Cursor.afterRemoval]
    split <;> rfl
  unfold remove
  split
  next parent index _ _ =>
    simp only [containers, List.map_map, kept]
    exact congrArg (List.map Cursor.container) (cursors_passBefore s id parent index)
  next => rfl

theorem containers_append : (s.append parent id).containers = s.containers := by
  rw [← containers_remove s id, ← containers_of_cursors (cursors_borrowBefore (s.remove id) id parent)]
  rfl

theorem containers_setSelectors (selectors : List Text) :
    (s.setSelectors id selectors).containers = s.containers := by
  unfold setSelectors setSelector
  split
  · rfl
  · simp only
    split <;> rfl

theorem containers_foldl {f : Sheet → NodeId → Sheet}
    (keeps : ∀ (u : Sheet) (id : NodeId), (f u id).containers = u.containers) (ids : List NodeId) :
    (ids.foldl f s).containers = s.containers := by
  induction ids generalizing s with
  | nil => rfl
  | cons id rest ih => rw [List.foldl_cons, ih, keeps]

end containers

theorem Stacked.of_nodes_eq {s s' : Sheet} {ids : List NodeId} (stacked : s.Stacked ids)
    (same : s'.nodes = s.nodes) : s'.Stacked ids where
  inside id listed := (under_of_nodes_eq same id root).mpr (stacked.inside id listed)
  nested := stacked.nested.imp fun both => ⟨both.1, (under_of_nodes_eq same _ _).mpr both.2⟩

end Sheet

namespace Nesting

open Sheet

variable {accepts : Text → Bool} {s s' : Sheet}

/-- The loop at a node, for as long as there is a match: how often it rewrites, and what it leaves. -/
inductive Settles (accepts : Text → Bool) (node : NodeId) : Nat → Sheet → Sheet → Prop
  | done {s : Sheet} (settled : matchAt accepts s node = none) : Settles accepts node 0 s s
  | again {s s' : Sheet} {m : Match} {rewrites : Nat} (found : matchAt accepts s node = some m)
      (later : Settles accepts node rewrites (m.apply s) s') :
      Settles accepts node (rewrites + 1) s s'

/-- The walk, until no more than `base` containers are open: how often it rewrites, and what it
leaves. -/
inductive Walks (accepts : Text → Bool) (base : Nat) : Nat → Sheet → Sheet → Prop
  | closed {s : Sheet} (closed : s.cursors.length ≤ base) : Walks accepts base 0 s s
  | leave {s s' : Sheet} {cursor : Cursor} {outer : List Cursor} {rewrites : Nat}
      (opened : base < s.cursors.length) (cursors : s.cursors = cursor :: outer)
      (next : (s.children cursor.container)[cursor.next]? = none)
      (later : Walks accepts base rewrites { s with cursors := outer } s') :
      Walks accepts base rewrites s s'
  | visit {s visited s' : Sheet} {cursor : Cursor} {outer : List Cursor} {child : NodeId}
      {here later : Nat} (opened : base < s.cursors.length) (cursors : s.cursors = cursor :: outer)
      (next : (s.children cursor.container)[cursor.next]? = some child)
      (settles : Settles accepts child here
        { s with cursors := { cursor with next := cursor.next + 1 } :: outer } visited)
      (walks : Walks accepts base later
        (if (visited.children child).isEmpty then visited else visited.enter child) s') :
      Walks accepts base (here + later) s s'

theorem containers_apply (m : Match) (s : Sheet) : (m.apply s).containers = s.containers := by
  obtain ⟨relation, rule1, rule2⟩ := m
  cases relation with
  | descendant =>
    simp only [Match.apply, Relation.apply]
    unfold applyDescendant
    split
    · rw [containers_append, containers_setSelectors]
    · rfl
  | ancestor =>
    simp only [Match.apply, Relation.apply]
    unfold applyAncestor
    split
    · rw [containers_append, containers_foldl _ fun u id => containers_append u id _]
      change ((s.remove rule1).setSelectors rule1 _).containers = _
      rw [containers_setSelectors, containers_remove]
    · rfl
  | media =>
    simp only [Match.apply, Relation.apply]
    cases opens : mediaFirstRule? s rule2 with
    | none => simp only [applyMedia, opens]
    | some first =>
      obtain ⟨planted, inside, isPlanted, isInside, applied⟩ := applyMedia_eq (a := rule1) opens
      have same : inside.containers = s.containers := by
        have copies := containers_foldl planted (f := fun sheet child =>
          (sheet.clone child).2.append s.nodes.size (sheet.clone child).1)
          (fun u id => containers_append (u.clone id).2 (u.clone id).1 s.nodes.size)
          (planted.children first)
        rw [isInside, containers_remove, containers_append, copies, isPlanted]
        rfl
      rw [applied]
      split
      · rw [containers_remove, same]
      · exact same

theorem Nested.parent_above {place x : NodeId} (nested : Nested accepts s s' place) (linked : s.Linked)
    (stored : place < s.nodes.size) (above : s.Under place x) : s'.parent x = s.parent x := by
  cases up : s.parent x with
  | none => exact nested.top x (linked.stored_above above stored) up
  | some parent =>
    have listed := linked.mem_of_parent up
    have outside : ¬ s.Under parent place := fun under => linked.not_under_child up (under.trans above)
    apply nested.spaced.linked.parent_of_mem
    rw [(nested.same parent (stored_of_child listed) outside).2]
    exact listed

structure Settled (bound rewrites : Nat) (container node : NodeId) (s s' : Sheet) : Prop where
  formed : s'.WellFormed
  containers : s'.containers = s.containers
  above : ∀ x, s.Under container x → s'.parent x = s.parent x
  size : (s'.tree root).size ≤ (s.tree root).size
  rank : rank bound (s'.tree root) + rewrites ≤ rank bound (s.tree root)
  held : s'.Under node container ∨ s'.parent node = none ∧ s'.children node = []

theorem Settled.trans {bound first second : Nat} {container node : NodeId} {s'' : Sheet}
    (one : Settled bound first container node s s') (two : Settled bound second container node s' s'') :
    Settled bound (second + first) container node s s'' where
  formed := two.formed
  containers := two.containers.trans one.containers
  above x higher := (two.above x (higher.to_same_above one.above)).trans (one.above x higher)
  size := Nat.le_trans two.size one.size
  rank := by
    have both := Nat.add_le_add two.rank one.rank
    omega
  held := two.held

theorem settled_apply {bound : Nat} {container node place : NodeId} {m : Match} (formed : s.WellFormed)
    (found : matchAt accepts s node = some m) (up : s.parent node = some place)
    (inside : s.Under place container) (hangs : s.Under container root)
    (small : (s.tree root).size ≤ bound) : Settled bound 1 container node s (m.apply s) := by
  have alike := alike_tightened s
  have alike' := alike_apply alike m
  have spaced := formed.spaced_tightened
  obtain ⟨place', up', nested⟩ := nested_apply spaced ((matchAt_of_alike alike accepts node).symm.trans found)
  have same : place' = place := Option.some.inj (up'.symm.trans ((alike.parent node).symm.trans up))
  subst same
  have stored : place' < s.nodes.size := stored_of_child (formed.linked.mem_of_parent up)
  have above : ∀ x, s.Under place' x → (m.apply s).parent x = s.parent x := by
    intro x higher
    rw [alike'.parent, alike.parent]
    exact nested.parent_above spaced.linked (alike.size ▸ stored) ((alike.under place' x).mp higher)
  have step := nested.step spaced ((alike.under place' root).mp (inside.trans hangs))
  have sizes : ∀ {u v : Sheet}, Alike u v → (u.tree root).size = (v.tree root).size := by
    intro u v alike
    rw [← Tree.size_map Label.bare, alike.tree, Tree.size_map]
  refine ⟨wellFormed_apply formed found, containers_apply m s, fun x higher => above x (inside.trans higher),
    ?_, ?_, ?_⟩
  · rw [sizes alike, sizes alike']
    exact size_of_step step
  · rw [rank_of_bare (alike.tree root), rank_of_bare (alike'.tree root)]
    exact rank_of_step step (sizes alike ▸ small)
  · have path : (m.apply s).Under place' container := inside.to_same_above above
    rcases nested.held node up' with under | ⟨free, empty⟩
    · exact Or.inl (((alike'.under node place').mpr under).trans path)
    · exact Or.inr ⟨(alike'.parent node).trans free, (alike'.children node).trans empty⟩

theorem settles_settle (accepts : Text → Bool) {bound fuel : Nat} {container node : NodeId} (formed : s.WellFormed)
    (held : s.Under node container ∨ s.parent node = none ∧ s.children node = [])
    (different : node ≠ container) (hangs : s.Under container root)
    (small : (s.tree root).size ≤ bound) (enough : rank bound (s.tree root) < fuel) :
    ∃ rewrites, Settles accepts node rewrites s (settle accepts node fuel s) ∧
      Settled bound rewrites container node s (settle accepts node fuel s) := by
  induction fuel generalizing s with
  | zero => exact absurd enough (Nat.not_lt_zero _)
  | succ fuel ih =>
    rw [settle]
    split
    next m found =>
      obtain ⟨place, -, -, up, -⟩ := beside_of_matchAt found
      have inside : s.Under place container := by
        rcases held with under | ⟨free, -⟩
        · rcases under_iff.mp under with same | ⟨parent, up', higher⟩
          · exact absurd same different
          · rw [up] at up'
            exact Option.some.inj up' ▸ higher
        · rw [up] at free
          cases free
      have first := settled_apply formed found up inside hangs small
      have lower := first.rank
      obtain ⟨rewrites, settles, settled⟩ := ih first.formed first.held
        (hangs.to_same_above fun x higher => first.above x higher) (Nat.le_trans first.size small) (by omega)
      exact ⟨rewrites + 1, .again found settles, first.trans settled⟩
    next none =>
      exact ⟨0, .done none, formed, rfl, fun _ _ => rfl, Nat.le_refl _, Nat.le_refl _, held⟩

/-- What is left to do at an open container: its unvisited children, and leaving it. Each node below is
visited, and each node that is entered is left. -/
def work (s : Sheet) (cursor : Cursor) : Nat :=
  2 * Tree.sizeAll (((s.children cursor.container).drop cursor.next).map s.tree) + 1

def workAll (s : Sheet) (cursors : List Cursor) : Nat := (cursors.map (work s)).sum

theorem workAll_of_nodes_eq (same : s'.nodes = s.nodes) (cursors : List Cursor) :
    workAll s' cursors = workAll s cursors := by
  have trees : s'.tree = s.tree := funext (tree_of_nodes_eq same)
  have rows : s'.children = s.children := funext (children_of_nodes_eq same)
  unfold workAll work
  rw [trees, rows]

theorem work_le (linked : s.Linked) (cursor : Cursor) :
    work s cursor ≤ 2 * (s.tree cursor.container).size := by
  have whole : Tree.sizeAll ((s.children cursor.container).map s.tree) + 1 =
      (s.tree cursor.container).size := by
    rw [linked.tree_eq cursor.container, Tree.size]
  rw [← List.take_append_drop cursor.next (s.children cursor.container), List.map_append,
    Tree.sizeAll_append] at whole
  rw [work]
  omega

structure Walking (bound : Nat) (s : Sheet) (opened rest : List Cursor) : Prop where
  formed : s.WellFormed
  cursors : s.cursors = opened ++ rest
  stacked : s.Stacked (opened.map Cursor.container)
  small : (s.tree root).size ≤ bound

theorem Walking.workAll_le {bound : Nat} {opened rest : List Cursor} (walking : Walking bound s opened rest) :
    workAll s opened ≤ 2 * bound * bound := by
  have each : ∀ n ∈ opened.map (work s), n ≤ 2 * bound := by
    intro n listed
    obtain ⟨cursor, isOpen, rfl⟩ := List.mem_map.mp listed
    have inside := walking.stacked.inside cursor.container (List.mem_map_of_mem isOpen)
    calc
      work s cursor ≤ 2 * (s.tree cursor.container).size := work_le walking.formed.linked cursor
      _ ≤ 2 * bound := Nat.mul_le_mul_left 2
        (Nat.le_trans (walking.formed.linked.size_tree_le inside) walking.small)
  have few : opened.length ≤ bound := by
    have most := walking.stacked.length_le walking.formed.linked
    rw [List.length_map] at most
    exact Nat.le_trans most walking.small
  calc
    workAll s opened ≤ (opened.map (work s)).length • (2 * bound) := List.sum_le_card_nsmul _ _ each
    _ ≤ 2 * bound * bound := by
      rw [List.length_map, smul_eq_mul, Nat.mul_comm]
      exact Nat.mul_le_mul_left _ few

/-- How far a walk is from its end. One rewriting outweighs all the work that can be left. -/
def weight (bound : Nat) (s : Sheet) (opened : List Cursor) : Nat :=
  (2 * bound * bound + 1) * rank bound (s.tree root) + workAll s opened

theorem weight_of_nodes_eq (same : s'.nodes = s.nodes) (bound : Nat) (opened : List Cursor) :
    weight bound s' opened = weight bound s opened := by
  rw [weight, weight, tree_of_nodes_eq same, workAll_of_nodes_eq same]

theorem weight_leave (bound : Nat) (s : Sheet) (cursor : Cursor) (outer : List Cursor) :
    weight bound s outer < weight bound s (cursor :: outer) := by
  have positive : 0 < work s cursor := Nat.succ_pos _
  rw [weight, weight, workAll, workAll, List.map_cons, List.sum_cons]
  omega

namespace Walking

variable {bound : Nat} {cursor : Cursor} {opened outer rest : List Cursor} {child : NodeId}

theorem weight_lt (walking : Walking bound s opened rest) :
    weight bound s opened < (2 * bound * bound + 1) * (rank bound (s.tree root) + 1) := by
  have most := walking.workAll_le
  rw [weight, Nat.mul_succ]
  omega

theorem withCursors (walking : Walking bound s opened rest) (others : List Cursor)
    (stacked : s.Stacked (others.map Cursor.container)) :
    Walking bound { s with cursors := others ++ rest } others rest := by
  have same : ({ s with cursors := others ++ rest } : Sheet).nodes = s.nodes := rfl
  refine ⟨walking.formed.of_nodes_eq same, rfl, stacked.of_nodes_eq same, ?_⟩
  rw [tree_of_nodes_eq same]
  exact walking.small

theorem leave (walking : Walking bound s (cursor :: outer) rest) :
    Walking bound { s with cursors := outer ++ rest } outer rest :=
  walking.withCursors outer walking.stacked.tail

theorem next (walking : Walking bound s (cursor :: outer) rest) (index : Nat) :
    Walking bound { s with cursors := { cursor with next := index } :: (outer ++ rest) }
      ({ cursor with next := index } :: outer) rest :=
  walking.withCursors ({ cursor with next := index } :: outer) walking.stacked

theorem enter (walking : Walking bound s (cursor :: outer) rest) (different : child ≠ cursor.container)
    (held : s.Under child cursor.container ∨ s.parent child = none ∧ s.children child = []) :
    Walking bound (if (s.children child).isEmpty then s else s.enter child)
      ((if (s.children child).isEmpty then [] else [⟨child, 0⟩]) ++ cursor :: outer) rest := by
  by_cases empty : (s.children child).isEmpty = true
  · rw [if_pos empty, if_pos empty]
    exact walking
  · rw [if_neg empty, if_neg empty]
    have under : s.Under child cursor.container := by
      rcases held with inside | ⟨-, none⟩
      · exact inside
      · rw [none] at empty
        exact absurd rfl empty
    rw [Sheet.enter, walking.cursors]
    exact walking.withCursors (⟨child, 0⟩ :: cursor :: outer)
      (walking.stacked.push walking.formed.linked under different)

theorem settled {rewrites : Nat} {node : NodeId} (walking : Walking bound s (cursor :: outer) rest)
    (settled : Settled bound rewrites cursor.container node s s') :
    ∃ cursor' outer' rest', cursor'.container = cursor.container ∧ rest'.length = rest.length ∧
      Walking bound s' (cursor' :: outer') rest' := by
  have kept : s'.cursors.map Cursor.container =
      (cursor :: outer).map Cursor.container ++ rest.map Cursor.container := by
    rw [← List.map_append, ← walking.cursors]
    exact settled.containers
  obtain ⟨opened, rest', isWhole, isOpened, isRest⟩ := List.map_eq_append_iff.mp kept
  obtain ⟨cursor', outer', rfl, isInnermost, isOuter⟩ := List.map_eq_cons_iff.mp isOpened
  have lengths := congrArg List.length isRest
  rw [List.length_map, List.length_map] at lengths
  refine ⟨cursor', outer', rest', isInnermost, lengths, settled.formed, isWhole, ?_,
    Nat.le_trans settled.size walking.small⟩
  rw [isOpened]
  exact walking.stacked.of_same_above settled.above

end Walking

theorem weight_enter (linked : s.Linked) {cursor : Cursor} {child : NodeId}
    (next : (s.children cursor.container)[cursor.next]? = some child) (bound : Nat) (outer : List Cursor) :
    weight bound s ((if (s.children child).isEmpty then [] else [⟨child, 0⟩]) ++
      { cursor with next := cursor.next + 1 } :: outer) < weight bound s (cursor :: outer) := by
  have row : (s.children cursor.container).drop cursor.next =
      child :: (s.children cursor.container).drop (cursor.next + 1) := by
    obtain ⟨inside, isChild⟩ := List.getElem?_eq_some_iff.mp next
    rw [List.drop_eq_getElem_cons inside, isChild]
  have here : work s cursor = work s { cursor with next := cursor.next + 1 } + 1 + work s ⟨child, 0⟩ := by
    simp only [work, row, List.map_cons, Tree.sizeAll, linked.tree_eq child, Tree.size, List.drop_zero]
    omega
  have positive : 0 < work s ⟨child, 0⟩ := Nat.succ_pos _
  simp only [weight, workAll]
  split
  · simp only [List.nil_append, List.map_cons, List.sum_cons]
    omega
  · simp only [List.cons_append, List.nil_append, List.map_cons, List.sum_cons]
    omega

theorem Settles.eq_of_zero {node : NodeId} (settles : Settles accepts node 0 s s') : s' = s := by
  cases settles
  rfl

theorem exists_visited (accepts : Text → Bool) {bound fuel : Nat} {cursor : Cursor}
    {outer rest : List Cursor} {child : NodeId} (walking : Walking bound s (cursor :: outer) rest)
    (next : (s.children cursor.container)[cursor.next]? = some child)
    (enough : rank bound (s.tree root) < fuel) {moved : Sheet}
    (isMoved : moved = { s with cursors := { cursor with next := cursor.next + 1 } :: (outer ++ rest) })
    {visited : Sheet} (isVisited : visited = settle accepts child fuel moved) :
    ∃ rewrites opened rest', Settles accepts child rewrites moved visited ∧
      rest'.length = rest.length ∧ rank bound (visited.tree root) + rewrites ≤ rank bound (s.tree root) ∧
      Walking bound (if (visited.children child).isEmpty then visited else visited.enter child) opened
        rest' ∧
      weight bound (if (visited.children child).isEmpty then visited else visited.enter child) opened <
        weight bound s (cursor :: outer) := by
  have linked := walking.formed.linked
  have up := linked.parent_of_mem (List.mem_of_getElem? next)
  have different : child ≠ cursor.container :=
    linked.ne_of_under_child up (under_refl s child) (under_refl s cursor.container)
  have same : moved.nodes = s.nodes := by rw [isMoved]
  have unchanged := tree_of_nodes_eq same root
  have walking₁ := walking.next (cursor.next + 1)
  rw [← isMoved] at walking₁
  have held : moved.Under child cursor.container :=
    (under_of_nodes_eq same child cursor.container).mpr ((under_refl s cursor.container).step up)
  obtain ⟨rewrites, settles, settled⟩ := settles_settle accepts walking₁.formed (Or.inl held) different
    (walking₁.stacked.inside cursor.container List.mem_cons_self) walking₁.small
    (unchanged ▸ enough)
  rw [← isVisited] at settles settled
  have lower := settled.rank
  rw [unchanged] at lower
  cases rewrites with
  | zero =>
    -- Nothing has changed; the visit itself is the work that has been done.
    obtain rfl := settles.eq_of_zero
    have lighter := weight_enter linked next bound outer
    have rows : visited.children child = s.children child := children_of_nodes_eq same child
    refine ⟨0, _, rest, settles, rfl, lower, walking₁.enter different (Or.inl held), ?_⟩
    rw [weight_of_nodes_eq ((nodes_enter_unless visited child).trans same), rows]
    exact lighter
  | succ rewrites =>
    -- The rank is lower, which outweighs whatever there is to do now.
    obtain ⟨cursor', outer', rest', isInnermost, lengths, walking₂⟩ := walking₁.settled settled
    have walking₃ := walking₂.enter (isInnermost ▸ different) (isInnermost ▸ settled.held)
    refine ⟨rewrites + 1, _, rest', settles, lengths, lower, walking₃, ?_⟩
    have most := walking₃.weight_lt
    rw [tree_of_nodes_eq (nodes_enter_unless visited child)] at most
    have fewer := Nat.mul_le_mul_left (2 * bound * bound + 1)
      (show rank bound (visited.tree root) + 1 ≤ rank bound (s.tree root) by omega)
    calc
      _ < (2 * bound * bound + 1) * (rank bound (visited.tree root) + 1) := most
      _ ≤ (2 * bound * bound + 1) * rank bound (s.tree root) := fewer
      _ ≤ weight bound s (cursor :: outer) := Nat.le_add_right _ _

theorem walks_walkSteps {bound fuel base steps : Nat} {opened rest : List Cursor} {session : Session}
    (fixes : session.fix = true) (walking : Walking bound s opened rest) (isBase : rest.length = base)
    (enough : rank bound (s.tree root) < fuel) (enoughSteps : weight bound s opened < steps) :
    ∃ rewrites s', walkSteps (visit accepts fuel) base steps (s, session) = (s', session) ∧
      Walks accepts base rewrites s s' ∧
      rank bound (s'.tree root) + rewrites ≤ rank bound (s.tree root) := by
  induction steps generalizing s opened rest with
  | zero => exact absurd enoughSteps (Nat.not_lt_zero _)
  | succ steps ih =>
    rw [walkSteps]
    cases opened with
    | nil =>
      have closed : s.cursors.length ≤ base := by rw [walking.cursors, ← isBase]; rfl
      rw [if_pos closed]
      exact ⟨0, s, rfl, .closed closed, Nat.le_refl _⟩
    | cons cursor outer =>
      have isOpen : base < s.cursors.length := by
        rw [walking.cursors, List.length_append, List.length_cons]
        omega
      have cursors : s.cursors = cursor :: (outer ++ rest) := walking.cursors
      rw [if_neg (Nat.not_le.mpr isOpen)]
      cases next : (s.children cursor.container)[cursor.next]? with
      | none =>
        have lighter := weight_leave bound s cursor outer
        have same : ({ s with cursors := outer ++ rest } : Sheet).nodes = s.nodes := rfl
        have kept := tree_of_nodes_eq same root
        obtain ⟨rewrites, s', ends, walks, lower⟩ := ih walking.leave isBase (kept ▸ enough) (by
          rw [weight_of_nodes_eq same]
          omega)
        rw [walkStep_of_none _ session cursors next]
        exact ⟨rewrites, s', ends, .leave isOpen cursors next walks, kept ▸ lower⟩
      | some child =>
        obtain ⟨visited, isVisited⟩ : ∃ visited, visited = settle accepts child fuel
          { s with cursors := { cursor with next := cursor.next + 1 } :: (outer ++ rest) } := ⟨_, rfl⟩
        obtain ⟨here, opened, rest', settles, lengths, lower, walking', lighter⟩ :=
          exists_visited accepts walking next enough rfl isVisited
        have kept := tree_of_nodes_eq (nodes_enter_unless visited child) root
        obtain ⟨later, s', ends, walks, lower'⟩ := ih walking' (lengths.trans isBase)
          (by rw [kept]; omega) (by omega)
        rw [kept] at lower'
        refine ⟨here + later, s', ?_, .visit isOpen cursors next settles walks, by omega⟩
        rw [walkStep_of_some _ session cursors next rfl]
        simp only [visit, fixes, if_true, ← isVisited]
        exact ends

theorem steps_lt_stepBound (s : Sheet) :
    (2 * s.nodes.size * s.nodes.size + 1) * ((s.nodes.size + 1) * (s.nodes.size * s.nodes.size + 1)) ≤
      stepBound s := by
  rw [stepBound, Nat.pow_eq]
  generalize s.nodes.size = n
  have expand : (n + 2) ^ 6 = (2 * n * n + 1) * ((n + 1) * (n * n + 1)) +
      (n ^ 6 + 10 * n ^ 5 + 58 * n ^ 4 + 157 * n ^ 3 + 237 * n ^ 2 + 191 * n + 63) := by ring
  omega

/-- A fixing run is the walk without bounds. It comes to its end, and it rewrites less often than a
number that depends on the number of nodes only. -/
theorem walks_check (accepts : Text → Bool) (formed : s.WellFormed) {session : Session}
    (fixes : session.fix = true) :
    ∃ rewrites s', check accepts (s, session) = (s', session) ∧
      Walks accepts s.cursors.length rewrites (s.enter root) s' ∧
      rewrites < (s.nodes.size + 1) * (s.nodes.size * s.nodes.size + 1) := by
  have same : (s.enter root).nodes = s.nodes := rfl
  have small : ((s.enter root).tree root).size ≤ s.nodes.size := by
    rw [tree_of_nodes_eq same]
    exact formed.linked.size_tree_le_size formed.root_stored
  have walking : Walking s.nodes.size (s.enter root) [⟨root, 0⟩] s.cursors := by
    refine ⟨formed.of_nodes_eq same, rfl, ⟨fun id listed => ?_, List.pairwise_singleton _ _⟩, small⟩
    rw [List.mem_singleton.mp listed]
    exact under_refl _ root
  have few := rank_lt small
  have room := steps_lt_stepBound s
  have light := Nat.lt_of_lt_of_le walking.weight_lt (Nat.mul_le_mul_left _ few)
  have enough : rank s.nodes.size ((s.enter root).tree root) < stepBound s :=
    Nat.lt_of_lt_of_le few (Nat.le_trans (Nat.le_mul_of_pos_left _ (Nat.succ_pos _)) room)
  obtain ⟨rewrites, s', ends, walks, lower⟩ := walks_walkSteps fixes walking rfl enough
    (Nat.lt_of_lt_of_le light room)
  exact ⟨rewrites, s', ends, walks, by omega⟩

end Nesting

namespace Rule

open Nesting

/-- Fixing a well-formed sheet comes to an end, whatever the filter: a rule that runs leaves what the
walk without bounds leaves after finitely many rewritings, and one that does not run leaves the sheet. -/
theorem check_ends (rule : Rule) {s : Sheet} (formed : s.WellFormed) {session : Session}
    (fixes : session.fix = true) :
    ∃ rewrites s', rule.check (s, session) = (s', session) ∧
      rewrites < (s.nodes.size + 1) * (s.nodes.size * s.nodes.size + 1) ∧
      if rule.action.runs then
        Walks rule.filter.accepts s.cursors.length rewrites (s.enter Sheet.root) s'
      else rewrites = 0 ∧ s' = s := by
  unfold check
  by_cases runs : rule.action.runs = true
  · rw [if_pos runs]
    obtain ⟨rewrites, s', ends, walks, few⟩ := Nesting.walks_check rule.filter.accepts formed fixes
    exact ⟨rewrites, s', ends, few, by rwa [if_pos runs]⟩
  · rw [if_neg runs]
    exact ⟨0, s, rfl, Nat.mul_pos (Nat.succ_pos _) (Nat.succ_pos _), by simp [runs]⟩

/-- A run with all three relations, in which one node is nested twice. -/
theorem check_ends_all_relations :
    ∃ s, Sheet.parse "a\x7bp:1\x7da b\x7bq:2\x7da b c\x7b\x7dx a\x7br:3\x7d@media m\x7ba\x7bs:4\x7d\x7d" = .ok s ∧
      ∃ rewrites s', ({} : Rule).check (s, { fix := true }) = (s', { fix := true }) ∧
        Walks (Filter.accepts {}) 0 rewrites (s.enter Sheet.root) s' := by
  obtain ⟨s, parsed⟩ := Sheet.exists_sheet_of_accepted
    "a\x7bp:1\x7da b\x7bq:2\x7da b c\x7b\x7dx a\x7br:3\x7d@media m\x7ba\x7bs:4\x7d\x7d" (by decide +kernel)
  have closed : s.cursors = [] := by
    obtain ⟨t, -, rfl⟩ := Sheet.exists_tree_of_parse parsed
    rfl
  obtain ⟨rewrites, s', ends, -, walks⟩ := check_ends {} (Sheet.laid_of_parse parsed).toWellFormed
    (show Session.fix { fix := true } = true from rfl)
  rw [if_pos (by decide), closed] at walks
  exact ⟨s, parsed, rewrites, s', ends, walks⟩

end Rule

end NestLint
