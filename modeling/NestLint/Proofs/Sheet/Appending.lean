import NestLint.Proofs.Nesting.Resolving
import NestLint.Proofs.Sheet.Scripted

/-!
Nodes that a walk appends to a container it is inside of. A cursor that does not stand behind the end of the
children is kept in that place by every edit but one: emptying its container at a stroke leaves the cursor where
it is. Unless that has happened, a node that is appended waits behind the cursor; a node that waits goes on
waiting as long as it stays in its container, and a walk does not end before it has come by.
-/

namespace NestLint

namespace Sheet

def carried (s : Sheet) : List Edit → Cursor → Cursor
  | [], cursor => cursor
  | edit :: rest, cursor => (edit.apply s).carried rest (edit.shift s cursor)

def Allows (s : Sheet) : List Edit → Prop
  | [] => True
  | edit :: rest => edit.Stored s ∧ (edit.apply s).Allows rest

def Holds (s : Sheet) (container id : NodeId) : List Edit → Prop
  | [] => True
  | edit :: rest => (edit.apply s).parent id = some container ∧ (edit.apply s).Holds container id rest

instance decidableAllows (s : Sheet) : (edits : List Edit) → Decidable (s.Allows edits)
  | [] => isTrue trivial
  | edit :: rest =>
    have := decidableAllows (edit.apply s) rest
    inferInstanceAs (Decidable (edit.Stored s ∧ (edit.apply s).Allows rest))

instance decidableHolds (s : Sheet) (container id : NodeId) : (edits : List Edit) →
    Decidable (s.Holds container id edits)
  | [] => isTrue trivial
  | edit :: rest =>
    have := decidableHolds (edit.apply s) container id rest
    inferInstanceAs (Decidable ((edit.apply s).parent id = some container ∧ (edit.apply s).Holds container id rest))

def openedSince (base : Nat) (cursors : List Cursor) : List Cursor := cursors.take (cursors.length - base)

/-- The container is open, and the walk that began with `base` open containers has opened it. -/
def Visit.Iterates (visit : Visit) (base : Nat) (container : NodeId) : Prop :=
  ∃ cursor ∈ openedSince base visit.found.cursors, cursor.container = container

instance (visit : Visit) (base : Nat) (container : NodeId) : Decidable (visit.Iterates base container) :=
  inferInstanceAs (Decidable (∃ cursor ∈ _, _))

section edits

variable {s : Sheet} (paired : s.Paired) {cursor : Cursor} {edit : Edit} {child : NodeId}

include paired

theorem Paired.covers_apply (stored : edit.Stored s) (spared : edit ≠ .removeAll cursor.container)
    (covers : s.Covers cursor) : (edit.apply s).Covers (edit.shift s cursor) := by
  cases edit with
  | create kind =>
    change _ ≤ ((s.create kind).2.children cursor.container).length
    rw [(links_create s kind cursor.container).1]
    exact covers
  | append parent id => exact paired.covers_append stored.1 covers
  | remove id => exact paired.covers_remove id covers
  | removeAll id =>
    have other : cursor.container ≠ id := fun same => spared (same ▸ rfl)
    change _ ≤ ((s.removeAll id).children cursor.container).length
    rw [children_removeAll, if_neg other]
    exact covers

theorem Paired.waits_apply (stored : edit.Stored s) (stays : (edit.apply s).parent child = some cursor.container)
    (waits : child ∈ s.waiting cursor) : child ∈ (edit.apply s).waiting (edit.shift s cursor) := by
  have listed : child ∈ s.children cursor.container := List.mem_of_mem_drop waits
  cases edit with
  | create kind =>
    change child ∈ (s.create kind).2.waiting cursor
    rw [waiting, (links_create s kind cursor.container).1]
    exact waits
  | append parent id =>
    change child ∈ (s.append parent id).waiting (s.shiftWithout id cursor)
    rw [paired.waiting_append stored.1, List.mem_append]
    by_cases same : child = id
    · subst same
      have here : cursor.container = parent := by
        change (s.append parent child).parent child = _ at stays
        rw [paired.parent_append _ stored.2, if_pos rfl] at stays
        exact (Option.some.inj stays).symm
      -- A row in which something waits is not left behind, so the end of the row is still ahead of the cursor.
      have covers : s.Covers cursor := by
        by_contra behind
        rw [Covers, Nat.not_le] at behind
        rw [waiting, List.drop_eq_nil_of_le (Nat.le_of_lt behind)] at waits
        exact List.not_mem_nil waits
      rw [if_pos ⟨here, paired.covers_remove child covers⟩]
      exact Or.inr (List.mem_singleton_self child)
    · exact Or.inl ((List.mem_erase_of_ne same).mpr waits)
  | remove id =>
    have other : child ≠ id := by
      rintro rfl
      change (s.remove child).parent child = _ at stays
      rw [paired.parent_remove, if_pos rfl] at stays
      cases stays
    change child ∈ (s.remove id).waiting (s.shiftWithout id cursor)
    rw [paired.waiting_remove]
    exact (List.mem_erase_of_ne other).mpr waits
  | removeAll id =>
    have other : cursor.container ≠ id := by
      rintro rfl
      change (s.removeAll cursor.container).parent child = _ at stays
      rw [parent_removeAll, if_pos listed] at stays
      cases stays
    change child ∈ (s.removeAll id).waiting cursor
    rw [waiting_removeAll, if_neg other]
    exact waits

end edits

section rows

variable {s : Sheet} {cursor : Cursor} {edits : List Edit} {child : NodeId}

theorem container_carried (s : Sheet) (edits : List Edit) (cursor : Cursor) :
    (s.carried edits cursor).container = cursor.container := by
  induction edits generalizing s cursor with
  | nil => rfl
  | cons edit rest ih => exact (ih _ _).trans (container_shift s edit cursor)

theorem cursors_edited (s : Sheet) (edits : List Edit) :
    (s.edited edits).cursors = s.cursors.map (s.carried edits) := by
  induction edits generalizing s with
  | nil => exact (List.map_id s.cursors).symm
  | cons edit rest ih =>
    rw [edited, List.foldl_cons, ← edited, ih, cursors_apply, List.map_map]
    rfl

theorem Paired.edited (paired : s.Paired) (allowed : s.Allows edits) : (s.edited edits).Paired := by
  induction edits generalizing s with
  | nil => exact paired
  | cons edit rest ih => exact ih (paired.apply allowed.1) allowed.2

theorem Paired.covers_edited (paired : s.Paired) (allowed : s.Allows edits)
    (spared : .removeAll cursor.container ∉ edits) (covers : s.Covers cursor) :
    (s.edited edits).Covers (s.carried edits cursor) := by
  induction edits generalizing s cursor with
  | nil => exact covers
  | cons edit rest ih =>
    rw [List.mem_cons, not_or] at spared
    refine ih (paired.apply allowed.1) allowed.2 ?_ (paired.covers_apply allowed.1 (Ne.symm spared.1) covers)
    rw [container_shift]
    exact spared.2

theorem Paired.waits_edited (paired : s.Paired) (allowed : s.Allows edits)
    (stays : s.Holds cursor.container child edits) (waits : child ∈ s.waiting cursor) :
    child ∈ (s.edited edits).waiting (s.carried edits cursor) := by
  induction edits generalizing s cursor with
  | nil => exact waits
  | cons edit rest ih =>
    refine ih (paired.apply allowed.1) allowed.2 ?_ (paired.waits_apply allowed.1 stays.1 waits)
    rw [container_shift]
    exact stays.2

theorem Paired.waits_appended (paired : s.Paired) {container : NodeId} (here : cursor.container = container)
    {front behind : List Edit} (allowed : s.Allows (front ++ .append container child :: behind))
    (spared : .removeAll container ∉ front) (covers : s.Covers cursor)
    (stays : (s.edited (front ++ [.append container child])).Holds container child behind) :
    child ∈ (s.edited (front ++ .append container child :: behind)).waiting
      (s.carried (front ++ .append container child :: behind) cursor) := by
  induction front generalizing s cursor with
  | nil =>
    obtain ⟨stored, allowed⟩ := allowed
    refine (paired.apply stored).waits_edited allowed ?_ ?_
    · rw [container_shift, here]
      exact stays
    · change child ∈ (s.append container child).waiting (s.shiftWithout child cursor)
      rw [paired.waiting_append stored.1, if_pos ⟨here, paired.covers_remove child covers⟩]
      exact List.mem_append_right _ (List.mem_singleton_self child)
  | cons edit rest ih =>
    rw [List.mem_cons, not_or] at spared
    exact ih (paired.apply allowed.1) ((container_shift s edit cursor).trans here) allowed.2 spared.2
      (paired.covers_apply allowed.1 (by rw [here]; exact Ne.symm spared.1) covers) stays

end rows

/-- A walk to its end, as long as no more than `base` containers are open, with the visits that it pays. -/
inductive Walked (base : Nat) : Sheet → List Visit → Prop
  | ended {s : Sheet} (few : s.cursors.length ≤ base) : Walked base s []
  | leave {s t : Sheet} {cursor : Cursor} {visits : List Visit} (goes : base < s.cursors.length)
      (cursors : s.cursors = cursor :: t.cursors) (same : t.nodes = s.nodes) (none : s.waiting cursor = [])
      (onward : Walked base t visits) : Walked base s visits
  | visit {s t : Sheet} {cursor : Cursor} {outer : List Cursor} {visit : Visit} {later : List Visit}
      (goes : base < s.cursors.length) (cursors : s.cursors = cursor :: outer)
      (found : visit.found = { s with cursors := { cursor with next := cursor.next + 1 } :: outer })
      (next : (s.children cursor.container)[cursor.next]? = some visit.node)
      (entered : t.cursors = visit.left.entered visit.node ++ visit.left.cursors)
      (same : t.nodes = visit.left.nodes) (onward : Walked base t later) : Walked base s (visit :: later)

theorem walked_of_walkSteps {σ : Type} {script : Script σ} {base steps : Nat} {s s' : Sheet} {memory memory' : σ}
    {visits all : List Visit}
    (walk : walkSteps script.visitor base steps (s, memory, visits) = (s', memory', all))
    (ended : s'.cursors.length ≤ base) : ∃ later, all = visits ++ later ∧ Walked base s later := by
  induction steps generalizing s memory visits with
  | zero =>
    cases walk
    exact ⟨[], (List.append_nil _).symm, .ended ended⟩
  | succ steps ih =>
    rw [walkSteps] at walk
    split at walk
    next few =>
      cases walk
      exact ⟨[], (List.append_nil _).symm, .ended ended⟩
    next goes =>
      rw [Nat.not_le] at goes
      cases cursors : s.cursors with
      | nil =>
        rw [cursors] at goes
        exact absurd goes (Nat.not_lt_zero base)
      | cons cursor outer =>
        cases next : (s.children cursor.container)[cursor.next]? with
        | none =>
          rw [walkStep_of_none script.visitor (memory, visits) cursors next] at walk
          obtain ⟨later, grown, onward⟩ := ih walk
          have none : s.waiting cursor = [] := List.drop_eq_nil_of_le (List.getElem?_eq_none_iff.mp next)
          exact ⟨later, grown, .leave (t := { s with cursors := outer }) goes cursors rfl none onward⟩
        | some child =>
          rw [script.walkStep_visitor cursors next memory visits rfl rfl] at walk
          obtain ⟨later, grown, onward⟩ := ih walk
          exact ⟨_ :: later, by rw [grown, List.append_assoc, List.singleton_append],
            .visit goes cursors rfl next (cursors_enter_unless _ child) (nodes_enter_unless _ child) onward⟩

section walk

variable {base : Nat} {s : Sheet} {cursors : List Cursor}

theorem openedSince_of_le (few : cursors.length ≤ base) : openedSince base cursors = [] := by
  rw [openedSince, Nat.sub_eq_zero_of_le few, List.take_zero]

theorem openedSince_append (front : List Cursor) (goes : base ≤ cursors.length) :
    openedSince base (front ++ cursors) = front ++ openedSince base cursors := by
  rw [openedSince, openedSince, List.length_append, Nat.add_sub_assoc goes, List.take_append,
    List.take_of_length_le (Nat.le_add_right _ _), Nat.add_sub_cancel_left]

theorem openedSince_cons {cursor : Cursor} (goes : base < (cursor :: cursors).length) :
    openedSince base (cursor :: cursors) = cursor :: openedSince base cursors :=
  openedSince_append [cursor] (Nat.le_of_lt_succ goes)

theorem openedSince_visited {t : Sheet} {visit : Visit} (goes : base ≤ visit.found.cursors.length)
    (entered : t.cursors = visit.left.entered visit.node ++ visit.left.cursors) :
    openedSince base t.cursors = visit.left.entered visit.node ++
      (openedSince base visit.found.cursors).map (visit.found.carried visit.edits) := by
  have moved : visit.left.cursors = visit.found.cursors.map (visit.found.carried visit.edits) :=
    cursors_edited visit.found visit.edits
  rw [entered, moved, openedSince_append _ (by rwa [List.length_map]), openedSince, openedSince, List.length_map,
    List.map_take]

theorem openedSince_found {found : Sheet} {cursor : Cursor} {outer : List Cursor} (goes : base < s.cursors.length)
    (before : s.cursors = cursor :: outer)
    (isFound : found = { s with cursors := { cursor with next := cursor.next + 1 } :: outer }) :
    openedSince base s.cursors = cursor :: openedSince base outer ∧
      openedSince base found.cursors = { cursor with next := cursor.next + 1 } :: openedSince base outer ∧
      base ≤ found.cursors.length := by
  rw [before] at goes
  rw [before, isFound]
  exact ⟨openedSince_cons goes, openedSince_cons goes, Nat.le_of_lt goes⟩

/-- A walk does not end before it has come by a node that waits and stays where it is. -/
theorem Walked.exists_visit {container child : NodeId} {visits : List Visit} (walked : Walked base s visits)
    (paired : s.Paired) (allowed : ∀ visit ∈ visits, visit.found.Allows visit.edits)
    (stays : ∀ visit ∈ visits, visit.found.Holds container child visit.edits) {cursor : Cursor}
    (opened : cursor ∈ openedSince base s.cursors) (here : cursor.container = container)
    (waits : child ∈ s.waiting cursor) : ∃ visit ∈ visits, visit.node = child := by
  induction walked generalizing cursor with
  | ended few =>
    rw [openedSince_of_le few] at opened
    cases opened
  | @leave s t innermost visits goes cursors same none onward ih =>
    rw [cursors] at goes opened
    rw [openedSince_cons goes, List.mem_cons] at opened
    rcases opened with rfl | opened
    · rw [none] at waits
      cases waits
    · exact ih (paired.of_nodes_eq same) allowed stays opened here (by rwa [waiting_of_nodes_eq same])
  | @visit s t innermost outer visit later goes cursors found next entered same onward ih =>
    obtain ⟨allowedNow, allowedLater⟩ := List.forall_mem_cons.mp allowed
    obtain ⟨staysNow, staysLater⟩ := List.forall_mem_cons.mp stays
    by_cases isNode : visit.node = child
    · exact ⟨visit, List.mem_cons_self, isNode⟩
    have sameFound : visit.found.nodes = s.nodes := by rw [found]
    have pairedFound := paired.of_nodes_eq sameFound
    obtain ⟨before, atVisit, room⟩ := openedSince_found goes cursors found
    -- The child still waits when the cursor has moved on to the node that is visited.
    obtain ⟨moved, opened', here', waits'⟩ : ∃ moved ∈ openedSince base visit.found.cursors,
        moved.container = container ∧ child ∈ visit.found.waiting moved := by
      rw [before, List.mem_cons] at opened
      rw [atVisit]
      rcases opened with rfl | opened
      · refine ⟨_, List.mem_cons_self, here, ?_⟩
        rw [waiting_of_nodes_eq sameFound]
        rw [waiting_of_next next, List.mem_cons] at waits
        exact waits.resolve_left (Ne.symm isNode)
      · exact ⟨cursor, List.mem_cons_of_mem _ opened, here, by rwa [waiting_of_nodes_eq sameFound]⟩
    have left := pairedFound.waits_edited allowedNow (by rwa [here']) waits'
    obtain ⟨last, among, isChild⟩ := ih ((pairedFound.edited allowedNow).of_nodes_eq same) allowedLater staysLater
      (by rw [openedSince_visited room entered]; exact List.mem_append_right _ (List.mem_map_of_mem opened'))
      ((container_carried _ _ _).trans here') (by rw [waiting_of_nodes_eq same]; exact left)
    exact ⟨last, List.mem_cons_of_mem _ among, isChild⟩

theorem Walked.covers_at {container : NodeId} {before after all : List Visit} {visit : Visit}
    (walked : Walked base s all) (whole : all = before ++ visit :: after) (paired : s.Paired)
    (allowed : ∀ earlier ∈ before, earlier.found.Allows earlier.edits)
    (spared : ∀ earlier ∈ before, earlier.Iterates base container → .removeAll container ∉ earlier.edits)
    (covers : ∀ cursor ∈ openedSince base s.cursors, cursor.container = container → s.Covers cursor) :
    visit.found.Paired ∧
      (∀ cursor ∈ openedSince base visit.found.cursors, cursor.container = container → visit.found.Covers cursor) ∧
      base ≤ visit.found.cursors.length ∧
      ∃ t : Sheet, t.cursors = visit.left.entered visit.node ++ visit.left.cursors ∧
        t.nodes = visit.left.nodes ∧ Walked base t after := by
  induction walked generalizing before with
  | ended few => simp at whole
  | @leave s t innermost visits goes cursors same none onward ih =>
    refine ih whole (paired.of_nodes_eq same) allowed spared fun cursor opened here => ?_
    rw [Covers, children_of_nodes_eq same]
    refine covers cursor ?_ here
    rw [cursors] at goes ⊢
    rw [openedSince_cons goes]
    exact List.mem_cons_of_mem _ opened
  | @visit s t innermost outer first later goes cursors found next entered same onward ih =>
    have sameFound : first.found.nodes = s.nodes := by rw [found]
    have pairedFound := paired.of_nodes_eq sameFound
    obtain ⟨before', atVisit, room⟩ := openedSince_found goes cursors found
    have coversFound : ∀ cursor ∈ openedSince base first.found.cursors, cursor.container = container →
        first.found.Covers cursor := by
      intro cursor opened here
      rw [Covers, children_of_nodes_eq sameFound]
      rw [atVisit, List.mem_cons] at opened
      rcases opened with rfl | opened
      · obtain ⟨inside, -⟩ := List.getElem?_eq_some_iff.mp next
        exact inside
      · exact covers cursor (by rw [before']; exact List.mem_cons_of_mem _ opened) here
    cases before with
    | nil =>
      obtain ⟨rfl, rfl⟩ := List.cons.inj whole
      exact ⟨pairedFound, coversFound, room, t, entered, same, onward⟩
    | cons earlier rest =>
      obtain ⟨rfl, isRest⟩ := List.cons.inj whole
      obtain ⟨allowedNow, allowedLater⟩ := List.forall_mem_cons.mp allowed
      obtain ⟨sparedNow, sparedLater⟩ := List.forall_mem_cons.mp spared
      refine ih isRest ((pairedFound.edited allowedNow).of_nodes_eq same) allowedLater sparedLater ?_
      intro cursor opened here
      rw [Covers, children_of_nodes_eq same]
      rw [openedSince_visited room entered, List.mem_append] at opened
      -- A container that has just been entered is at its first child.
      rcases opened with fresh | opened
      · unfold Sheet.entered at fresh
        split at fresh
        · cases fresh
        · rw [List.mem_singleton.mp fresh]
          exact Nat.zero_le _
      · obtain ⟨old, wasOpen, rfl⟩ := List.mem_map.mp opened
        rw [container_carried] at here
        refine pairedFound.covers_edited allowedNow ?_ (coversFound old wasOpen here)
        rw [here]
        exact sparedNow ⟨old, wasOpen, here⟩

/-- A node that a visit appends to a container whose children are being visited, and that stays there, is visited
later in the walk, unless the container has been emptied at a stroke while it was open. -/
theorem walk_visits_appended {σ : Type} {script : Script σ} {s' : Sheet} (formed : s.WellFormed)
    {memory memory' : σ} {steps : Nat} {before after : List Visit} {visit : Visit}
    (walked : walk script.visitor steps (s, memory, []) = (s', memory', before ++ visit :: after))
    (ended : s'.cursors.length ≤ s.cursors.length)
    (allowed : ∀ each ∈ before ++ visit :: after, each.found.Allows each.edits)
    {container child : NodeId} {front behind : List Edit}
    (appended : visit.edits = front ++ .append container child :: behind)
    (iterated : visit.Iterates s.cursors.length container)
    (stays : (visit.found.edited (front ++ [.append container child])).Holds container child behind)
    (staysLater : ∀ later ∈ after, later.found.Holds container child later.edits)
    (spared : ∀ earlier ∈ before, earlier.Iterates s.cursors.length container →
      .removeAll container ∉ earlier.edits)
    (sparedNow : .removeAll container ∉ front) : ∃ later ∈ after, later.node = child := by
  have entered : (s.enter root).Paired := formed.linked.paired.of_nodes_eq rfl
  obtain ⟨all, isAll, run⟩ := walked_of_walkSteps walked ended
  have atFirst : ∀ cursor ∈ openedSince s.cursors.length (s.enter root).cursors, cursor.container = container →
      (s.enter root).Covers cursor := by
    intro cursor opened _
    have only : openedSince s.cursors.length (s.enter root).cursors = [⟨root, 0⟩] := by
      rw [enter, ← List.singleton_append, openedSince_append _ (Nat.le_refl _), openedSince_of_le (Nat.le_refl _)]
      rfl
    rw [only, List.mem_singleton] at opened
    rw [opened]
    exact Nat.zero_le _
  obtain ⟨paired, covers, room, t, isEntered, same, onward⟩ := run.covers_at isAll.symm entered
    (fun earlier among => allowed earlier (List.mem_append_left _ among)) spared atFirst
  obtain ⟨cursor, opened, here⟩ := iterated
  have allowedNow := allowed visit (List.mem_append_right _ List.mem_cons_self)
  have left := paired.edited allowedNow
  rw [appended] at allowedNow
  have waits := paired.waits_appended here allowedNow sparedNow (covers cursor opened here) stays
  rw [← appended] at waits
  refine onward.exists_visit (left.of_nodes_eq same)
    (fun later among => allowed later (List.mem_append_right _ (List.mem_cons_of_mem _ among))) staysLater
    (?_ : visit.found.carried visit.edits cursor ∈ _) ((container_carried _ _ _).trans here) ?_
  · rw [openedSince_visited room isEntered]
    exact List.mem_append_right _ (List.mem_map_of_mem opened)
  · rw [waiting_of_nodes_eq same]
    exact waits

/-- At the second rule in the first one, its sibling is taken away, a new rule takes a place behind it, and it is
taken away itself. -/
def replacing : Script Unit := fun node _ =>
  (if node = 3 then [.remove 2, .create (.rule ['f'])] ++ .append 1 6 :: [.remove 3] else [], ())

def replaced : Sheet × Unit × List Visit := walk replacing.visitor 20 (fiveRules, (), [])

def replacement : Visit := replaced.2.2.get ⟨2, by decide +kernel⟩

/-- The cursor goes back with each child that leaves, and the new rule is the one that comes next. -/
theorem walk_visits_appended_between_removals :
    ∃ s' before visit after,
      walk replacing.visitor 20 (fiveRules, (), []) = (s', (), before ++ visit :: after) ∧
      s'.cursors.length ≤ 0 ∧
      (∀ each ∈ before ++ visit :: after, each.found.Allows each.edits) ∧
      visit.edits = [.remove 2, .create (.rule ['f'])] ++ .append 1 6 :: [.remove 3] ∧
      visit.Iterates 0 1 ∧
      (visit.found.edited ([.remove 2, .create (.rule ['f'])] ++ [.append 1 6])).Holds 1 6 [.remove 3] ∧
      (∀ later ∈ after, later.found.Holds 1 6 later.edits) ∧
      (∀ earlier ∈ before, earlier.Iterates 0 1 → .removeAll 1 ∉ earlier.edits) ∧
      .removeAll 1 ∉ [Edit.remove 2, .create (.rule ['f'])] ∧
      ∃ later ∈ after, later.node = 6 := by
  have whole : replaced.2.2 = replaced.2.2.take 2 ++ replacement :: replaced.2.2.drop 3 := by
    rw [replacement, List.get_eq_getElem, ← List.drop_eq_getElem_cons, List.take_append_drop]
  have walked : walk replacing.visitor 20 (fiveRules, (), []) =
      (replaced.1, (), replaced.2.2.take 2 ++ replacement :: replaced.2.2.drop 3) := by
    rw [← whole]
    rfl
  have ended : replaced.1.cursors.length ≤ 0 := by decide +kernel
  have allowed : ∀ each ∈ replaced.2.2.take 2 ++ replacement :: replaced.2.2.drop 3,
      each.found.Allows each.edits := by decide +kernel
  have appended : replacement.edits = [.remove 2, .create (.rule ['f'])] ++ .append 1 6 :: [.remove 3] := by
    decide +kernel
  have iterated : replacement.Iterates 0 1 := by decide +kernel
  have stays : (replacement.found.edited ([.remove 2, .create (.rule ['f'])] ++ [.append 1 6])).Holds 1 6
      [.remove 3] := by decide +kernel
  have staysLater : ∀ later ∈ replaced.2.2.drop 3, later.found.Holds 1 6 later.edits := by decide +kernel
  have spared : ∀ earlier ∈ replaced.2.2.take 2, earlier.Iterates 0 1 → .removeAll 1 ∉ earlier.edits := by
    decide +kernel
  have sparedNow : .removeAll 1 ∉ [Edit.remove 2, .create (.rule ['f'])] := by decide
  exact ⟨_, _, _, _, walked, ended, allowed, appended, iterated, stays, staysLater, spared, sparedNow,
    walk_visits_appended wellFormed_fiveRules walked ended allowed appended iterated stays staysLater spared sparedNow⟩

/-- At the first of two rules, the root is emptied and gets a new rule. -/
def emptying : Script Unit := fun node _ =>
  (if node = 1 then [.removeAll root, .create (.rule ['c']), .append root 3] else [], ())

def emptied : Sheet × Unit × List Visit := walk emptying.visitor 20 (Nesting.twoRules "a" "b", (), [])

/-- Emptying the root leaves its cursor behind the first child. The new rule becomes that child and stays there, and
the walk ends without a visit to it. -/
theorem walk_skips_appended_behind_cursor :
    (Nesting.twoRules "a" "b").WellFormed ∧
      ∃ s' visit,
        walk emptying.visitor 20 (Nesting.twoRules "a" "b", (), []) = (s', (), [visit]) ∧
        s'.cursors.length = 0 ∧
        s'.parent 3 = some root ∧
        visit.found.Allows visit.edits ∧
        visit.found.nodes.size = 3 ∧
        visit.edits = [.removeAll root, .create (.rule ['c'])] ++ .append root 3 :: [] ∧
        visit.Iterates 0 root ∧
        visit.node ≠ 3 := by
  have single : emptied.2.2.length = 1 := by decide +kernel
  have facts : ∀ visit ∈ emptied.2.2, visit.found.Allows visit.edits ∧ visit.found.nodes.size = 3 ∧
      visit.edits = [.removeAll root, .create (.rule ['c'])] ++ .append root 3 :: [] ∧
      visit.Iterates 0 root ∧ visit.node ≠ 3 := by decide +kernel
  obtain ⟨visit, only⟩ := List.length_eq_one_iff.mp single
  rw [only] at facts
  refine ⟨⟨linked_ofTree _, by decide, by decide⟩, emptied.1, visit, ?_, by decide +kernel, by decide +kernel,
    facts visit (List.mem_singleton_self visit)⟩
  rw [← only]
  rfl

end walk

end Sheet

end NestLint
