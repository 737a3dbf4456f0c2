import NestLint.Proofs.Nesting.Simulation

/-!
What nesting a pair changes, node by node. Parents follow from rows, so most of it is read off the rows that
the moves list; only where copies come in, whose rows are not listed, the parents are followed through the
moves. The only layout that changes is what stands before the node that stays, when the other one was first
in the text. Every node that is not part of the move is the same node as before.
-/

namespace NestLint

namespace Sheet

variable {s s' : Sheet} {x : NodeId}

theorem node_eq {n : Node} (label : s.label x = n.toLabel) (parent : s.parent x = n.parent)
    (children : s.children x = n.children) : s.node x = n := by
  change (s.node x).toLabel = n.toLabel at label
  change (s.node x).parent = n.parent at parent
  change (s.node x).children = n.children at children
  cases here : s.node x
  cases n
  simp_all

theorem Paired.parent_congr (paired : s.Paired) (paired' : s'.Paired)
    (same : ∀ place, x ∈ s'.children place ↔ x ∈ s.children place) : s'.parent x = s.parent x := by
  apply Option.ext
  intro place
  rw [paired.parent_iff, paired'.parent_iff, same]

theorem TurnedInside.mem_children_iff {place a b : NodeId} {front behind : List NodeId} {new : Label}
    (turned : TurnedInside s s' place a b front behind new) (linked : s.Linked)
    (beside : s.Beside place a b front behind) (old : x < s.nodes.size) (notA : x ≠ a)
    (notHeld : x ∉ s.children a) (p : NodeId) : x ∈ s'.children p ↔ x ∈ s.children p := by
  have notNew : x ≠ s.nodes.size := Nat.ne_of_lt old
  by_cases isPlace : p = place
  · rw [isPlace, turned.row, ← beside.erase_left linked, List.mem_erase_of_ne notA]
  by_cases isA : p = a
  · rw [isA, turned.emptied.2]
    exact ⟨fun listed => absurd listed List.not_mem_nil, fun listed => absurd listed notHeld⟩
  by_cases isB : p = b
  · rw [isB, turned.grown, List.mem_append, List.mem_singleton, or_iff_left notNew]
  by_cases isOld : p < s.nodes.size
  · rw [turned.children p isOld isPlace isA isB]
  -- All other rows are empty in the old sheet, and in the new one the row of the new node is known.
  rw [children_of_not_stored (s := s) (Nat.not_lt.mp isOld)]
  by_cases isNew : p = s.nodes.size
  · rw [isNew, turned.handed]
    exact ⟨fun listed => absurd listed notHeld, fun listed => absurd listed List.not_mem_nil⟩
  · rw [children_of_not_stored]
    rw [turned.size]
    exact Nat.lt_of_le_of_ne (Nat.not_lt.mp isOld) (Ne.symm isNew)

end Sheet

namespace Nesting

open Sheet

/-- `a` has gone to the end of its neighbour `b` under another selector. -/
structure MovedInside (s s' : Sheet) (place a b : NodeId) : Prop where
  around : s'.node place = { s.node place with children := (s.children place).erase a }
  moved : ∃ selector, s'.node a = { s.node a with kind := .rule selector, parent := some b }
  grown : ∃ before, (before = (s.raws b).before ∨ before = (s.raws a).before) ∧ s'.node b =
    { s.node b with raws := { s.raws b with before := before }, children := s.children b ++ [a] }
  others : ∀ x, x ≠ place → x ≠ a → x ≠ b → s'.node x = s.node x

/-- `a` has been taken away, and a new nesting at-rule at the end of its neighbour `b` holds what it held. -/
structure TurnedIntoNest (s s' : Sheet) (place a b : NodeId) : Prop where
  around : s'.node place = { s.node place with children := (s.children place).erase a }
  gone : s'.parent a = none ∧ s'.children a = []
  grown : ∃ before, (before = (s.raws b).before ∨ before = (s.raws a).before) ∧ s'.node b =
    { s.node b with raws := { s.raws b with before := before }, children := s.children b ++ [s.nodes.size] }
  nest : ∃ params, s'.node s.nodes.size =
    { kind := .atRule "nest".toList params true
      raws := { s.raws a with afterName := some [' '] }
      source := s.source a
      parent := some b
      children := s.children a }
  handed : ∀ child ∈ s.children a, s'.node child = { s.node child with parent := some s.nodes.size }
  others : ∀ x < s.nodes.size, x ≠ place → x ≠ a → x ≠ b → x ∉ s.children a → s'.node x = s.node x

/-- `first` has been taken out of the media block `b`, and a new copy of the block at the end of its neighbour
`a` holds copies of what it held. A block that held nothing else has been taken away. -/
structure CopiedInside (s s' : Sheet) (place a b first : NodeId) (rest : List NodeId) : Prop where
  around : s'.node place =
    { s.node place with children := if rest = [] then (s.children place).erase b else s.children place }
  grown : ∃ before, (before = (s.raws a).before ∨ before = (s.raws b).before) ∧ s'.node a =
    { s.node a with raws := { s.raws a with before := before }, children := s.children a ++ [s.nodes.size] }
  copy : s'.label s.nodes.size = (s.label b).wrapping (s.label first)
  copies : (s'.children s.nodes.size).map s'.tree = (s.children first).map s.tree
  fresh : ∀ x, s'.Under x s.nodes.size → s.nodes.size ≤ x
  shrunk : s'.node b = { s.node b with parent := if rest = [] then none else some place, children := rest }
  detached : s'.node first = { s.node first with parent := none }
  others : ∀ x < s.nodes.size, x ≠ place → x ≠ a → x ≠ b → x ≠ first → s'.node x = s.node x

section pair

variable {s : Sheet} {place a b : NodeId} {front behind : List NodeId} {first second : Text}

theorem movedInside_applyDescendant (spaced : s.Spaced) (beside : s.Beside place a b front behind)
    (kindInner : s.kind a = .rule first) (kindOuter : s.kind b = .rule second) :
    MovedInside s (applyDescendant s a b) place a b := by
  have linked := spaced.linked
  have different := beside.ne linked
  have notPlaceA := beside.ne_place linked
  have notPlaceB := beside.symm.ne_place linked
  have storedA := stored_of_parent (beside.up_left linked)
  obtain ⟨separator, -, renamed⟩ := setSelectors_of_rule kindInner
    ((SelectorList.split first).map (nestDescendant (SelectorList.split second)))
  rw [applyDescendant, selectors?_of_rule kindInner, selectors?_of_rule kindOuter]
  simp only [renamed]
  generalize Text.join separator
    ((SelectorList.split first).map (nestDescendant (SelectorList.split second))) = selector
  have spacedR := spaced.setKind (ne_root_of_rule spaced kindInner) (.rule selector)
  have moved := putInside_append spacedR
    (show (s.setKind a (.rule selector)).Beside place a b front behind by
      simpa only [Beside, children_setKind] using beside)
  have parents : ∀ x, ((s.setKind a (.rule selector)).append b a).parent x =
      if x = a then some b else s.parent x := by
    intro x
    rw [spacedR.linked.parent_append x (by rw [size_setKind]; exact storedA), parent_setKind]
  generalize (s.setKind a (.rule selector)).append b a = s' at moved parents
  have labels : ∀ x, x ≠ b →
      s'.label x = if x = a then { s.label x with kind := .rule selector } else s.label x := by
    intro x other
    rw [moved.label x other, label_setKind s a x _ storedA]
  refine ⟨node_eq ?_ ?_ ?_, ⟨selector, node_eq ?_ ?_ ?_⟩, ?_, fun x notPlace notA notB => node_eq ?_ ?_ ?_⟩
  · rw [labels place notPlaceB.symm, if_neg notPlaceA.symm]
    rfl
  · rw [parents, if_neg notPlaceA.symm]
    rfl
  · rw [moved.row, beside.erase_left linked]
  · rw [labels a different, if_pos rfl]
    rfl
  · rw [parents, if_pos rfl]
  · rw [moved.children a notPlaceA different, children_setKind]
    rfl
  · obtain ⟨before, labelB, passed⟩ := moved.label_outer
    rw [label_setKind s a b _ storedA, if_neg different.symm] at labelB passed
    rw [label_setKind s a a _ storedA, if_pos rfl] at passed
    refine ⟨before, passed, node_eq labelB ?_ ?_⟩
    · rw [parents, if_neg different.symm]
      rfl
    · rw [moved.grown, children_setKind]
  · rw [labels x notB, if_neg notA]
    rfl
  · rw [parents, if_neg notA]
    rfl
  · rw [moved.children x notPlace notB, children_setKind]
    rfl

theorem turnedIntoNest_applyAncestor (spaced : s.Spaced) (beside : s.Beside place a b front behind)
    (kindOuter : s.kind a = .rule first) (kindInner : s.kind b = .rule second) :
    TurnedIntoNest s (applyAncestor s a b) place a b := by
  have linked := spaced.linked
  have upA := beside.up_left linked
  have storedA := stored_of_parent upA
  have storedB := stored_of_parent (beside.up_right linked)
  have storedPlace := stored_of_child (linked.mem_of_parent upA)
  have notPlaceA := beside.ne_place linked
  have notPlaceB := beside.symm.ne_place linked
  obtain ⟨separator, selector, planted, -, -, isPlanted, applied⟩ :=
    applyAncestor_eq spaced beside kindOuter kindInner
  have inner := ne_root_of_rule spaced kindOuter
  have known : ((s.label a).nesting selector).raws.before.isSome := spaced.before upA
  have cut := cutOut spaced storedA inner (.rule selector) known
  rw [← isPlanted] at cut
  have turned := turnedInside spaced beside inner known cut
  rw [← applied] at turned
  generalize applyAncestor s a b = s' at turned
  have linked' := turned.spaced.linked
  have parents : ∀ x, x < s.nodes.size → x ≠ a → x ∉ s.children a → s'.parent x = s.parent x :=
    fun x old notA notHeld =>
      linked.paired.parent_congr linked'.paired (turned.mem_children_iff linked beside old notA notHeld)
  have below : ∀ {c}, c ∈ s.children a → c ≠ place ∧ c ≠ a ∧ c ≠ b :=
    fun listed => beside.ne_below linked listed (under_refl s _)
  refine ⟨node_eq ?_ ?_ ?_, turned.emptied, ?_, ⟨selector, node_eq turned.label_new ?_ turned.handed⟩,
    fun c listed => node_eq ?_ ?_ ?_, fun x old notPlace notA notB notHeld => node_eq ?_ ?_ ?_⟩
  · exact turned.label place storedPlace notPlaceA.symm notPlaceB.symm
  · exact parents place storedPlace notPlaceA.symm fun listed => (below listed).1 rfl
  · rw [turned.row, beside.erase_left linked]
  · obtain ⟨before, labelB, passed⟩ := turned.label_inner
    refine ⟨before, passed, node_eq labelB ?_ turned.grown⟩
    exact parents b storedB (beside.ne linked).symm fun listed => (below listed).2.2 rfl
  · exact linked'.parent_of_mem (by rw [turned.grown]; simp)
  · exact turned.label c (linked.stored_of_mem listed) (below listed).2.1 (below listed).2.2
  · exact linked'.parent_of_mem (by rw [turned.handed]; exact listed)
  · exact turned.children c (linked.stored_of_mem listed) (below listed).1 (below listed).2.1 (below listed).2.2
  · exact turned.label x old notA notB
  · exact parents x old notA notHeld
  · exact turned.children x old notPlace notA notB

theorem parent_wrapped (spaced : s.Spaced) {c x : NodeId} {new : Label} {planted : Sheet}
    (leaf : LeafPlanted s planted new) (storedA : a < s.nodes.size) (storedC : c < s.nodes.size)
    (old : x < s.nodes.size) :
    ((((planted.children c).foldl (fun sheet child =>
      (sheet.clone child).2.append s.nodes.size (sheet.clone child).1) planted).append a
        s.nodes.size).remove c).parent x = if x = c then none else s.parent x := by
  have linked := spaced.linked
  have room : s.nodes.size < planted.nodes.size := leaf.size ▸ Nat.lt_succ_self _
  rw [leaf.children c storedC]
  have filled := leaf.spaced.graftRow (s.children c) room
    (fun child listed => by
      rw [leaf.parent child (linked.stored_of_mem listed), linked.parent_of_mem listed]
      rfl)
    (fun child listed under => Nat.lt_irrefl s.nodes.size (by
      conv_lhs => rw [under_of_parent_eq_none leaf.free under]
      exact linked.stored_of_mem listed))
  have roomFilled := Nat.lt_of_lt_of_le room filled.size
  have attached := filled.spaced.linked.paired.append (Nat.lt_trans storedA roomFilled) roomFilled
  rw [attached.parent_remove, filled.spaced.linked.parent_append x roomFilled, if_neg (Nat.ne_of_lt old),
    filled.parent x (Nat.lt_trans old room), leaf.parent x old]

theorem exists_wrapped (spaced : s.Spaced) (beside : s.Beside place a b front behind) {c : NodeId}
    {rest : List NodeId} (opens : mediaFirstRule? s b = some c) (row : s.children b = c :: rest) :
    ∃ inside, applyMedia s a b = (if (inside.children b).isEmpty then inside.remove b else inside) ∧
      Wrapped s inside a b c rest ((s.label b).wrapping (s.label c)) ∧
      ∀ x < s.nodes.size, inside.parent x = if x = c then none else s.parent x := by
  have linked := spaced.linked
  have upB := beside.up_right linked
  have upC : s.parent c = some b := linked.parent_of_mem (by rw [row]; exact List.mem_cons_self)
  have storedA := stored_of_parent (beside.up_left linked)
  have storedC := stored_of_parent upC
  obtain ⟨⟨params, hasBlock, kindMedia⟩, -⟩ := row_of_mediaFirstRule opens
  obtain ⟨planted, inside, isPlanted, isInside, applied⟩ := applyMedia_eq (a := a) opens
  have known : ((s.label b).wrapping (s.label c)).raws.before.isSome := spaced.before upC
  have leaf := spaced.leafPlanted known
  rw [← isPlanted] at leaf
  have done :=
    wrapped spaced storedA (beside.ne linked) upB (ne_root_of_atRule spaced kindMedia) row known leaf
  rw [← isInside] at done
  refine ⟨inside, applied, done, fun x old => ?_⟩
  rw [isInside, parent_wrapped spaced leaf storedA storedC old]

theorem new_of_under {s' : Sheet} (linked : s.Linked)
    (parents : ∀ x < s.nodes.size, ∀ p, s'.parent x = some p → s.parent x = some p) {x new : NodeId}
    (fresh : s.nodes.size ≤ new) (under : s'.Under x new) : s.nodes.size ≤ x := by
  induction under using Relation.ReflTransGen.head_induction_on with
  | refl => exact fresh
  | @head child parent up _ ih =>
    by_contra old
    have before := parents child (Nat.not_le.mp old) parent up
    exact Nat.not_lt.mpr ih (stored_of_child (linked.mem_of_parent before))

/-- A node that held nothing has been taken away, and one that held something has stayed. -/
structure SweptOut (s s' : Sheet) (a b : NodeId) : Prop where
  linked : s'.Linked
  label : ∀ x, x ≠ a → s'.label x = s.label x
  label_beside : ∃ before, s'.label a = (s.label a).setBefore before ∧
    (before = (s.label a).raws.before ∨ before = (s.label b).raws.before)
  parent : ∀ x, s'.parent x = if s.children b = [] ∧ x = b then none else s.parent x
  children : ∀ x, s'.children x = if s.children b = [] then (s.children x).erase b else s.children x

theorem sweptOut (linked : s.Linked) (beside : s.Beside place a b front behind) :
    SweptOut s (if (s.children b).isEmpty then s.remove b else s) a b := by
  by_cases empty : s.children b = []
  · rw [if_pos (by rw [empty]; rfl)]
    refine ⟨linked.remove b, fun x other => beside.symm.label_remove linked other,
      linked.exists_label_remove b a, fun x => ?_, fun x => ?_⟩
    · simp only [linked.parent_remove, empty, true_and]
    · rw [linked.children_remove, if_pos empty]
  · rw [if_neg (by rwa [List.isEmpty_iff])]
    refine ⟨linked, fun _ _ => rfl, ⟨_, rfl, Or.inl rfl⟩, fun x => ?_, fun x => ?_⟩
    · rw [if_neg fun both => empty both.1]
    · rw [if_neg empty]

theorem SweptOut.children_of_ne {s' : Sheet} (out : SweptOut s s' a b) (linked : s.Linked)
    (beside : s.Beside place a b front behind) {x : NodeId} (other : x ≠ place) :
    s'.children x = s.children x := by
  rw [out.children, linked.erase_children_of_ne (beside.up_right linked) other, ite_self]

theorem SweptOut.tree_eq {s' : Sheet} (out : SweptOut s s' a b) (linked : s.Linked)
    (beside : s.Beside place a b front behind) {top : NodeId}
    (apart : ∀ x, s'.Under x top → x ≠ a ∧ x ≠ place) : s.tree top = s'.tree top := by
  apply out.linked.tree_congr linked
  intro x under
  obtain ⟨notA, notPlace⟩ := apart x under
  exact ⟨(out.label x notA).symm, (out.children_of_ne linked beside notPlace).symm⟩

theorem copiedInside_applyMedia (spaced : s.Spaced) (beside : s.Beside place a b front behind) {c : NodeId}
    {rest : List NodeId} (opens : mediaFirstRule? s b = some c) (row : s.children b = c :: rest) :
    CopiedInside s (applyMedia s a b) place a b c rest := by
  have linked := spaced.linked
  have different := beside.ne linked
  have upA := beside.up_left linked
  have upB := beside.up_right linked
  have storedA := stored_of_parent upA
  have storedB := stored_of_parent upB
  have storedPlace := stored_of_child (linked.mem_of_parent upB)
  have notPlaceA := beside.ne_place linked
  have notPlaceB := beside.symm.ne_place linked
  have isChild : c ∈ s.children b := by rw [row]; exact List.mem_cons_self
  have storedC := stored_of_parent (linked.parent_of_mem isChild)
  obtain ⟨notPlaceC, notB, notA⟩ := beside.symm.ne_below linked isChild (under_refl s c)
  obtain ⟨inside, applied, done, parents⟩ := exists_wrapped spaced beside opens row
  have rowPlace := done.children place storedPlace notPlaceA.symm notPlaceB.symm
  have linkedI := done.spaced.linked
  have besideI : inside.Beside place b a front behind := by
    simpa only [Beside, rowPlace] using beside.symm
  -- At last the block is taken away if it is empty now; that touches its row and its partner only.
  have last := sweptOut linkedI besideI.symm
  rw [← applied] at last
  generalize applyMedia s a b = s' at last
  have linked' := last.linked
  have rows : ∀ x, x ≠ place → s'.children x = inside.children x :=
    fun x => last.children_of_ne linkedI besideI.symm
  have labels : ∀ x < s.nodes.size, x ≠ a → s'.label x = s.label x := by
    intro x old other
    rw [last.label x other, done.label x old]
  have parents' : ∀ x < s.nodes.size, x ≠ b → x ≠ c → s'.parent x = s.parent x := by
    intro x old isNotB isNotC
    rw [last.parent, if_neg fun both => isNotB both.2, parents x old, if_neg isNotC]
  have fresh : ∀ x, s'.Under x s.nodes.size → s.nodes.size ≤ x := fun x under =>
    new_of_under linked (fun y old p up => by
      rw [last.parent, parents y old] at up
      split at up
      · cases up
      · split at up
        · cases up
        · exact up) (Nat.le_refl _) under
  have treeNew : inside.tree s.nodes.size = s'.tree s.nodes.size := by
    apply last.tree_eq linkedI besideI.symm
    intro x under
    have new := Nat.not_lt.mpr (fresh x under)
    exact ⟨fun isA => new (isA ▸ storedA), fun isPlace => new (isPlace ▸ storedPlace)⟩
  rw [done.tree, linked'.tree_eq, Tree.node.injEq] at treeNew
  refine ⟨node_eq ?_ ?_ ?_, ?_, treeNew.1.symm, treeNew.2.symm, fresh, node_eq ?_ ?_ ?_, node_eq ?_ ?_ ?_,
    fun x old notPlace isNotA isNotB isNotC => node_eq ?_ ?_ ?_⟩
  · exact labels place storedPlace notPlaceA.symm
  · exact parents' place storedPlace notPlaceB.symm notPlaceC.symm
  · rw [last.children, done.shrunk, rowPlace]
  · obtain ⟨before, labelA, passed⟩ := last.label_beside
    rw [done.label a storedA] at labelA passed
    rw [done.label b storedB] at passed
    refine ⟨before, passed, node_eq labelA ?_ ?_⟩
    · exact parents' a storedA different notA.symm
    · rw [rows a notPlaceA, done.grown]
  · exact labels b storedB different.symm
  · rw [last.parent, done.shrunk, parents b storedB, if_neg notB.symm, upB]
    simp
  · rw [rows b notPlaceB, done.shrunk]
  · exact labels c storedC notA
  · rw [last.parent, if_neg fun both => notB both.2, parents c storedC, if_pos rfl]
  · rw [rows c notPlaceC]
    exact done.children c storedC notA notB
  · exact labels x old isNotA
  · exact parents' x old isNotB isNotC
  · rw [rows x notPlace]
    exact done.children x old isNotA isNotB

end pair

/-- What nesting a pair may change: the pair, the row that it stands in, and what goes from one to the other. -/
def Relation.Changes (s s' : Sheet) (place rule1 rule2 : NodeId) : Relation → Prop
  | .descendant => MovedInside s s' place rule1 rule2
  | .ancestor => TurnedIntoNest s s' place rule1 rule2
  | .media => ∃ first rest, s.children rule2 = first :: rest ∧ CopiedInside s s' place rule1 rule2 first rest

/-- Nesting a pair of neighbours, in whichever order they stand, changes only what it must, provided that all
nodes that hang somewhere know what stands before them. -/
theorem Relation.changes_apply (relation : Relation) {accepts : Text → Bool} {s : Sheet}
    {place rule1 rule2 : NodeId} {front behind : List NodeId} (spaced : s.Spaced)
    (beside : s.Beside place rule1 rule2 front behind) (holds : relation.holds accepts s rule1 rule2 = true) :
    relation.Changes s (relation.apply s rule1 rule2) place rule1 rule2 := by
  cases relation with
  | descendant =>
    simp only [Relation.holds] at holds
    split at holds
    next isFirst isSecond =>
      obtain ⟨_, kind, -⟩ := rule_of_ruleSelectors isFirst
      obtain ⟨_, kind', -⟩ := rule_of_ruleSelectors isSecond
      exact movedInside_applyDescendant spaced beside kind kind'
    next => cases holds
  | ancestor =>
    simp only [Relation.holds] at holds
    split at holds
    next isFirst isSecond =>
      obtain ⟨_, kind, -⟩ := rule_of_ruleSelectors isFirst
      obtain ⟨_, kind', -⟩ := rule_of_ruleSelectors isSecond
      exact turnedIntoNest_applyAncestor spaced beside kind kind'
    next => cases holds
  | media =>
    simp only [Relation.holds] at holds
    split at holds
    next selector first _ opens =>
      obtain ⟨-, rest, row⟩ := row_of_mediaFirstRule opens
      exact ⟨first, rest, row, copiedInside_applyMedia spaced beside opens row⟩
    next => cases holds

/-- All three relations in one row, the second the other way round; the first rule of the sheet moves, and the
media block holds one rule only. -/
theorem Relation.changes_apply_all_relations :
    ∃ s, Sheet.parse "a b\x7b\x7da\x7b\x7dx\x7b\x7dy x\x7bp:1\x7d@media m\x7bz\x7bq:2\x7d\x7dz\x7b\x7d" = .ok s ∧
      MovedInside s (Relation.descendant.apply s 1 2) root 1 2 ∧
      TurnedIntoNest s (Relation.ancestor.apply s 4 3) root 4 3 ∧
      ∃ first rest, s.children 6 = first :: rest ∧
        CopiedInside s (Relation.media.apply s 9 6) root 9 6 first rest := by
  have known : ((Sheet.parse "a b\x7b\x7da\x7b\x7dx\x7b\x7dy x\x7bp:1\x7d@media m\x7bz\x7bq:2\x7d\x7dz\x7b\x7d").toOption.any
      fun s => s.children root == [1, 2, 3, 4, 6, 9] && Relation.descendant.holds (fun _ => true) s 1 2 &&
        Relation.ancestor.holds (fun _ => true) s 4 3 && Relation.media.holds (fun _ => true) s 9 6) = true := by
    decide +kernel
  obtain ⟨s, parsed⟩ := Sheet.exists_sheet_of_accepted
    "a b\x7b\x7da\x7b\x7dx\x7b\x7dy x\x7bp:1\x7d@media m\x7bz\x7bq:2\x7d\x7dz\x7b\x7d" (by decide +kernel)
  rw [parsed] at known
  simp only [Except.toOption, Option.any_some, Bool.and_eq_true, beq_iff_eq] at known
  obtain ⟨⟨⟨row, descendant⟩, ancestor⟩, media⟩ := known
  have spaced := (Sheet.laid_of_parse parsed).toSpaced
  have first : s.Beside root 1 2 [] [3, 4, 6, 9] := Or.inl row
  have second : s.Beside root 4 3 [1, 2] [6, 9] := Or.inr row
  have third : s.Beside root 9 6 [1, 2, 3, 4] [] := Or.inr row
  exact ⟨s, parsed, Relation.descendant.changes_apply spaced first descendant,
    Relation.ancestor.changes_apply spaced second ancestor, Relation.media.changes_apply spaced third media⟩

end Nesting

end NestLint
