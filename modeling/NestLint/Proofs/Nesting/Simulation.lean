import NestLint.Proofs.Nesting.Rewriting
import NestLint.Proofs.Sheet.Beside

/-!
Nesting a pair in the store rewrites the tree. The two nodes stand side by side below one node, the
`place`. Whatever the relation, the stored nodes outside the place are left alone, and the tree at the
place is rewritten as `Rewritten` says; so the tree of the root takes one step, or none when the place
does not hang in the root.
-/

namespace NestLint

namespace Nesting

open Sheet

/-- The tree at the place has been rewritten, and the nodes outside it have been left alone. -/
structure Nested (accepts : Text → Bool) (s s' : Sheet) (place : NodeId) : Prop where
  spaced : s'.Spaced
  size : s.nodes.size ≤ s'.nodes.size
  /-- What hung nowhere hangs nowhere. -/
  top : ∀ x, x < s.nodes.size → s.parent x = none → s'.parent x = none
  same : ∀ x, x < s.nodes.size → ¬ s.Under x place →
    s'.label x = s.label x ∧ s'.children x = s.children x
  /-- What hung in the place hangs somewhere in it, or hangs nowhere and holds nothing. -/
  held : ∀ x, s.parent x = some place → s'.Under x place ∨ s'.parent x = none ∧ s'.children x = []
  rewritten : Rewritten accepts (s.tree place) (s'.tree place)

def SameElsewhere (s s' : Sheet) (place a b : NodeId) : Prop :=
  ∀ x, x < s.nodes.size → x ≠ place → x ≠ a → x ≠ b →
    s'.label x = s.label x ∧ s'.children x = s.children x

section place

variable {accepts : Text → Bool} {s s' : Sheet} {place a b : NodeId} {front behind : List NodeId}

theorem SameElsewhere.symm (same : SameElsewhere s s' place a b) : SameElsewhere s s' place b a :=
  fun x old notPlace notB notA => same x old notPlace notA notB

/-- When only the place and the pair have changed, the tree at the place is rewritten as the trees of
the pair are. -/
theorem nested_of_row (spaced : s.Spaced) (spaced' : s'.Spaced) (beside : s.Beside place a b front behind)
    (size : s.nodes.size ≤ s'.nodes.size)
    (top : ∀ x, x < s.nodes.size → s.parent x = none → s'.parent x = none) (as bs : List NodeId)
    (same : SameElsewhere s s' place a b) (label : s'.label place = s.label place)
    (forward : s.children place = front ++ a :: b :: behind →
      s'.children place = front ++ (as ++ bs) ++ behind)
    (backward : s.children place = front ++ b :: a :: behind →
      s'.children place = front ++ (bs ++ as) ++ behind)
    (held : ∀ x, x = a ∨ x = b → s'.Under x place ∨ s'.parent x = none ∧ s'.children x = [])
    (rewrites : Rewrites accepts (s.tree a) (s.tree b) (as.map s'.tree) (bs.map s'.tree)) :
    Nested accepts s s' place := by
  have linked := spaced.linked
  have upA := beside.up_left linked
  have upB := beside.up_right linked
  refine ⟨spaced', size, top, ?_, fun x up => ?_, ?_⟩
  · intro x stored outside
    apply same x stored
    · rintro rfl
      exact outside (under_refl s x)
    · rintro rfl
      exact outside ((under_refl s place).step upA)
    · rintro rfl
      exact outside ((under_refl s place).step upB)
  · have listed := linked.mem_of_parent up
    by_cases pair : x = a ∨ x = b
    · exact held x pair
    · left
      refine (under_refl s' place).step (spaced'.linked.parent_of_mem ?_)
      rcases beside with row | row
      · rw [row] at listed
        rw [forward row]
        grind
      · rw [row] at listed
        rw [backward row]
        grind
  · have others : ∀ c, c ∈ front ∨ c ∈ behind → s'.tree c = s.tree c := by
      intro c listed
      obtain ⟨upC, notA, notB⟩ := beside.up_other linked listed
      apply linked.tree_congr spaced'.linked
      intro x under
      apply same x (under.stored (stored_of_parent upC))
      · exact linked.ne_of_under_child upC under (under_refl s place)
      · exact linked.ne_of_under_siblings upC upA notA under (under_refl s a)
      · exact linked.ne_of_under_siblings upC upB notB under (under_refl s b)
    have ahead : front.map s'.tree = front.map s.tree :=
      List.map_congr_left fun c listed => others c (Or.inl listed)
    have after : behind.map s'.tree = behind.map s.tree :=
      List.map_congr_left fun c listed => others c (Or.inr listed)
    rw [linked.tree_eq place, spaced'.linked.tree_eq place, label]
    rcases beside with row | row
    · rw [forward row, row]
      simp only [List.map_append, List.map_cons, ahead, after]
      exact .forward _ _ _ rewrites
    · rw [backward row, row]
      simp only [List.map_append, List.map_cons, ahead, after]
      exact .backward _ _ _ rewrites

theorem map_tree_below (spaced : s.Spaced) (spaced' : s'.Spaced) (beside : s.Beside place a b front behind)
    (same : SameElsewhere s s' place a b) :
    (s.children a).map s'.tree = (s.children a).map s.tree := by
  apply spaced.linked.map_tree_children spaced'.linked
  intro c listed x under
  obtain ⟨notPlace, notA, notB⟩ := beside.ne_below spaced.linked listed under
  exact same x (under.stored (spaced.linked.stored_of_mem listed)) notPlace notA notB

end place

theorem selectors?_of_rule {s : Sheet} {id : NodeId} {selector : Text}
    (kind : s.kind id = .rule selector) : s.selectors? id = some (SelectorList.split selector) := by
  simp [Sheet.selectors?, Sheet.selector?, kind, Kind.selector?]

theorem setSelectors_of_rule {s : Sheet} {id : NodeId} {current : Text}
    (kind : s.kind id = .rule current) (selectors : List Text) :
    ∃ separator, Separates separator current ∧
      s.setSelectors id selectors = s.setKind id (.rule (Text.join separator selectors)) := by
  refine ⟨(SelectorList.separator? current).getD (',' :: s.openOf id), ?_, ?_⟩
  · intro present isPresent
    rw [isPresent, Option.getD_some]
  simp [Sheet.setSelectors, Sheet.selector?, Sheet.setSelector, kind, Kind.selector?, Kind.isRule]

section pair

variable {accepts : Text → Bool} {s : Sheet} {place a b : NodeId} {front behind : List NodeId}
  {first second : Text}

theorem ne_root_of_rule (spaced : s.Spaced) {id : NodeId} {selector : Text}
    (kind : s.kind id = .rule selector) : id ≠ root := by
  rintro rfl
  rw [spaced.root_kind] at kind
  cases kind

theorem ne_root_of_atRule (spaced : s.Spaced) {id : NodeId} {name params : Text} {hasBlock : Bool}
    (kind : s.kind id = .atRule name params hasBlock) : id ≠ root := by
  rintro rfl
  rw [spaced.root_kind] at kind
  cases kind

theorem nested_applyDescendant (spaced : s.Spaced) (beside : s.Beside place a b front behind)
    (kindInner : s.kind a = .rule first) (kindOuter : s.kind b = .rule second)
    (shares : Shares accepts suffix? first second) :
    Nested accepts s (applyDescendant s a b) place := by
  have linked := spaced.linked
  have different := beside.ne linked
  have storedA := stored_of_parent (beside.up_left linked)
  have notPlaceA := beside.ne_place linked
  have notPlaceB := beside.symm.ne_place linked
  obtain ⟨separator, separates, renamed⟩ := setSelectors_of_rule kindInner
    ((SelectorList.split first).map (nestDescendant (SelectorList.split second)))
  rw [applyDescendant, selectors?_of_rule kindInner, selectors?_of_rule kindOuter]
  simp only [renamed]
  generalize new : Text.join separator
    ((SelectorList.split first).map (nestDescendant (SelectorList.split second))) = selector
  -- The rule is renamed where it is, and then moved.
  have moved := putInside_append (spaced.setKind (ne_root_of_rule spaced kindInner) (.rule selector))
    (show (s.setKind a (.rule selector)).Beside place a b front behind by
      simpa only [Beside, children_setKind] using beside)
  generalize ((s.setKind a (.rule selector)).append b a) = s' at moved
  have labels : ∀ x, x ≠ b →
      s'.label x = if x = a then { s.label x with kind := .rule selector } else s.label x := by
    intro x other
    rw [moved.label x other, label_setKind s a x _ storedA]
  obtain ⟨before, labelB, passed⟩ := moved.label_outer
  rw [label_setKind s a b _ storedA, if_neg different.symm] at labelB passed
  rw [label_setKind s a a _ storedA, if_pos rfl] at passed
  have same : SameElsewhere s s' place a b := by
    intro x _ notPlace notA notB
    rw [labels x notB, if_neg notA, moved.children x notPlace notB, children_setKind]
    exact ⟨rfl, rfl⟩
  refine nested_of_row spaced moved.spaced beside ?_ (fun x _ free => ?_) [] [b] same ?_ (fun _ => ?_)
    (fun _ => ?_) ?_ ?_
  · rw [moved.size, size_setKind]
  · exact moved.top x (by rw [parent_setKind]; exact free)
  · rw [labels place notPlaceB.symm, if_neg notPlaceA.symm]
  · simpa using moved.row
  · simpa using moved.row
  · have upB : s'.Under b place := (under_refl s' place).step
      (moved.spaced.linked.parent_of_mem (by rw [moved.row]; simp))
    rintro x (rfl | rfl)
    · exact Or.inl (upB.step (moved.spaced.linked.parent_of_mem (by rw [moved.grown]; simp)))
    · exact Or.inl upB
  · have treesA := map_tree_below spaced moved.spaced beside same
    have treesB := map_tree_below spaced moved.spaced beside.symm same.symm
    rw [List.map_nil, List.map_cons, List.map_nil, moved.spaced.linked.tree_eq b, moved.grown,
      children_setKind, List.map_append, treesB, List.map_cons, List.map_nil,
      moved.spaced.linked.tree_eq a, moved.children a notPlaceA different, children_setKind, treesA,
      labels a different, if_pos rfl, labelB, linked.tree_eq a, linked.tree_eq b, ← new]
    exact .descendant separator before kindInner kindOuter shares separates passed

theorem applyAncestor_eq (spaced : s.Spaced) (beside : s.Beside place a b front behind)
    (kindOuter : s.kind a = .rule first) (kindInner : s.kind b = .rule second) :
    ∃ separator selector planted, Separates separator first ∧ selector = Text.join separator
        ((SelectorList.split first).map (nestAncestor (SelectorList.split second))) ∧
      planted = (((s.remove a).setKind a (.rule selector)).plant
        (.node ((s.label a).nesting selector) [])).2 ∧
      applyAncestor s a b =
        ((planted.children a).foldl (fun sheet child => sheet.append s.nodes.size child) planted).append
          b s.nodes.size := by
  have linked := spaced.linked
  have labelA : (s.remove a).label a = s.label a := beside.label_remove linked (beside.ne linked)
  have kindA : (s.remove a).kind a = .rule first := (congrArg Label.kind labelA).trans kindOuter
  obtain ⟨separator, separates, renamed⟩ := setSelectors_of_rule kindA
    ((SelectorList.split first).map (nestAncestor (SelectorList.split second)))
  refine ⟨separator, _, _, separates, rfl, rfl, ?_⟩
  rw [applyAncestor, selectors?_of_rule kindOuter, selectors?_of_rule kindInner]
  simp only [renamed]
  generalize Text.join separator
    ((SelectorList.split first).map (nestAncestor (SelectorList.split second))) = selector
  have labelK : ((s.remove a).setKind a (.rule selector)).label a =
      { s.label a with kind := .rule selector } := by
    rw [label_setKind _ _ _ _ (by
      rw [size_remove]
      exact stored_of_parent (beside.up_left linked)), if_pos rfl, labelA]
  have params : ((s.remove a).setKind a (.rule selector)).selector? a = some selector :=
    congrArg (fun l => l.kind.selector?) labelK
  have layout : ((s.remove a).setKind a (.rule selector)).raws a = (s.label a).raws :=
    congrArg (fun l => l.raws) labelK
  have span : ((s.remove a).setKind a (.rule selector)).source a = (s.label a).source :=
    congrArg (fun l => l.source) labelK
  have top : (((s.remove a).setKind a (.rule selector)).plant
      (.node ((s.label a).nesting selector) [])).1 = s.nodes.size := by
    rw [plant, size_setKind, size_remove]
  simp only [params, layout, span, Option.getD_some]
  rw [← top]
  rfl

theorem nested_applyAncestor (spaced : s.Spaced) (beside : s.Beside place a b front behind)
    (kindOuter : s.kind a = .rule first) (kindInner : s.kind b = .rule second)
    (shares : Shares accepts lead? first second) :
    Nested accepts s (applyAncestor s a b) place := by
  have linked := spaced.linked
  have upA := beside.up_left linked
  obtain ⟨separator, selector, planted, separates, new, isPlanted, applied⟩ :=
    applyAncestor_eq spaced beside kindOuter kindInner
  have inner := ne_root_of_rule spaced kindOuter
  have known : ((s.label a).nesting selector).raws.before.isSome := spaced.before upA
  have cut := cutOut spaced (stored_of_parent upA) inner (.rule selector) known
  rw [← isPlanted] at cut
  have turned := turnedInside spaced beside inner known cut
  rw [applied]
  generalize ((planted.children a).foldl (fun sheet child => sheet.append s.nodes.size child)
    planted).append b s.nodes.size = s' at turned
  have same : SameElsewhere s s' place a b := by
    intro x old notPlace notA notB
    exact ⟨turned.label x old notA notB, turned.children x old notPlace notA notB⟩
  obtain ⟨before, labelB, passed⟩ := turned.label_inner
  refine nested_of_row spaced turned.spaced beside ?_ turned.top [] [b] same ?_ (fun _ => ?_)
    (fun _ => ?_) ?_ ?_
  · rw [turned.size]
    exact Nat.le_succ _
  · exact turned.label place (stored_of_child (linked.mem_of_parent upA)) (beside.ne_place linked).symm
      (beside.symm.ne_place linked).symm
  · simpa using turned.row
  · simpa using turned.row
  · rintro x (rfl | rfl)
    · exact Or.inr turned.emptied
    · exact Or.inl ((under_refl s' place).step
        (turned.spaced.linked.parent_of_mem (by rw [turned.row]; simp)))
  · have treesA := map_tree_below spaced turned.spaced beside same
    have treesB := map_tree_below spaced turned.spaced beside.symm same.symm
    rw [List.map_nil, List.map_cons, List.map_nil, turned.spaced.linked.tree_eq b, turned.grown,
      List.map_append, treesB, List.map_cons, List.map_nil, turned.spaced.linked.tree_eq s.nodes.size,
      turned.handed, treesA, turned.label_new, labelB, linked.tree_eq a, linked.tree_eq b, new]
    exact .ancestor separator before kindOuter kindInner shares separates passed

theorem modifyRaws_plant (s : Sheet) (l : Label) (f : Raws → Raws) :
    (s.plant (.node l [])).2.modifyRaws s.nodes.size f =
      (s.plant (.node { l with raws := f l.raws } [])).2 := by
  have grown : (s.nodes ++ #[({ l with children := [] } : Node)]).modify s.nodes.size
      (fun n => { n with raws := f n.raws }) =
        s.nodes ++ #[({ l with raws := f l.raws, children := [] } : Node)] := by
    apply Array.ext
    · simp
    · intro i inLeft inRight
      rw [Array.getElem_modify]
      by_cases last : s.nodes.size = i
      · subst last
        simp
      · have old : i < s.nodes.size := by
          simp only [Array.size_append, List.size_toArray, List.length_cons, List.length_nil] at inRight
          omega
        rw [if_neg last, Array.getElem_append_left old, Array.getElem_append_left old]
  simp only [modifyRaws, Sheet.modify, plant, Tree.layout, Tree.layoutAll, Tree.rootsFrom]
  rw [grown]

theorem applyMedia_eq {c : NodeId} (opens : mediaFirstRule? s b = some c) :
    ∃ planted inside, planted = (s.plant (.node ((s.label b).wrapping (s.label c)) [])).2 ∧
      inside = (((planted.children c).foldl (fun sheet child =>
        (sheet.clone child).2.append s.nodes.size (sheet.clone child).1) planted).append a
          s.nodes.size).remove c ∧
      applyMedia s a b = if (inside.children b).isEmpty then inside.remove b else inside := by
  refine ⟨_, _, rfl, rfl, ?_⟩
  have laidOut : (s.cloneEmpty b).2.modifyRaws (s.cloneEmpty b).1 (fun r =>
      { r with
        before := (s.raws c).before, after := (s.raws c).after
        semicolon := (s.raws c).semicolon }) =
      (s.plant (.node ((s.label b).wrapping (s.label c)) [])).2 := modifyRaws_plant s (s.label b) _
  rw [applyMedia, opens]
  simp only [laidOut]
  rfl

theorem row_of_mediaFirstRule {c : NodeId} (opens : mediaFirstRule? s b = some c) :
    (∃ params hasBlock, s.kind b = .atRule "media".toList params hasBlock) ∧
      ∃ rest, s.children b = c :: rest := by
  unfold mediaFirstRule? at opens
  split at opens
  next named =>
    refine ⟨?_, ?_⟩
    · cases kind : s.kind b with
      | atRule name params hasBlock =>
        rw [kind, Kind.atName?, Option.some.injEq] at named
        exact ⟨params, hasBlock, by rw [named]⟩
      | root => simp [kind, Kind.atName?] at named
      | rule selector => simp [kind, Kind.atName?] at named
      | decl property value important => simp [kind, Kind.atName?] at named
      | comment text => simp [kind, Kind.atName?] at named
    · obtain ⟨head, isHead, isRule⟩ := Option.bind_eq_some_iff.mp opens
      split at isRule
      · cases isRule
        exact List.head?_eq_some_iff.mp isHead
      · cases isRule
  next => cases opens

theorem nested_applyMedia (spaced : s.Spaced) (beside : s.Beside place a b front behind) {c : NodeId}
    (kindRule : s.kind a = .rule first) (opens : mediaFirstRule? s b = some c)
    (kindFirst : s.kind c = .rule first) : Nested accepts s (applyMedia s a b) place := by
  have linked := spaced.linked
  have upB := beside.up_right linked
  have storedA : a < s.nodes.size := stored_of_parent (beside.up_left linked)
  have storedPlace : place < s.nodes.size := stored_of_child (linked.mem_of_parent upB)
  have notPlaceA := beside.ne_place linked
  have notPlaceB := beside.symm.ne_place linked
  obtain ⟨⟨params, hasBlock, kindMedia⟩, rest, row⟩ := row_of_mediaFirstRule opens
  have upC : s.parent c = some b := linked.parent_of_mem (by rw [row]; exact List.mem_cons_self)
  obtain ⟨planted, inside, isPlanted, isInside, applied⟩ := applyMedia_eq (a := a) opens
  have known : ((s.label b).wrapping (s.label c)).raws.before.isSome := spaced.before upC
  have leaf := spaced.leafPlanted known
  rw [← isPlanted] at leaf
  have done := wrapped spaced storedA (beside.ne linked) upB (ne_root_of_atRule spaced kindMedia) row
    known leaf
  rw [← isInside] at done
  have same : SameElsewhere s inside place a b := by
    intro x old _ notA notB
    exact ⟨done.label x old, done.children x old notA notB⟩
  have rowPlace := done.children place storedPlace notPlaceA.symm notPlaceB.symm
  have treesA := map_tree_below spaced done.spaced beside same
  have treesB : rest.map inside.tree = rest.map s.tree := by
    have all := map_tree_below spaced done.spaced beside.symm same.symm
    rw [row] at all
    exact (List.cons.inj all).2
  have treeB : s.tree b = .node (s.label b)
      (.node (s.label c) ((s.children c).map s.tree) :: rest.map s.tree) := by
    rw [linked.tree_eq b, row, List.map_cons, linked.tree_eq c]
  rw [applied]
  cases rest with
  | cons next others =>
    rw [if_neg (by rw [done.shrunk]; exact Bool.false_ne_true)]
    refine nested_of_row spaced done.spaced beside (Nat.le_of_lt done.size) done.top [a] [b] same
      (done.label place storedPlace) (fun isRow => ?_) (fun isRow => ?_) ?_ ?_
    · simp [rowPlace, isRow]
    · simp [rowPlace, isRow]
    · have kept : ∀ x ∈ s.children place, inside.Under x place := fun x listed =>
        (under_refl inside place).step (done.spaced.linked.parent_of_mem (rowPlace ▸ listed))
      rintro x (rfl | rfl)
      · exact Or.inl (kept x (linked.mem_of_parent (beside.up_left linked)))
      · exact Or.inl (kept x (linked.mem_of_parent upB))
    · rw [List.map_cons, List.map_nil, List.map_cons, List.map_nil, done.spaced.linked.tree_eq a,
        done.spaced.linked.tree_eq b, done.grown, done.shrunk, List.map_append, treesA, List.map_cons,
        List.map_nil, done.tree, treesB, done.label a storedA, done.label b (stored_of_parent upB),
        linked.tree_eq a, treeB]
      exact .media kindRule kindMedia kindFirst (by simp)
  | nil =>
    -- The block is empty now and goes too; only its partner can be touched by that.
    rw [if_pos (by rw [done.shrunk]; rfl)]
    have besideI : inside.Beside place b a front behind := by
      simpa only [Beside, rowPlace] using beside.symm
    have linkedI := done.spaced.linked
    have spaced' := done.spaced.remove b
    have labels : ∀ x, x ≠ a → (inside.remove b).label x = inside.label x :=
      fun x other => besideI.label_remove linkedI other
    have links : ∀ x, x ≠ place → (inside.remove b).children x = inside.children x := by
      intro x other
      rw [linkedI.children_remove, linkedI.erase_children_of_ne (besideI.up_left linkedI) other]
    have rowI : (inside.remove b).children place = front ++ a :: behind := by
      rw [linkedI.children_remove, besideI.erase_left linkedI]
    have treesI := map_tree_below done.spaced spaced' besideI.symm fun x _ notPlace notA _ =>
      ⟨labels x notA, links x notPlace⟩
    obtain ⟨before, labelA, passed⟩ := linkedI.exists_label_remove b a
    rw [done.label a storedA, done.label b (stored_of_parent upB)] at passed
    refine nested_of_row spaced spaced' beside ?_ (fun x old free => ?_) [a] []
      (fun x old notPlace notA notB => ?_) ?_ (fun _ => ?_) (fun _ => ?_) ?_ ?_
    · rw [size_remove]
      exact Nat.le_of_lt done.size
    · rw [linkedI.parent_remove]
      split
      · rfl
      · exact done.top x old free
    · rw [labels x notA, links x notPlace]
      exact same x old notPlace notA notB
    · rw [labels place notPlaceA.symm, done.label place storedPlace]
    · simpa using rowI
    · simpa using rowI
    · rintro x (rfl | rfl)
      · exact Or.inl ((under_refl _ place).step (spaced'.linked.parent_of_mem (by rw [rowI]; simp)))
      · refine Or.inr ⟨?_, by rw [links x notPlaceB, done.shrunk]⟩
        rw [linkedI.parent_remove, if_pos rfl]
    · rw [List.map_cons, List.map_nil, spaced'.linked.tree_eq a, links a notPlaceA, treesI, done.grown,
        List.map_append, treesA, List.map_cons, List.map_nil, done.tree, labelA, done.label a storedA,
        linked.tree_eq a, treeB]
      exact .mediaWhole before kindRule kindMedia kindFirst passed

end pair

theorem rule_of_selector? {s : Sheet} {id : NodeId} {selector : Text}
    (found : s.selector? id = some selector) : s.kind id = .rule selector := by
  cases kind : s.kind id <;> simp_all [Sheet.selector?, Kind.selector?]

theorem rule_of_ruleSelectors {s : Sheet} {id : NodeId} {selectors : List Text}
    (found : ruleSelectors? s id = some selectors) :
    ∃ selector, s.kind id = .rule selector ∧ selectors = SelectorList.split selector ∧
      ∀ piece ∈ SelectorList.split selector, piece ≠ [] := by
  obtain ⟨all, isAll, kept⟩ := Option.bind_eq_some_iff.mp found
  split at kept
  next => cases kept
  next noneEmpty =>
    cases kept
    obtain ⟨selector, own, rfl⟩ := Option.map_eq_some_iff.mp isAll
    refine ⟨selector, rule_of_selector? own, rfl, ?_⟩
    intro piece listed empty
    apply noneEmpty
    rw [List.any_eq_true]
    exact ⟨piece, listed, by rw [empty]; rfl⟩

theorem pair_of_matchAt {accepts : Text → Bool} {s : Sheet} {node : NodeId} {m : Match}
    (found : matchAt accepts s node = some m) :
    ∃ prev, s.prev? node = some prev ∧
      (m.rule1 = node ∧ m.rule2 = prev ∨ m.rule1 = prev ∧ m.rule2 = node) ∧
      m.relation.holds accepts s m.rule1 m.rule2 = true := by
  obtain ⟨prev, isPrev, paired⟩ := Option.bind_eq_some_iff.mp found
  refine ⟨prev, isPrev, ?_⟩
  split at paired
  next =>
    obtain ⟨relation, -, holds⟩ := List.exists_of_findSome?_eq_some paired
    split at holds
    next forward =>
      cases holds
      exact ⟨Or.inl ⟨rfl, rfl⟩, forward⟩
    next =>
      split at holds
      next backward =>
        cases holds
        exact ⟨Or.inr ⟨rfl, rfl⟩, backward⟩
      next => cases holds
  next => cases paired

theorem beside_of_matchAt {accepts : Text → Bool} {s : Sheet} {node : NodeId} {m : Match}
    (found : matchAt accepts s node = some m) :
    ∃ place front behind, s.parent node = some place ∧ s.Beside place m.rule1 m.rule2 front behind ∧
      m.relation.holds accepts s m.rule1 m.rule2 = true := by
  obtain ⟨prev, isPrev, pair, holds⟩ := pair_of_matchAt found
  obtain ⟨place, front, behind, up, row⟩ := row_of_prev? isPrev
  refine ⟨place, front, behind, up, ?_, holds⟩
  rcases pair with ⟨first, second⟩ | ⟨first, second⟩
  · rw [first, second]
    exact Or.inr row
  · rw [first, second]
    exact Or.inl row

/-- Applying a match rewrites the tree at the parent of the node that was compared. -/
theorem nested_apply {accepts : Text → Bool} {s : Sheet} {node : NodeId} {m : Match} (spaced : s.Spaced)
    (found : matchAt accepts s node = some m) :
    ∃ place, s.parent node = some place ∧ Nested accepts s (m.apply s) place := by
  obtain ⟨place, front, behind, up, beside, holds⟩ := beside_of_matchAt found
  refine ⟨place, up, ?_⟩
  obtain ⟨relation, rule1, rule2⟩ := m
  simp only [Match.apply] at beside holds ⊢
  cases relation with
  | descendant =>
    simp only [Relation.holds] at holds
    split at holds
    next first second isFirst isSecond =>
      obtain ⟨selector1, kind1, rfl, full1⟩ := rule_of_ruleSelectors isFirst
      obtain ⟨selector2, kind2, rfl, full2⟩ := rule_of_ruleSelectors isSecond
      exact nested_applyDescendant spaced beside kind1 kind2 ⟨full1, full2, holds⟩
    next => cases holds
  | ancestor =>
    simp only [Relation.holds] at holds
    split at holds
    next first second isFirst isSecond =>
      obtain ⟨selector1, kind1, rfl, full1⟩ := rule_of_ruleSelectors isFirst
      obtain ⟨selector2, kind2, rfl, full2⟩ := rule_of_ruleSelectors isSecond
      exact nested_applyAncestor spaced beside kind1 kind2 ⟨full1, full2, holds⟩
    next => cases holds
  | media =>
    simp only [Relation.holds] at holds
    split at holds
    next selector first isSelector opens =>
      rw [Bool.and_eq_true, Bool.and_eq_true, beq_iff_eq] at holds
      exact nested_applyMedia spaced beside (rule_of_selector? isSelector) opens
        (rule_of_selector? holds.1.2)
    next => cases holds

namespace Nested

variable {accepts : Text → Bool} {s s' : Sheet} {place : NodeId}

theorem step (nested : Nested accepts s s' place) (spaced : s.Spaced) (under : s.Under place root) :
    Step accepts (s.tree root) (s'.tree root) :=
  spaced.linked.inside_of_under nested.spaced.linked nested.rewritten nested.same under

theorem step_or_same (nested : Nested accepts s s' place) (laid : s.Laid) :
    s'.tree root = s.tree root ∨ Step accepts (s.tree root) (s'.tree root) := by
  by_cases under : s.Under place root
  · exact Or.inr (nested.step laid.toSpaced under)
  · exact Or.inl (laid.linked.tree_of_not_under nested.spaced.linked laid.root_stored laid.root_top
      nested.same under)

theorem laid (nested : Nested accepts s s' place) (laid : s.Laid) : s'.Laid :=
  ⟨nested.spaced, nested.top root laid.root_stored laid.root_top⟩

end Nested

end Nesting

end NestLint
