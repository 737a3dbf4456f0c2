import NestLint.Proofs.Nesting.Run
import NestLint.Proofs.Sheet.Alike
import NestLint.Proofs.Sheet.Subtree

/-!
Links fit together whatever is done to a sheet. Nesting a pair looks at links, kinds and selectors
only, so it does the same in alike sheets; and since it keeps spaced sheets well-formed, it keeps every
sheet well-formed. With that, all ways to change a sheet keep it well-formed, and so is every sheet that
can come about.
-/

namespace NestLint

namespace Nesting

open Sheet

theorem applyAncestor_of_selectors {s : Sheet} {outer inner : NodeId} {first second : List Text}
    (isFirst : s.selectors? outer = some first) (isSecond : s.selectors? inner = some second) :
    ∃ renamed planted, renamed = (s.remove outer).setSelectors outer (first.map (nestAncestor second)) ∧
      planted = (renamed.plant (.node
        ((renamed.label outer).nesting ((renamed.selector? outer).getD [])) [])).2 ∧
      applyAncestor s outer inner = ((planted.children outer).foldl
        (fun sheet child => sheet.append renamed.nodes.size child) planted).append inner
          renamed.nodes.size := by
  refine ⟨_, _, rfl, rfl, ?_⟩
  rw [applyAncestor, isFirst, isSecond]
  rfl

section alike

variable {s t : Sheet} (alike : Alike s t)

include alike

theorem ruleSelectors?_of_alike (id : NodeId) : ruleSelectors? s id = ruleSelectors? t id := by
  rw [ruleSelectors?, ruleSelectors?, alike.selectors?]

theorem mediaFirstRule?_of_alike (id : NodeId) : mediaFirstRule? s id = mediaFirstRule? t id := by
  simp only [mediaFirstRule?, firstChild, alike.kind, alike.children]

theorem holds_of_alike (accepts : Text → Bool) (relation : Relation) (rule1 rule2 : NodeId) :
    relation.holds accepts s rule1 rule2 = relation.holds accepts t rule1 rule2 := by
  cases relation with
  | descendant => simp only [Relation.holds, ruleSelectors?_of_alike alike]
  | ancestor => simp only [Relation.holds, ruleSelectors?_of_alike alike]
  | media => simp only [Relation.holds, alike.selector?, mediaFirstRule?_of_alike alike]

theorem matchAt_of_alike (accepts : Text → Bool) (node : NodeId) :
    matchAt accepts s node = matchAt accepts t node := by
  simp only [matchAt, prev?, findMatch, alike.parent, alike.indexOf?, alike.children, alike.kind,
    holds_of_alike alike]

theorem alike_applyDescendant (inner outer : NodeId) :
    Alike (applyDescendant s inner outer) (applyDescendant t inner outer) := by
  unfold applyDescendant
  rw [alike.selectors?, alike.selectors?]
  split
  · exact (alike.setSelectors inner _).append outer inner
  · exact alike

theorem alike_applyAncestor (outer inner : NodeId) :
    Alike (applyAncestor s outer inner) (applyAncestor t outer inner) := by
  cases isFirst : s.selectors? outer with
  | none =>
    have isFirst' := (alike.selectors? outer).symm.trans isFirst
    simp only [applyAncestor, isFirst, isFirst']
    exact alike
  | some first =>
    cases isSecond : s.selectors? inner with
    | none =>
      have isSecond' := (alike.selectors? inner).symm.trans isSecond
      simp only [applyAncestor, isFirst, isSecond, (alike.selectors? outer).symm.trans isFirst, isSecond']
      exact alike
    | some second =>
      obtain ⟨s₁, s₂, isRenamed, isPlanted, applied⟩ := applyAncestor_of_selectors isFirst isSecond
      obtain ⟨t₁, t₂, isRenamed', isPlanted', applied'⟩ := applyAncestor_of_selectors
        ((alike.selectors? outer).symm.trans isFirst) ((alike.selectors? inner).symm.trans isSecond)
      have renamed := (alike.remove outer).setSelectors outer (first.map (nestAncestor second))
      rw [← isRenamed, ← isRenamed'] at renamed
      have labels : ((s₁.label outer).nesting ((s₁.selector? outer).getD [])).bare =
          ((t₁.label outer).nesting ((t₁.selector? outer).getD [])).bare := by
        rw [renamed.selector?]
        exact congrArg (fun l => l.nesting ((t₁.selector? outer).getD [])) (renamed.label outer)
      have planted := renamed.plantLeaf labels
      rw [← isPlanted, ← isPlanted'] at planted
      rw [applied, applied', planted.children, renamed.size]
      exact (planted.foldl (fun child same => same.append _ child) _).append inner _

theorem alike_applyMedia (rule media : NodeId) :
    Alike (applyMedia s rule media) (applyMedia t rule media) := by
  cases opens : mediaFirstRule? s media with
  | none =>
    have opens' := (mediaFirstRule?_of_alike alike media).symm.trans opens
    simp only [applyMedia, opens, opens']
    exact alike
  | some first =>
    have opens' := (mediaFirstRule?_of_alike alike media).symm.trans opens
    obtain ⟨s₁, s₂, isPlanted, isInside, applied⟩ := applyMedia_eq (a := rule) opens
    obtain ⟨t₁, t₂, isPlanted', isInside', applied'⟩ := applyMedia_eq (a := rule) opens'
    have labels : ((s.label media).wrapping (s.label first)).bare =
        ((t.label media).wrapping (t.label first)).bare := by
      have same := congrArg₂ (fun outer inner : Label => (outer.wrapping inner).bare) (alike.label media)
        (alike.label first)
      exact same
    have planted := alike.plantLeaf labels
    rw [← isPlanted, ← isPlanted'] at planted
    have copied := planted.foldl (f := fun sheet child =>
      (sheet.clone child).2.append t.nodes.size (sheet.clone child).1)
      (fun {u v} child same => by
        have numbers : (u.clone child).1 = (v.clone child).1 := same.size
        rw [numbers]
        exact (same.clone child).append _ _) (t₁.children first)
    have inside := (copied.append rule t.nodes.size).remove first
    rw [← isInside', ← planted.children, ← alike.size, ← isInside] at inside
    rw [applied, applied', inside.children]
    split
    · exact inside.remove media
    · exact inside

theorem alike_apply (m : Match) : Alike (m.apply s) (m.apply t) := by
  cases m with
  | mk relation rule1 rule2 =>
    cases relation with
    | descendant => exact alike_applyDescendant alike rule1 rule2
    | ancestor => exact alike_applyAncestor alike rule1 rule2
    | media => exact alike_applyMedia alike rule1 rule2

end alike

variable {accepts : Text → Bool} {s : Sheet}

theorem wellFormed_apply {node : NodeId} {m : Match} (formed : s.WellFormed)
    (found : matchAt accepts s node = some m) : (m.apply s).WellFormed := by
  have alike := alike_tightened s
  rw [matchAt_of_alike alike] at found
  obtain ⟨place, -, nested⟩ := nested_apply formed.spaced_tightened found
  exact (alike_apply alike m).symm.wellFormed nested.spaced.toWellFormed

theorem wellFormed_settle (formed : s.WellFormed) (node : NodeId) (fuel : Nat) :
    (settle accepts node fuel s).WellFormed := by
  induction fuel generalizing s with
  | zero => exact formed
  | succ fuel ih =>
    rw [settle]
    split
    next m found => exact ih (wellFormed_apply formed found)
    next => exact formed

theorem wellFormed_check (formed : s.WellFormed) (session : Session) :
    (check accepts (s, session)).1.WellFormed := by
  apply walkSteps_keeps session (P := WellFormed)
  · intro u v formed same
    exact formed.of_nodes_eq same
  · intro node u memory formed
    rw [visit]
    split
    · exact wellFormed_settle formed node _
    · exact formed
  · exact formed.of_nodes_eq rfl

end Nesting

theorem Rule.wellFormed_check (rule : Rule) {s : Sheet} (formed : s.WellFormed) (session : Session) :
    (rule.check (s, session)).1.WellFormed := by
  rw [Rule.check]
  split
  · exact Nesting.wellFormed_check formed session
  · exact formed

namespace Sheet

theorem wellFormed_empty : empty.WellFormed where
  linked := linked_ofTree (.node { kind := .root } [])
  root_stored := Nat.one_pos
  root_kind := rfl

variable {s : Sheet}

section removeAll

theorem foldl_setParent_none (s : Sheet) (ids : List NodeId) (x : NodeId) :
    (ids.foldl (fun s child => s.setParent child none) s).parent x =
        (if x ∈ ids then none else s.parent x) ∧
      (ids.foldl (fun s child => s.setParent child none) s).children x = s.children x ∧
      (ids.foldl (fun s child => s.setParent child none) s).label x = s.label x ∧
      (ids.foldl (fun s child => s.setParent child none) s).nodes.size = s.nodes.size := by
  induction ids generalizing s with
  | nil => exact ⟨by simp, rfl, rfl, rfl⟩
  | cons id rest ih =>
    obtain ⟨parents, children, labels, size⟩ := ih (s.setParent id none)
    rw [children_setParent] at children
    rw [label_setParent] at labels
    rw [size_setParent] at size
    refine ⟨?_, children, labels, size⟩
    rw [List.foldl_cons, parents]
    have first : (s.setParent id none).parent x = if x = id then none else s.parent x := by
      by_cases stored : id < s.nodes.size
      · exact parent_setParent s id x none stored
      · -- Past the end of the store nothing has a parent.
        rw [Sheet.parent, setParent, node_modify, if_neg fun both => stored both.2]
        split
        next same =>
          cases up : s.parent x with
          | none => exact up
          | some parent => exact absurd (same ▸ stored_of_parent up) stored
        next => rfl
    rw [first]
    by_cases here : x = id <;> simp [here]

variable (id x : NodeId)

theorem parent_removeAll :
    (s.removeAll id).parent x = if x ∈ s.children id then none else s.parent x := by
  rw [removeAll, (foldl_setParent_none _ _ x).1, parent_setChildren]

theorem children_removeAll : (s.removeAll id).children x = if x = id then [] else s.children x := by
  rw [removeAll, (foldl_setParent_none _ _ x).2.1]
  by_cases stored : id < s.nodes.size
  · exact children_setChildren s id x [] stored
  · rw [Sheet.children, setChildren, node_modify, if_neg fun both => stored both.2]
    split
    next same =>
      cases row : s.children x with
      | nil => exact row
      | cons child rest =>
        have listed : child ∈ s.children x := by rw [row]; exact List.mem_cons_self
        exact absurd (same ▸ stored_of_child listed) stored
    next => rfl

theorem Paired.removeAll (paired : s.Paired) (id : NodeId) : (s.removeAll id).Paired where
  parent_iff child parent := by
    rw [parent_removeAll, children_removeAll]
    by_cases here : parent = id
    · subst here
      by_cases listed : child ∈ s.children parent
      · simp [listed]
      · simp [listed, paired.parent_iff]
    · by_cases listed : child ∈ s.children id
      · have elsewhere : child ∉ s.children parent := by
          intro other
          have up := paired.parent_of_mem other
          rw [paired.parent_of_mem listed] at up
          exact here (Option.some.inj up).symm
        simp [here, listed, elsewhere]
      · simp [here, listed, paired.parent_iff]
  nodup parent := by
    rw [children_removeAll]
    split
    · exact List.nodup_nil
    · exact paired.nodup parent

theorem WellFormed.removeAll (formed : s.WellFormed) (id : NodeId) : (s.removeAll id).WellFormed where
  linked := by
    refine ⟨(formed.linked.paired.removeAll id).parent_iff, (formed.linked.paired.removeAll id).nodup, ?_⟩
    · refine Subrelation.wf ?_ formed.linked.ends
      intro parent child up
      rw [parent_removeAll] at up
      split at up
      · cases up
      · exact up
  root_stored := by
    rw [Sheet.removeAll, (foldl_setParent_none _ _ root).2.2.2, size_setChildren]
    exact formed.root_stored
  root_kind := by
    rw [kind_eq, Sheet.removeAll, (foldl_setParent_none _ _ root).2.2.1, label_setChildren]
    exact formed.root_kind

end removeAll

section operations

variable (formed : s.WellFormed)

include formed

theorem WellFormed.append {parent child : NodeId} (storedParent : parent < s.nodes.size)
    (storedChild : child < s.nodes.size) (outside : ¬ s.Under parent child) :
    (s.append parent child).WellFormed := by
  have alike := alike_tightened s
  refine ((alike.append parent child).symm).wellFormed ?_
  have known : (s.tightened.label child).raws.before.isSome := by
    rw [Sheet.label, node_tightened s storedChild]
    rfl
  exact (formed.spaced_tightened.append (alike.size ▸ storedParent) (alike.size ▸ storedChild) known
    fun under => outside ((alike.under parent child).mpr under)).toWellFormed

theorem WellFormed.setSelector (id : NodeId) (selector : Text) :
    (s.setSelector id selector).WellFormed := by
  unfold Sheet.setSelector
  split
  next isRule =>
    apply formed.setKind
    rintro rfl
    rw [formed.root_kind] at isRule
    cases isRule
  next => exact formed

theorem WellFormed.setSelectors (id : NodeId) (selectors : List Text) :
    (s.setSelectors id selectors).WellFormed := by
  unfold Sheet.setSelectors
  split
  · exact formed
  · exact formed.setSelector id _

end operations

/-- The sheets that can come about: an empty one, one that has been read, and every one that an
operation on stored nodes or a fixing run makes of such a sheet. A node may be appended to any node that
is neither itself nor inside it. -/
inductive Reachable : Sheet → Prop
  | empty : Reachable empty
  | parsed {source : String} {s : Sheet} (read : Sheet.parse source = .ok s) : Reachable s
  | create {s : Sheet} (kind : Kind) (before : Reachable s) : Reachable (s.create kind).2
  | append {s : Sheet} {parent child : NodeId} (storedParent : parent < s.nodes.size)
      (storedChild : child < s.nodes.size) (different : parent ≠ child)
      (outside : parent ∉ s.descendants child) (before : Reachable s) :
      Reachable (s.append parent child)
  | remove {s : Sheet} {id : NodeId} (stored : id < s.nodes.size) (before : Reachable s) :
      Reachable (s.remove id)
  | removeAll {s : Sheet} {id : NodeId} (stored : id < s.nodes.size) (before : Reachable s) :
      Reachable (s.removeAll id)
  | clone {s : Sheet} {id : NodeId} (stored : id < s.nodes.size) (before : Reachable s) :
      Reachable (s.clone id).2
  | cloneEmpty {s : Sheet} {id : NodeId} (stored : id < s.nodes.size) (before : Reachable s) :
      Reachable (s.cloneEmpty id).2
  | setSelector {s : Sheet} {id : NodeId} (selector : Text) (stored : id < s.nodes.size)
      (before : Reachable s) : Reachable (s.setSelector id selector)
  | setSelectors {s : Sheet} {id : NodeId} (selectors : List Text) (stored : id < s.nodes.size)
      (before : Reachable s) : Reachable (s.setSelectors id selectors)
  | check {s : Sheet} {session : Session} (rule : Rule) (fixes : session.fix = true)
      (before : Reachable s) : Reachable (rule.check (s, session)).1

theorem Reachable.wellFormed (reachable : s.Reachable) : s.WellFormed := by
  induction reachable with
  | empty => exact wellFormed_empty
  | parsed read => exact (laid_of_parse read).toWellFormed
  | create kind _ formed => exact formed.plant _
  | @append s parent child storedParent storedChild different outside _ formed =>
    apply formed.append storedParent storedChild
    rw [formed.linked.under_iff_mem_descendants]
    exact fun within => within.elim different outside
  | remove _ _ formed => exact formed.remove _
  | removeAll _ _ formed => exact formed.removeAll _
  | clone _ _ formed => exact formed.plant _
  | cloneEmpty _ _ formed => exact formed.plant _
  | setSelector selector _ _ formed => exact formed.setSelector _ selector
  | setSelectors selectors _ _ formed => exact formed.setSelectors _ selectors
  | check rule _ _ formed => exact rule.wellFormed_check formed _

/-- In every sheet that can come about a node names its parent exactly when the parent lists it, no node
is listed twice, every number that is mentioned is stored, and following parents comes to an end. -/
theorem Reachable.links (reachable : s.Reachable) :
    (∀ child parent, s.parent child = some parent ↔ child ∈ s.children parent) ∧
      (∀ parent, (s.children parent).Nodup) ∧
      root < s.nodes.size ∧
      (∀ child parent, s.parent child = some parent → parent < s.nodes.size) ∧
      (∀ parent, ∀ child ∈ s.children parent, child < s.nodes.size) ∧
      WellFounded fun parent child => s.parent child = some parent := by
  have formed := reachable.wellFormed
  refine ⟨formed.linked.parent_iff, formed.linked.nodup, formed.root_stored, fun child parent up => ?_,
    fun parent child listed => formed.linked.stored_of_mem listed, formed.linked.ends⟩
  exact stored_of_child (formed.linked.mem_of_parent up)

/-- Two rules are made and appended, and a run puts the second into the first. -/
theorem Reachable.links_of_two_rules :
    ∃ s : Sheet, s.children root = [1] ∧ s.children 1 = [2] ∧
      (∀ child parent, s.parent child = some parent ↔ child ∈ s.children parent) ∧
      WellFounded fun parent child => s.parent child = some parent := by
  have reachable : (({} : Rule).check (((((Sheet.empty.create (.rule ['a'])).2.append root 1).create
      (.rule "a b".toList)).2.append root 2), { fix := true })).1.Reachable :=
    .check {} rfl (.append (by decide) (by decide) (by decide) (by decide) (.create _
      (.append (by decide) (by decide) (by decide) (by decide) (.create _ .empty))))
  obtain ⟨links, -, -, -, -, ends⟩ := Reachable.links reachable
  exact ⟨_, by decide +kernel, by decide +kernel, links, ends⟩

end Sheet

end NestLint
