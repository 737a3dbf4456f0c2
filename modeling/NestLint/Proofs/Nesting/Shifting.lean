import NestLint.Proofs.Nesting.Parting
import NestLint.Proofs.Sheet.Pending

/-!
Nesting a pair in the middle of a walk. Of two neighbours without commas in their selectors one goes into
the other: either as it is, under a selector that begins with an ampersand, or as a nesting at-rule that
takes over what it held. `Shifted` lists what the sheet is like afterwards, what is pending included.
-/

namespace NestLint

namespace Sheet

theorem Linked.row_unique {s : Sheet} (linked : s.Linked) {place place' node : NodeId}
    {front front' behind behind' : List NodeId} (row : s.children place = front ++ node :: behind)
    (row' : s.children place' = front' ++ node :: behind') :
    place' = place ∧ front' = front ∧ behind' = behind := by
  have up := linked.parent_of_mem (show node ∈ s.children place by rw [row]; simp)
  have up' := linked.parent_of_mem (show node ∈ s.children place' by rw [row']; simp)
  obtain rfl : place' = place := Option.some.inj (up'.symm.trans up)
  have once := linked.nodup place'
  rw [row', List.nodup_append, List.nodup_cons] at once
  obtain ⟨-, ⟨notBehind, -⟩, notFront⟩ := once
  have early : node ∉ front' := fun listed => notFront node listed node List.mem_cons_self rfl
  obtain ⟨sameFront, -, sameBehind⟩ :=
    (List.append_cons_inj_of_notMem early notBehind).mp (row'.symm.trans row)
  exact ⟨rfl, sameFront, sameBehind⟩

end Sheet

namespace Nesting

open Sheet

variable {accepts : Text → Bool} {s s' : Sheet} {place a b : NodeId} {front behind : List NodeId}
  {first second : Text}

def Inward (kind : Kind) : Prop :=
  (∃ selector, kind = .rule selector ∧ Plain true selector) ∨ ∃ params, kind = .atRule "nest".toList params true

/-- The node `a` has gone to the end of its neighbour `b` as the node `moved`, which is `a` itself or a
new node that has taken over what `a` held. -/
structure Shifted (s s' : Sheet) (place a b moved : NodeId) (front behind : List NodeId) : Prop where
  spaced : s'.Spaced
  pending : s'.pending = s.pending
  kind : ∀ x, x < s.nodes.size → x ≠ a → s'.kind x = s.kind x
  inward : Inward (s'.kind moved)
  row : s'.children place = front ++ b :: behind
  grown : s'.children b = s.children b ++ [moved]
  held : s'.children moved = s.children a
  gone : moved = a ∨ s.nodes.size ≤ moved ∧ s'.parent a = none ∧ s'.children a = []
  children : ∀ x, x ≠ place → x ≠ a → x ≠ b → x ≠ moved → s'.children x = s.children x

theorem shifted_applyDescendant (spaced : s.Spaced) (beside : s.Beside place a b front behind)
    (kindInner : s.kind a = .rule first) (kindOuter : s.kind b = .rule second) {nested : Bool}
    (plainInner : Plain nested first) (plainOuter : Plain nested second)
    (shares : Shares accepts suffix? first second) (done : a ∉ s.pending) (shut : b ∉ s.containers) :
    ∃ rest, first.trim = second.trim ++ rest ∧
      (applyDescendant s a b).kind a = .rule ('&' :: rest) ∧
      Shifted s (applyDescendant s a b) place a b a front behind := by
  have linked := spaced.linked
  have storedA := stored_of_parent (beside.up_left linked)
  obtain ⟨rest, whole, nestedAs⟩ := nestDescendant_of_shares plainInner.single plainOuter.single shares
  obtain ⟨separator, -, renamed⟩ := setSelectors_of_rule kindInner
    ((SelectorList.split first).map (nestDescendant (SelectorList.split second)))
  have applied : applyDescendant s a b = (s.setKind a (.rule ('&' :: rest))).append b a := by
    rw [applyDescendant, selectors?_of_rule kindInner, selectors?_of_rule kindOuter]
    simp only [renamed, nestedAs]
  have moved := putInside_append (spaced.setKind (ne_root_of_rule spaced kindInner) (.rule ('&' :: rest)))
    (show (s.setKind a (.rule ('&' :: rest))).Beside place a b front behind by
      simpa only [Beside, children_setKind] using beside)
  have kinds : ∀ x, (applyDescendant s a b).kind x = if x = a then .rule ('&' :: rest) else s.kind x := by
    intro x
    rw [applied, kind_append, kind_eq, label_setKind s a x _ storedA]
    split <;> rfl
  have kindA : (applyDescendant s a b).kind a = .rule ('&' :: rest) := by rw [kinds, if_pos rfl]
  refine ⟨rest, whole, kindA, ?_, ?_, fun x _ other => by rw [kinds, if_neg other],
    Or.inl ⟨_, kindA, plainInner.inside plainOuter whole⟩, ?_, ?_, ?_, Or.inl rfl, fun x notPlace _ notB _ => ?_⟩
  · rw [applied]
    exact moved.spaced
  · have same : (s.setKind a (.rule ('&' :: rest))).pending = s.pending := pending_setKind _
    have stillShut : b ∉ (s.setKind a (.rule ('&' :: rest))).containers := shut
    rw [applied, pending_append (same ▸ done) stillShut, same]
  · rw [applied, moved.row]
  · rw [applied, moved.grown, children_setKind]
  · rw [applied, moved.children a (beside.ne_place linked) (beside.ne linked), children_setKind]
  · rw [applied, moved.children x notPlace notB, children_setKind]

theorem shifted_applyAncestor (spaced : s.Spaced) (beside : s.Beside place a b front behind)
    (kindOuter : s.kind a = .rule first) (kindInner : s.kind b = .rule second) (done : a ∉ s.pending)
    (shutA : a ∉ s.containers) (shutB : b ∉ s.containers) (stored : ∀ c ∈ s.containers, c < s.nodes.size) :
    (∃ params, (applyAncestor s a b).kind s.nodes.size = .atRule "nest".toList params true) ∧
      Shifted s (applyAncestor s a b) place a b s.nodes.size front behind := by
  have linked := spaced.linked
  have upA := beside.up_left linked
  have inner := ne_root_of_rule spaced kindOuter
  obtain ⟨separator, selector, planted, -, -, isPlanted, applied⟩ :=
    applyAncestor_eq spaced beside kindOuter kindInner
  have known : ((s.label a).nesting selector).raws.before.isSome := spaced.before upA
  have cut := cutOut spaced (stored_of_parent upA) inner (.rule selector) known
  rw [← isPlanted] at cut
  have turned := turnedInside spaced beside inner known cut
  rw [← applied] at turned
  obtain ⟨before, labelB, -⟩ := turned.label_inner
  -- The children of `a` are not pending, since `a` is not open.
  have fresh : s.nodes.size ∉ s.containers := fun isOpen => Nat.lt_irrefl _ (stored _ isOpen)
  have sameContainers : planted.containers = s.containers := by
    rw [isPlanted]
    exact containers_remove s a
  have samePending : planted.pending = s.pending := by
    rw [isPlanted, pending_plant _ fun c isOpen => ?_, pending_setKind, pending_remove done]
    rw [size_setKind, size_remove]
    exact stored c (containers_remove s a ▸ isOpen)
  have children : ∀ c ∈ planted.children a, c ∉ planted.pending := by
    intro c listed waits
    rw [cut.children a (stored_of_parent upA), linked.erase_children_of_ne upA (beside.ne_place linked)] at listed
    rw [samePending] at waits
    obtain ⟨container, isOpen, up⟩ := linked.parent_of_pending waits
    rw [linked.parent_of_mem listed] at up
    exact shutA (Option.some.inj up ▸ isOpen)
  have kindNew : (applyAncestor s a b).kind s.nodes.size = .atRule "nest".toList selector true :=
    congrArg Label.kind turned.label_new
  refine ⟨⟨selector, kindNew⟩, turned.spaced, ?_, fun x old notA => ?_, Or.inr ⟨_, kindNew⟩, turned.row,
    turned.grown, turned.handed, Or.inr ⟨Nat.le_refl _, turned.emptied⟩, fun x notPlace notA notB notNew => ?_⟩
  · have filled := pending_foldl_append (planted.children a) children
      (show s.nodes.size ∉ planted.containers by rwa [sameContainers])
    have free : s.nodes.size ∉ s.pending := by
      intro waits
      obtain ⟨container, -, up⟩ := linked.parent_of_pending waits
      exact Nat.lt_irrefl _ (stored_of_parent up)
    rw [applied, pending_append (by rwa [filled, samePending]), filled, samePending]
    rwa [containers_foldl _ fun u id => containers_append u id _, sameContainers]
  · by_cases isB : x = b
    · rw [isB, kind_eq, labelB]
      rfl
    · rw [kind_eq, turned.label x old notA isB, kind_eq]
  · by_cases old : x < s.nodes.size
    · exact turned.children x old notPlace notA notB
    · rw [children_of_not_stored (Nat.not_lt.mp old), children_of_not_stored]
      rw [turned.size]
      exact Nat.lt_of_le_of_ne (Nat.not_lt.mp old) (Ne.symm notNew)

end Nesting

end NestLint
