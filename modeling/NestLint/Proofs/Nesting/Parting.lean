import NestLint.Proofs.Nesting.Meaning
import NestLint.Proofs.Nesting.Reporting

/-!
Neighbours that nesting leaves alone. Two selectors are clear of each other when neither shares its start
or its end with the other in a way that the filter accepts. For selectors without commas this is a matter
of what one of them has more than the other, so two selectors that go into the same rule are clear of each
other inside it when they were outside: the rule takes the same start from both, and the same text is left
over.
-/

namespace NestLint

namespace Nesting

open Sheet SelectorList

variable {accepts : Text → Bool} {first second : Text}

theorem suffix?_append_append (shared inner outer : Text) :
    suffix? (shared ++ inner) (shared ++ outer) = suffix? inner outer := by
  rw [suffix?, suffix?, Text.strip_append_append]

theorem shares_iff (leftOver : Text → Text → Option Text) (singleFirst : ',' ∉ first)
    (singleSecond : ',' ∉ second) :
    Shares accepts leftOver first second ↔
      first.trim ≠ [] ∧ second.trim ≠ [] ∧ (leftOver first.trim second.trim).any accepts = true := by
  rw [Shares, split_of_not_mem first singleFirst, split_of_not_mem second singleSecond]
  simp [allPairs]

def Passes (accepts : Text → Bool) (first second : Text) : Prop :=
  ¬ Shares accepts suffix? first second ∧ ¬ Shares accepts lead? first second

/-- Neither of two selectors is nested with the other. -/
def Clear (accepts : Text → Bool) (first second : Text) : Prop :=
  Passes accepts first second ∧ Passes accepts second first

theorem Clear.symm (clear : Clear accepts first second) : Clear accepts second first := And.symm clear

section inside

variable {shared rest rest' whole whole' : Text} {nested : Bool}

theorem shares_of_inside (plainShared : Plain nested shared) (plain : Plain nested whole)
    (plain' : Plain nested whole') (full : shared.trim ≠ []) (isWhole : whole.trim = shared.trim ++ rest)
    (isWhole' : whole'.trim = shared.trim ++ rest') (shares : Shares accepts suffix? ('&' :: rest) ('&' :: rest')) :
    Shares accepts suffix? whole whole' := by
  have trimmed : ∀ {text rest : Text}, Text.trim text = shared.trim ++ rest →
      Text.trim ('&' :: rest) = '&' :: rest := by
    intro text rest isText
    rw [Text.trim_cons rest isBlank_ampersand, Text.trimEnd_of_append isText]
  have inner := plain.inside plainShared isWhole
  have inner' := plain'.inside plainShared isWhole'
  obtain ⟨-, -, accepted⟩ := (shares_iff suffix? inner.single inner'.single).mp shares
  rw [trimmed isWhole, trimmed isWhole'] at accepted
  refine (shares_iff suffix? plain.single plain'.single).mpr ⟨?_, ?_, ?_⟩
  · rw [isWhole]
    exact List.append_ne_nil_of_left_ne_nil full rest
  · rw [isWhole']
    exact List.append_ne_nil_of_left_ne_nil full rest'
  · rw [isWhole, isWhole', suffix?_append_append]
    rwa [← List.singleton_append, ← List.singleton_append (l := rest'), suffix?_append_append] at accepted

theorem not_shares_lead (plain : Plain true first) (plain' : Plain true second) :
    ¬ Shares accepts lead? first second := by
  intro shares
  obtain ⟨lead, whole, -⟩ := nestAncestor_of_shares plain.single plain'.single shares
  exact plain.not_lead plain' whole

/-- Two selectors that are clear of each other stay so inside a rule that both go into. -/
theorem Clear.inside (clear : Clear accepts whole whole') (plainShared : Plain nested shared)
    (plain : Plain nested whole) (plain' : Plain nested whole') (full : shared.trim ≠ [])
    (isWhole : whole.trim = shared.trim ++ rest) (isWhole' : whole'.trim = shared.trim ++ rest') :
    Clear accepts ('&' :: rest) ('&' :: rest') := by
  have inner := plain.inside plainShared isWhole
  have inner' := plain'.inside plainShared isWhole'
  refine ⟨⟨fun shares => clear.1.1 ?_, not_shares_lead inner inner'⟩,
    fun shares => clear.2.1 ?_, not_shares_lead inner' inner⟩
  · exact shares_of_inside plainShared plain plain' full isWhole isWhole' shares
  · exact shares_of_inside plainShared plain' plain full isWhole' isWhole shares

end inside

/-- Two nodes have nothing to do with each other: if both are rules, their selectors are clear. -/
def Parted (accepts : Text → Bool) (s : Sheet) (a b : NodeId) : Prop :=
  ∀ first second, s.kind a = .rule first → s.kind b = .rule second → Clear accepts first second

variable {s s' : Sheet} {a b : NodeId}

theorem Parted.symm (parted : Parted accepts s a b) : Parted accepts s b a :=
  fun first second kind kind' => (parted second first kind' kind).symm

theorem Parted.of_kinds_eq (parted : Parted accepts s a b) (kind : s'.kind a = s.kind a)
    (kind' : s'.kind b = s.kind b) : Parted accepts s' a b := by
  intro first second isFirst isSecond
  exact parted first second (kind ▸ isFirst) (kind' ▸ isSecond)

theorem parted_of_not_isRule (other : (s.kind b).isRule = false) : Parted accepts s a b := by
  intro first second _ isSecond
  rw [isSecond] at other
  cases other

theorem shares_iff_selectors (leftOver : Text → Text → Option Text) :
    (match ruleSelectors? s a, ruleSelectors? s b with
      | some firsts, some seconds => allPairs accepts leftOver firsts seconds
      | _, _ => false) = true ↔
    ∃ first second, s.kind a = .rule first ∧ s.kind b = .rule second ∧
      Shares accepts leftOver first second := by
  have known : ∀ {id : NodeId} {selector : Text}, s.kind id = .rule selector →
      (∀ piece ∈ split selector, piece ≠ []) → ruleSelectors? s id = some (split selector) := by
    intro id selector kind full
    rw [ruleSelectors?, selectors?_of_rule kind, Option.bind_some, if_neg]
    rw [List.any_eq_true]
    rintro ⟨piece, listed, empty⟩
    exact full piece listed (List.isEmpty_iff.mp empty)
  constructor
  · intro holds
    split at holds
    next firsts seconds isFirst isSecond =>
      obtain ⟨first, kind, rfl, full⟩ := rule_of_ruleSelectors isFirst
      obtain ⟨second, kind', rfl, full'⟩ := rule_of_ruleSelectors isSecond
      exact ⟨first, second, kind, kind', full, full', holds⟩
    next => cases holds
  · rintro ⟨first, second, kind, kind', shares⟩
    rw [known kind shares.1, known kind' shares.2.1]
    exact shares.2.2

theorem holds_descendant_iff : Relation.descendant.holds accepts s a b = true ↔
    ∃ first second, s.kind a = .rule first ∧ s.kind b = .rule second ∧
      Shares accepts suffix? first second := shares_iff_selectors suffix?

theorem holds_ancestor_iff : Relation.ancestor.holds accepts s a b = true ↔
    ∃ first second, s.kind a = .rule first ∧ s.kind b = .rule second ∧
      Shares accepts lead? first second := shares_iff_selectors lead?

theorem holds_of_parted (quiet : ∀ id, mediaFirstRule? s id = none) (parted : Parted accepts s a b)
    (relation : Relation) : relation.holds accepts s a b = false := by
  rw [Bool.eq_false_iff]
  intro holds
  cases relation with
  | descendant =>
    obtain ⟨first, second, kind, kind', shares⟩ := holds_descendant_iff.mp holds
    exact (parted first second kind kind').1.1 shares
  | ancestor =>
    obtain ⟨first, second, kind, kind', shares⟩ := holds_ancestor_iff.mp holds
    exact (parted first second kind kind').1.2 shares
  | media =>
    simp only [Relation.holds, quiet b] at holds
    split at holds
    next none => cases none
    next => cases holds

theorem parted_of_matchAt_eq_none (linked : s.Linked) {place : NodeId} {front behind : List NodeId}
    (row : s.children place = front ++ a :: b :: behind) (settled : matchAt accepts s b = none) :
    Parted accepts s a b := by
  intro first second kind kind'
  rw [matchAt_eq_none_iff linked row, kind, kind'] at settled
  have never := settled rfl rfl
  refine ⟨⟨fun shares => ?_, fun shares => ?_⟩, fun shares => ?_, fun shares => ?_⟩
  · exact Bool.eq_false_iff.mp (never .descendant).2
      (holds_descendant_iff.mpr ⟨first, second, kind, kind', shares⟩)
  · exact Bool.eq_false_iff.mp (never .ancestor).2
      (holds_ancestor_iff.mpr ⟨first, second, kind, kind', shares⟩)
  · exact Bool.eq_false_iff.mp (never .descendant).1
      (holds_descendant_iff.mpr ⟨second, first, kind', kind, shares⟩)
  · exact Bool.eq_false_iff.mp (never .ancestor).1
      (holds_ancestor_iff.mpr ⟨second, first, kind', kind, shares⟩)

end Nesting

end NestLint
