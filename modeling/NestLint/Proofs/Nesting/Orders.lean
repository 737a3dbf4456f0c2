import Mathlib.Order.Defs.Unbundled
import NestLint.Proofs.Nesting.Parting
import NestLint.Proofs.Nesting.Resolving

/-!
The relations as orders. Two selectors that share a start or an end differ in length, and what is left
over of them adds up, so comparing selector by selector is a strict order on lists of selectors as long
as no list is empty. A filter may forbid what is left over of the first and the last of three rules, so
with a filter only the direction is settled: no relation holds both ways round. That is why it does not
matter which way round it is tried first.
-/

namespace NestLint

namespace Nesting

open Sheet SelectorList

theorem suffix?_eq_some_iff {inner outer rest : Text} :
    suffix? inner outer = some rest ↔
      inner = outer ++ rest ∧ ∃ c tail, rest = c :: tail ∧ isNameChar c = false := by
  constructor
  · intro found
    have whole := Text.strip_eq_some (strip_of_suffix? found).1
    unfold suffix? at found
    split at found
    next c tail _ =>
      split at found
      next => cases found
      next other =>
        cases found
        exact ⟨whole, c, tail, rfl, by simpa using other⟩
    next => cases found
  · rintro ⟨rfl, c, tail, rfl, other⟩
    have stripped : Text.strip outer (outer ++ c :: tail) = some (c :: tail) := by
      simpa [Text.strip] using Text.strip_append_append outer [] (c :: tail)
    simp [suffix?, stripped, other]

theorem lead?_eq_some_iff {outer inner lead : Text} :
    lead? outer inner = some lead ↔ outer = lead ++ ' ' :: inner := by
  refine ⟨eq_of_lead?, ?_⟩
  rintro rfl
  have stripped : ∀ front back : Text, Text.stripEnd back (front ++ back) = some front := by
    intro front back
    have reversed := Text.strip_append_append back.reverse [] front.reverse
    rw [List.append_nil] at reversed
    simp [Text.stripEnd, List.reverse_append, reversed, Text.strip]
  have inFront : lead ++ ' ' :: inner = (lead ++ [' ']) ++ inner := by simp
  rw [lead?, inFront, stripped, Option.bind_some, stripped]

/-- What one selector has more than another: it makes the selector longer, and of three selectors in a
row the first has something more than the last too. -/
structure Excess (leftOver : Text → Text → Option Text) : Prop where
  longer : ∀ {a b rest : Text}, leftOver a b = some rest → b.length < a.length
  trans : ∀ {a b c rest rest' : Text}, leftOver a b = some rest → leftOver b c = some rest' →
    ∃ rest'', leftOver a c = some rest''

theorem excess_suffix : Excess suffix? where
  longer {a b rest} found := by
    obtain ⟨rfl, c, tail, rfl, -⟩ := suffix?_eq_some_iff.mp found
    simp
  trans {a b c rest rest'} found found' := by
    obtain ⟨rfl, -⟩ := suffix?_eq_some_iff.mp found
    obtain ⟨rfl, d, tail, rfl, other⟩ := suffix?_eq_some_iff.mp found'
    refine ⟨d :: tail ++ rest, suffix?_eq_some_iff.mpr ⟨?_, d, tail ++ rest, rfl, other⟩⟩
    rw [List.append_assoc]

theorem excess_lead : Excess lead? where
  longer {a b lead} found := by
    obtain rfl := lead?_eq_some_iff.mp found
    simp only [List.length_append, List.length_cons]
    omega
  trans {a b c lead lead'} found found' := by
    obtain rfl := lead?_eq_some_iff.mp found
    obtain rfl := lead?_eq_some_iff.mp found'
    exact ⟨lead ++ ' ' :: lead', lead?_eq_some_iff.mpr (by simp)⟩

variable {accepts : Text → Bool} {leftOver : Text → Text → Option Text} {first second third : Text}

theorem Excess.longer_of_shares (excess : Excess leftOver) (shares : Shares accepts leftOver first second) :
    ∀ a ∈ split first, ∀ b ∈ split second, b.length < a.length := by
  intro a isFirst b isSecond
  obtain ⟨rest, found⟩ := exists_of_allPairs shares.2.2 isFirst isSecond
  exact excess.longer found

theorem Excess.asymm (excess : Excess leftOver) (shares : Shares accepts leftOver first second) :
    ¬ Shares accepts leftOver second first := by
  intro back
  obtain ⟨a, isFirst⟩ := List.exists_mem_of_ne_nil _ (split_ne_nil first)
  obtain ⟨b, isSecond⟩ := List.exists_mem_of_ne_nil _ (split_ne_nil second)
  have shorter := excess.longer_of_shares shares a isFirst b isSecond
  exact Nat.lt_asymm shorter (excess.longer_of_shares back b isSecond a isFirst)

theorem Excess.trans_shares (excess : Excess leftOver) (all : ∀ text, accepts text = true)
    (shares : Shares accepts leftOver first second) (shares' : Shares accepts leftOver second third) :
    Shares accepts leftOver first third := by
  refine ⟨shares.1, shares'.2.1, List.all_eq_true.mpr fun c isThird => List.all_eq_true.mpr fun a isFirst => ?_⟩
  -- Any selector of the rule in between will do; there is one.
  obtain ⟨b, isSecond⟩ := List.exists_mem_of_ne_nil _ (split_ne_nil second)
  obtain ⟨rest, found⟩ := exists_of_allPairs shares.2.2 isFirst isSecond
  obtain ⟨rest', found'⟩ := exists_of_allPairs shares'.2.2 isSecond isThird
  obtain ⟨rest'', isRest⟩ := excess.trans found found'
  simp [isRest, all]

variable {s : Sheet} {a b c : NodeId}

theorem Excess.asymm_holds {relation : Relation} (excess : Excess leftOver)
    (iff : ∀ {a b : NodeId}, relation.holds accepts s a b = true ↔ ∃ first second,
      s.kind a = .rule first ∧ s.kind b = .rule second ∧ Shares accepts leftOver first second)
    (holds : relation.holds accepts s a b = true) : ¬ relation.holds accepts s b a = true := by
  intro back
  obtain ⟨first, second, kind, kind', shares⟩ := iff.mp holds
  obtain ⟨second', first', other', other, shares'⟩ := iff.mp back
  obtain rfl : second = second' := Kind.rule.inj (kind'.symm.trans other')
  obtain rfl : first = first' := Kind.rule.inj (kind.symm.trans other)
  exact excess.asymm shares shares'

theorem Excess.trans_holds {relation : Relation} (excess : Excess leftOver) (all : ∀ text, accepts text = true)
    (iff : ∀ {a b : NodeId}, relation.holds accepts s a b = true ↔ ∃ first second,
      s.kind a = .rule first ∧ s.kind b = .rule second ∧ Shares accepts leftOver first second)
    (holds : relation.holds accepts s a b = true) (holds' : relation.holds accepts s b c = true) :
    relation.holds accepts s a c = true := by
  obtain ⟨first, second, kind, kind', shares⟩ := iff.mp holds
  obtain ⟨second', third, other, last, shares'⟩ := iff.mp holds'
  obtain rfl : second = second' := Kind.rule.inj (kind'.symm.trans other)
  exact iff.mpr ⟨first, third, kind, last, excess.trans_shares all shares shares'⟩

theorem asymm_media (holds : Relation.media.holds accepts s a b = true) :
    ¬ Relation.media.holds accepts s b a = true := by
  intro back
  simp only [Relation.holds] at holds back
  split at holds
  next selector first isSelector opens =>
    split at back
    next selector' first' isSelector' opens' =>
      have isRule := rule_of_selector? isSelector
      simp [mediaFirstRule?, isRule, Kind.atName?] at opens'
    next => cases back
  next => cases holds

theorem Relation.asymm_holds (relation : Relation) (holds : relation.holds accepts s a b = true) :
    ¬ relation.holds accepts s b a = true := by
  cases relation with
  | descendant => exact excess_suffix.asymm_holds holds_descendant_iff holds
  | ancestor => exact excess_lead.asymm_holds holds_ancestor_iff holds
  | media => exact asymm_media holds

/-- The first relation that holds between two nodes, when each relation is tried first in the direction
that `turned` says. -/
def findMatchTurned (turned : Relation → Bool) (accepts : Text → Bool) (s : Sheet) (node prev : NodeId) :
    Option Match :=
  Relation.all.findSome? fun relation =>
    let (first, second) := if turned relation then (prev, node) else (node, prev)
    if relation.holds accepts s first second then some ⟨relation, first, second⟩
    else if relation.holds accepts s second first then some ⟨relation, second, first⟩
    else none

theorem findMatchTurned_eq (turned : Relation → Bool) (node prev : NodeId) :
    findMatchTurned turned accepts s node prev = findMatch accepts s node prev := by
  have same : ∀ relation : Relation,
      (let (first, second) := if turned relation then (prev, node) else (node, prev)
        if relation.holds accepts s first second then some (⟨relation, first, second⟩ : Match)
        else if relation.holds accepts s second first then some ⟨relation, second, first⟩
        else none) =
      if relation.holds accepts s node prev then some ⟨relation, node, prev⟩
      else if relation.holds accepts s prev node then some ⟨relation, prev, node⟩ else none := by
    intro relation
    cases turned relation with
    | false => rfl
    | true =>
      by_cases holds : relation.holds accepts s node prev = true
      · have never := relation.asymm_holds holds
        simp [holds, never]
      · simp [holds]
  exact congrArg Relation.all.findSome? (funext same)

/-- Sharing a start and sharing an end are strict orders on the nodes of a sheet when the filter accepts
everything. With any filter no relation holds both ways round, so the match of two nodes is the same
whichever way round each relation is tried first. -/
theorem Relation.strict_holds (s : Sheet) :
    (∀ relation ∈ [Relation.descendant, Relation.ancestor],
      IsStrictOrder NodeId (fun a b => relation.holds (Filter.accepts {}) s a b = true) ∧
        Std.Asymm (fun a b => relation.holds (Filter.accepts {}) s a b = true)) ∧
      (∀ (filter : Filter) (relation : Relation) (a b : NodeId),
        ¬ (relation.holds filter.accepts s a b = true ∧ relation.holds filter.accepts s b a = true)) ∧
      ∀ (filter : Filter) (turned : Relation → Bool) (node prev : NodeId),
        findMatchTurned turned filter.accepts s node prev = findMatch filter.accepts s node prev := by
  refine ⟨fun relation either => ?_, fun filter relation a b both => relation.asymm_holds both.1 both.2,
    fun filter turned node prev => findMatchTurned_eq turned node prev⟩
  have all : ∀ text, Filter.accepts {} text = true := fun _ => rfl
  have asymm : ∀ a b, relation.holds (Filter.accepts {}) s a b = true →
      ¬ relation.holds (Filter.accepts {}) s b a = true := fun _ _ => relation.asymm_holds
  have trans : ∀ a b c, relation.holds (Filter.accepts {}) s a b = true →
      relation.holds (Filter.accepts {}) s b c = true → relation.holds (Filter.accepts {}) s a c = true := by
    intro a b c holds holds'
    simp only [List.mem_cons, List.not_mem_nil, or_false] at either
    rcases either with rfl | rfl
    · exact excess_suffix.trans_holds all holds_descendant_iff holds holds'
    · exact excess_lead.trans_holds all holds_ancestor_iff holds holds'
  exact ⟨{ irrefl := fun a holds => asymm a a holds holds, trans := trans }, ⟨asymm⟩⟩

/-- Three rules in a row of which each shares both its start and its end with the one before. -/
theorem Relation.strict_holds_three_rules :
    ∃ s, Sheet.parse "a\x7b\x7da a\x7b\x7da a a\x7b\x7d" = .ok s ∧
      ∀ relation ∈ [Relation.descendant, Relation.ancestor],
        (relation.holds (Filter.accepts {}) s 3 2 = true ∧ relation.holds (Filter.accepts {}) s 2 1 = true) ∧
          relation.holds (Filter.accepts {}) s 3 1 = true ∧ ¬ relation.holds (Filter.accepts {}) s 1 3 = true := by
  have steps : ((Sheet.parse "a\x7b\x7da a\x7b\x7da a a\x7b\x7d").toOption.any fun s =>
      [Relation.descendant, Relation.ancestor].all fun relation =>
        relation.holds (Filter.accepts {}) s 3 2 && relation.holds (Filter.accepts {}) s 2 1) = true := by
    decide +kernel
  obtain ⟨s, parsed⟩ := Sheet.exists_sheet_of_accepted "a\x7b\x7da a\x7b\x7da a a\x7b\x7d" (by decide +kernel)
  rw [parsed] at steps
  refine ⟨s, parsed, fun relation either => ?_⟩
  have step := List.all_eq_true.mp steps relation either
  rw [Bool.and_eq_true] at step
  obtain ⟨order, asymm⟩ := (Relation.strict_holds s).1 relation either
  have whole := order.trans 3 2 1 step.1 step.2
  exact ⟨step, whole, asymm.asymm 3 1 whole⟩

end Nesting

end NestLint
