import NestLint.Proofs.Nesting.Reporting

/-!
Stricter filters report less. A filter that lets less pass makes no comparison hold that did not hold
before, so where it leaves something to report about two neighbours there is something to report without it,
though perhaps another relation, or the other rule. A filter gets stricter by one more exception; it gets
laxer by one more entry of those that it asks for, provided that it asked for some before.
-/

namespace NestLint

namespace Filter

/-- Everything that the first filter lets pass, the second one lets pass too. -/
def Stricter (strict loose : Filter) : Prop := ∀ piece, strict.accepts piece = true → loose.accepts piece = true

variable (filter : Filter) (front : List Entry) (entry : Entry) (back : List Entry)

theorem stricter_of_except :
    Stricter { filter with except := front ++ entry :: back } { filter with except := front ++ back } := by
  intro piece accepted
  simp only [accepts, List.any_append, List.any_cons, Bool.and_eq_true, Bool.not_eq_true',
    Bool.or_eq_false_iff] at accepted ⊢
  exact ⟨⟨accepted.1.1, accepted.1.2.2⟩, accepted.2⟩

theorem stricter_of_only (asks : front ++ back ≠ []) :
    Stricter { filter with only := front ++ back } { filter with only := front ++ entry :: back } := by
  intro piece accepted
  simp only [accepts, List.isEmpty_eq_false_iff.mpr asks, Bool.false_or, Bool.and_eq_true, Bool.or_eq_true,
    List.any_append, List.any_cons] at accepted ⊢
  refine ⟨accepted.1, Or.inr ?_⟩
  rcases accepted.2 with before | behind
  · exact Or.inl before
  · exact Or.inr (Or.inr behind)

end Filter

/-- The nodes below the root that have a sibling before them, each behind that sibling, in document order. -/
def Sheet.neighbours (s : Sheet) : List (NodeId × NodeId) :=
  (s.descendants root).filterMap fun node => (s.prev? node).map fun prev => (prev, node)

namespace Nesting

open Sheet

section monotone

variable {strict loose : Text → Bool} (stricter : ∀ text, strict text = true → loose text = true)

include stricter

theorem allPairs_mono (leftOver : Text → Text → Option Text) {first second : List Text}
    (all : allPairs strict leftOver first second = true) : allPairs loose leftOver first second = true := by
  simp only [allPairs, List.all_eq_true] at all ⊢
  intro b isSecond a isFirst
  obtain ⟨rest, found, accepted⟩ := (Option.any_eq_true _ _).mp (all b isSecond a isFirst)
  exact (Option.any_eq_true _ _).mpr ⟨rest, found, stricter rest accepted⟩

theorem Relation.holds_mono (relation : Relation) {s : Sheet} {rule1 rule2 : NodeId}
    (holds : relation.holds strict s rule1 rule2 = true) : relation.holds loose s rule1 rule2 = true := by
  cases relation with
  | descendant =>
    simp only [Relation.holds] at holds ⊢
    split at holds
    next => exact allPairs_mono stricter suffix? holds
    next => cases holds
  | ancestor =>
    simp only [Relation.holds] at holds ⊢
    split at holds
    next => exact allPairs_mono stricter lead? holds
    next => cases holds
  | media =>
    simp only [Relation.holds] at holds ⊢
    split at holds
    next selector first _ _ =>
      simp only [Bool.and_eq_true] at holds ⊢
      exact ⟨holds.1, stricter selector holds.2⟩
    next => cases holds

theorem isSome_findMatch_mono {s : Sheet} {node prev : NodeId}
    (found : (findMatch strict s node prev).isSome) : (findMatch loose s node prev).isSome := by
  rw [findMatch_eq_find?, List.find?_isSome] at found ⊢
  obtain ⟨m, listed, holds⟩ := found
  exact ⟨m, listed, m.relation.holds_mono stricter holds⟩

end monotone

def remark? (accepts : Text → Bool) (s : Sheet) (session : Session) : NodeId × NodeId → Option Diagnostic
  | (prev, node) =>
    if (s.kind node).isRuleLike && (s.kind prev).isRuleLike then
      (findMatch accepts s node prev).map fun m => m.diagnostic s session
    else none

def reportedPairs (accepts : Text → Bool) (s : Sheet) (session : Session) : List (NodeId × NodeId) :=
  s.neighbours.filter fun pair => (remark? accepts s session pair).isSome

theorem findings_eq_remarks (accepts : Text → Bool) (s : Sheet) (session : Session) :
    findings accepts s session = s.neighbours.filterMap (remark? accepts s session) := by
  rw [findings, neighbours, List.filterMap_filterMap]
  congr 1
  funext node
  rw [finding?_eq, matchAt]
  cases s.prev? node with
  | none => rfl
  | some prev =>
    simp only [Option.bind_some, Option.map_some, remark?]
    split <;> rfl

theorem reportedPairs_mono {strict loose : Filter} (stricter : strict.Stricter loose) (s : Sheet)
    (session : Session) :
    (reportedPairs strict.accepts s session).Sublist (reportedPairs loose.accepts s session) := by
  apply List.monotone_filter_right
  intro (prev, node) said
  simp only [remark?] at said ⊢
  by_cases rules : ((s.kind node).isRuleLike && (s.kind prev).isRuleLike) = true
  · rw [if_pos rules, Option.isSome_map] at said ⊢
    exact isSome_findMatch_mono stricter said
  · rw [if_neg rules] at said
    cases said

end Nesting

namespace Rule

open Nesting

/-- A reporting run says at most one thing about each two neighbours, and when a filter lets less pass, it says
something about fewer of them. So one more exception never adds a reported pair, and one more entry among
those that a filter asks for never takes one away, unless it asked for none before. -/
theorem reports_of_stricter (rule : Rule) (runs : rule.action.runs = true) {s : Sheet} (formed : s.WellFormed)
    {session : Session} (reports : session.fix = false) :
    (∀ filter : Filter, (({ rule with filter := filter } : Rule).check (s, session)).2.diagnostics =
      session.diagnostics ++ s.neighbours.filterMap (remark? filter.accepts s session)) ∧
      (∀ strict loose : Filter, strict.Stricter loose →
        (reportedPairs strict.accepts s session).Sublist (reportedPairs loose.accepts s session)) ∧
      (∀ (filter : Filter) (front : List Filter.Entry) (entry : Filter.Entry) (back : List Filter.Entry),
        filter.except = front ++ back →
          (reportedPairs { filter with except := front ++ entry :: back }.accepts s session).Sublist
            (reportedPairs filter.accepts s session)) ∧
      ∀ (filter : Filter) (front : List Filter.Entry) (entry : Filter.Entry) (back : List Filter.Entry),
        filter.only = front ++ back → filter.only ≠ [] →
          (reportedPairs filter.accepts s session).Sublist
            (reportedPairs { filter with only := front ++ entry :: back }.accepts s session) := by
  refine ⟨fun filter => ?_, fun strict loose stricter => reportedPairs_mono stricter s session,
    fun filter front entry back parts => ?_, fun filter front entry back parts asks => ?_⟩
  · have runs' : ({ rule with filter := filter } : Rule).action.runs = true := runs
    rw [check, if_pos runs', check_of_report filter.accepts formed reports, Session.foldl_report,
      findings_eq_remarks]
  · have stricter := filter.stricter_of_except front entry back
    rw [← parts] at stricter
    exact reportedPairs_mono stricter s session
  · have stricter := filter.stricter_of_only front entry back (parts ▸ asks)
    rw [← parts] at stricter
    exact reportedPairs_mono stricter s session

/-- Two neighbours that share both their start and their end. An exception for what the second one has more
at its end leaves the other relation to report. -/
theorem reports_of_stricter_other_relation :
    ∃ s, Sheet.parse "a\x7b\x7da a\x7b\x7d" = .ok s ∧
      (({ filter := { except := [.literal [' ', 'a']] } } : Rule).check (s, {})).2.diagnostics.map
          Diagnostic.help = [some Relation.ancestor.help] ∧
      (({} : Rule).check (s, {})).2.diagnostics.map Diagnostic.help = [some Relation.descendant.help] ∧
      (1, 2) ∈ reportedPairs (Filter.accepts { except := [.literal [' ', 'a']] }) s {} ∧
      (1, 2) ∈ reportedPairs (Filter.accepts {}) s {} := by
  obtain ⟨s, parsed⟩ := Sheet.exists_sheet_of_accepted "a\x7b\x7da a\x7b\x7d" (by decide +kernel)
  have known : ((Sheet.parse "a\x7b\x7da a\x7b\x7d").toOption.any fun s =>
      (s.neighbours.filterMap (remark? (Filter.accepts { except := [.literal [' ', 'a']] }) s {})).map
          Diagnostic.help == [some Relation.ancestor.help] &&
        (s.neighbours.filterMap (remark? (Filter.accepts {}) s {})).map Diagnostic.help ==
          [some Relation.descendant.help] &&
        (reportedPairs (Filter.accepts { except := [.literal [' ', 'a']] }) s {}).contains (1, 2)) = true := by
    decide +kernel
  rw [parsed] at known
  simp only [Except.toOption, Option.any_some, Bool.and_eq_true, beq_iff_eq, List.contains_iff_mem] at known
  obtain ⟨⟨strictly, loosely⟩, listed⟩ := known
  obtain ⟨said, -, fewer, -⟩ := reports_of_stricter {} (by decide) (Sheet.laid_of_parse parsed).toWellFormed
    (show Session.fix {} = false from rfl)
  refine ⟨s, parsed, ?_, ?_, listed, (fewer {} [] (.literal [' ', 'a']) [] rfl).subset listed⟩
  · rw [said { except := [.literal [' ', 'a']] }]
    exact strictly
  · rw [said {}]
    exact loosely

end Rule

end NestLint
