import NestLint.Proofs.Nesting.Reporting

/-!
What a fixing run nests first. The run is repeated with a record of every match that it nests; the record
is kept aside, so the sheet goes through the same states. Up to the first match a reporting run and a
fixing run come by the same nodes and find the same sheet, so the first entry of the record is the first
match that is reported, and the record is empty exactly when nothing is reported.
-/

namespace NestLint

namespace Nesting

open Sheet

def settleRecording (accepts : Text → Bool) (node : NodeId) : Nat → Sheet × List Match → Sheet × List Match
  | 0, state => state
  | fuel + 1, (s, record) =>
    match matchAt accepts s node with
    | some found => settleRecording accepts node fuel (found.apply s, record ++ [found])
    | none => (s, record)

/-- A fixing run with a record of what is nested, in order. -/
def recorded (accepts : Text → Bool) (s : Sheet) : Sheet × List Match :=
  Sheet.walk (fun node => settleRecording accepts node (stepBound s)) (stepBound s) (s, [])

variable {accepts : Text → Bool} {s : Sheet} {node : NodeId}

theorem settleRecording_fst (fuel : Nat) (record : List Match) :
    (settleRecording accepts node fuel (s, record)).1 = settle accepts node fuel s := by
  induction fuel generalizing s record with
  | zero => rfl
  | succ fuel ih =>
    rw [settleRecording, settle]
    cases matchAt accepts s node with
    | none => rfl
    | some found => exact ih _

theorem isPrefix_settleRecording (fuel : Nat) (record : List Match) :
    record <+: (settleRecording accepts node fuel (s, record)).2 := by
  induction fuel generalizing s record with
  | zero => exact List.prefix_rfl
  | succ fuel ih =>
    rw [settleRecording]
    cases matchAt accepts s node with
    | none => exact List.prefix_rfl
    | some found => exact (List.prefix_append record [found]).trans (ih _)

section walks

variable (accepts) (fuel : Nat)

theorem walkStep_recording (s : Sheet) (record : List Match) {session : Session} (fixes : session.fix = true) :
    walkStep (visit accepts fuel) (s, session) =
      ((walkStep (fun node => settleRecording accepts node fuel) (s, record)).1, session) := by
  cases cursors : s.cursors with
  | nil => simp only [walkStep, cursors]
  | cons cursor outer =>
    cases next : (s.children cursor.container)[cursor.next]? with
    | none => rw [walkStep_of_none _ _ cursors next, walkStep_of_none _ _ cursors next]
    | some child =>
      rw [walkStep_of_some _ _ cursors next rfl, walkStep_of_some _ _ cursors next rfl]
      simp only [visit, fixes, if_true, settleRecording_fst]

theorem walkSteps_recording (base steps : Nat) (s : Sheet) (record : List Match) {session : Session}
    (fixes : session.fix = true) :
    (walkSteps (visit accepts fuel) base steps (s, session)).1 =
      (walkSteps (fun node => settleRecording accepts node fuel) base steps (s, record)).1 := by
  induction steps generalizing s record with
  | zero => rfl
  | succ steps ih =>
    rw [walkSteps, walkSteps]
    by_cases finished : s.cursors.length ≤ base
    · rw [if_pos finished, if_pos finished]
    · rw [if_neg finished, if_neg finished, walkStep_recording accepts fuel s record fixes]
      exact ih _ _

theorem isPrefix_walkStep (s : Sheet) (record : List Match) :
    record <+: (walkStep (fun node => settleRecording accepts node fuel) (s, record)).2 := by
  cases cursors : s.cursors with
  | nil =>
    simp only [walkStep, cursors]
    exact List.prefix_rfl
  | cons cursor outer =>
    cases next : (s.children cursor.container)[cursor.next]? with
    | none =>
      rw [walkStep_of_none _ _ cursors next]
    | some child =>
      rw [walkStep_of_some _ _ cursors next rfl]
      exact isPrefix_settleRecording fuel record

theorem isPrefix_walkSteps (base steps : Nat) (s : Sheet) (record : List Match) :
    record <+: (walkSteps (fun node => settleRecording accepts node fuel) base steps (s, record)).2 := by
  induction steps generalizing s record with
  | zero => exact List.prefix_rfl
  | succ steps ih =>
    rw [walkSteps]
    split
    · exact List.prefix_rfl
    · exact (isPrefix_walkStep accepts fuel s record).trans (ih _ _)

end walks

theorem settleRecording_of_none (fuel : Nat) (record : List Match) (none : matchAt accepts s node = none) :
    settleRecording accepts node (fuel + 1) (s, record) = (s, record) := by
  simp only [settleRecording, none]

theorem head?_settleRecording (fuel : Nat) {m : Match} (found : matchAt accepts s node = some m) :
    (settleRecording accepts node (fuel + 1) (s, [])).2.head? = some m := by
  rw [settleRecording, found]
  have kept : [] ++ [m] <+: (settleRecording accepts node fuel (m.apply s, [] ++ [m])).2 :=
    isPrefix_settleRecording fuel _
  obtain ⟨later, whole⟩ := kept
  rw [← whole]
  rfl

theorem recording_cases (linked : s.Linked) (accepts : Text → Bool) (fuel : Nat) (rest : List Cursor)
    {opened : List Cursor} {steps : Nat} (enough : workAll s opened ≤ steps) {result : Sheet × List Match}
    (isResult : result = walkSteps (fun node => settleRecording accepts node (fuel + 1)) rest.length steps
      ({ s with cursors := opened ++ rest }, [])) :
    (∃ m, (s.ahead opened).findSome? (matchAt accepts s) = some m ∧ result.2.head? = some m) ∨
      (s.ahead opened).findSome? (matchAt accepts s) = none ∧ result = ({ s with cursors := rest }, []) := by
  induction steps generalizing opened with
  | zero =>
    cases opened with
    | nil => exact Or.inr ⟨rfl, isResult⟩
    | cons cursor outer =>
      have more := workAll_leave s cursor outer
      omega
  | succ steps ih =>
    rw [walkSteps] at isResult
    cases opened with
    | nil => exact Or.inr ⟨rfl, isResult.trans (if_pos (Nat.le_refl rest.length))⟩
    | cons cursor outer =>
      rw [if_neg (by simp only [List.cons_append, List.length_cons, List.length_append]; omega),
        List.cons_append] at isResult
      rcases linked.walkStep_cases (fun node => settleRecording accepts node (fuel + 1)) [] cursor outer rest
        with ⟨step, same, less⟩ | ⟨child, stack, opened, next, less, entry, step⟩
      · rw [same]
        exact ih (by omega) (step ▸ isResult)
      · rw [next, List.findSome?_cons]
        cases found : matchAt accepts s child with
        | none =>
          rw [step [] (settleRecording_of_none fuel [] found)] at isResult
          exact ih (by omega) isResult
        | some m =>
          -- From here on the sheets differ, but the entry stays in the record.
          refine Or.inl ⟨m, rfl, ?_⟩
          have first := head?_settleRecording fuel (s := { s with cursors := stack }) found
          rw [← entry] at first
          obtain ⟨later, whole⟩ := isPrefix_walkSteps accepts (fuel + 1) rest.length steps
            (walkStep (fun node => settleRecording accepts node (fuel + 1))
              ({ s with cursors := cursor :: (outer ++ rest) }, [])).1
            (walkStep (fun node => settleRecording accepts node (fuel + 1))
              ({ s with cursors := cursor :: (outer ++ rest) }, [])).2
          rw [isResult, ← whole, List.head?_append, first]
          rfl

/-- The recorded run is the fixing run. -/
theorem check_eq_recorded (accepts : Text → Bool) (s : Sheet) {session : Session} (fixes : session.fix = true) :
    (check accepts (s, session)).1 = (recorded accepts s).1 :=
  walkSteps_recording accepts _ _ _ _ [] fixes

theorem recorded_cases (accepts : Text → Bool) (formed : s.WellFormed) :
    (∃ m, (s.descendants root).findSome? (matchAt accepts s) = some m ∧
        (recorded accepts s).2.head? = some m) ∨
      (s.descendants root).findSome? (matchAt accepts s) = none ∧ recorded accepts s = (s, []) := by
  obtain ⟨fuel, enough⟩ : ∃ fuel, stepBound s = fuel + 1 :=
    Nat.exists_eq_add_one.mpr (Nat.pow_pos (Nat.succ_pos _))
  have room := formed.workAll_le_stepBound
  have walked := recording_cases formed.linked accepts fuel s.cursors (enough ▸ room) rfl
  rw [formed.linked.ahead_root] at walked
  rw [recorded, enough]
  exact walked

theorem findings_eq_map (accepts : Text → Bool) (s : Sheet) (session : Session) :
    findings accepts s session =
      ((s.descendants root).filterMap (matchAt accepts s)).map fun m => m.diagnostic s session := by
  have same : finding? accepts s session =
      fun node => (matchAt accepts s node).map fun m => m.diagnostic s session := by
    funext node
    exact finding?_eq accepts s session node
  rw [findings, same, List.map_filterMap]

theorem Relation.help_inj {relation relation' : Relation} :
    relation.help = relation'.help ↔ relation = relation' := by
  cases relation <;> cases relation' <;> decide

end Nesting

namespace Linter

open Nesting

def nestingReports (linter : Linter) (source filename : String) : List Diagnostic :=
  (linter.lint source filename).diagnostics.filter fun d => d.rule == nestingRule

variable {linter : Linter} {rule : Rule} {source : String} {s : Sheet}

theorem exists_run_of_one (one : linter.rules = [rule]) (enabled : ∀ names ∈ linter.enabled, nestingRule ∈ names)
    (parsed : Sheet.parse source = .ok s) (fix : Bool) :
    ∃ session : Session, session.fix = fix ∧ session.rule = nestingRule ∧ session.severity = rule.severity ∧
      session.diagnostics = linter.problems.map problem ∧
      linter.run source fix = (some (rule.check (s, session)).1, (rule.check (s, session)).2) := by
  obtain ⟨begun, isBegun⟩ : ∃ begun : Session, begun = linter.problems.foldl
      (fun session message => session.report (problem message)) { fix := fix, enabled := linter.enabled } :=
    ⟨_, rfl⟩
  have spelled := isBegun
  rw [← List.foldl_map (f := problem) (g := Session.report), Session.foldl_report] at spelled
  have allowed : begun.allows rule.name = true := by
    rw [spelled, Session.allows]
    cases listed : linter.enabled with
    | none => rfl
    | some names => simpa [Rule.name] using enabled names listed
  refine ⟨begun.enter nestingRule rule.severity, ?_, rfl, rfl, ?_, ?_⟩
  · rw [spelled]
    rfl
  · rw [spelled]
    rfl
  · rw [run, parsed, one, ← isBegun]
    simp only [List.foldl_cons, List.foldl_nil]
    rw [runRule, if_pos allowed]
    rfl

theorem filter_problems (messages : List String) :
    (messages.map problem).filter (fun d => d.rule == nestingRule) = [] := by
  rw [List.filter_eq_nil_iff]
  intro d listed
  obtain ⟨message, -, rfl⟩ := List.mem_map.mp listed
  simp [problem, invalidOption, nestingRule]

theorem nestingReports_eq (one : linter.rules = [rule]) (runs : rule.action.runs = true)
    (enabled : ∀ names ∈ linter.enabled, nestingRule ∈ names) (parsed : Sheet.parse source = .ok s)
    (filename : String) :
    ∃ session : Session, session.rule = nestingRule ∧ session.severity = rule.severity ∧
      linter.nestingReports source filename = findings rule.filter.accepts s session := by
  obtain ⟨session, reports, named, severe, begun, ran⟩ := exists_run_of_one one enabled parsed false
  refine ⟨session, named, severe, ?_⟩
  have formed := (Sheet.laid_of_parse parsed).toWellFormed
  have kept : (findings rule.filter.accepts s session).filter (fun d => d.rule == nestingRule) =
      findings rule.filter.accepts s session := by
    rw [List.filter_eq_self, findings_eq_map]
    intro d listed
    obtain ⟨m, -, rfl⟩ := List.mem_map.mp listed
    simp [Match.diagnostic, named]
  rw [nestingReports, lint, resultOf, ran, Rule.check, if_pos runs,
    check_of_report rule.filter.accepts formed reports, Session.foldl_report]
  simp only [List.filter_append, begun, filter_problems, kept, List.nil_append]

/-- Linting and fixing agree. The fixing run is the recorded one; its record is empty exactly when nothing
is reported about nesting, and then the source stays as it is; and the first report is about the match
that is recorded first. -/
theorem fix_follows_lint (linter : Linter) (rule : Rule) (one : linter.rules = [rule])
    (runs : rule.action.runs = true) (enabled : ∀ names ∈ linter.enabled, nestingRule ∈ names)
    {source : String} {s : Sheet} (parsed : Sheet.parse source = .ok s) (filename : String) :
    (linter.run source true).1 = some (recorded rule.filter.accepts s).1 ∧
      (linter.nestingReports source filename = [] ↔ (recorded rule.filter.accepts s).2 = []) ∧
      ((recorded rule.filter.accepts s).2 = [] → (linter.fix source filename).output = source) ∧
      ∀ d, (linter.nestingReports source filename).head? = some d →
        ∃ m, (recorded rule.filter.accepts s).2.head? = some m ∧
          (s.descendants Sheet.root).findSome? (matchAt rule.filter.accepts s) = some m ∧
          d.node = some m.rule1 ∧ d.message = expectation s m.rule1 m.rule2 ∧
          ∀ relation : Relation, d.help = some relation.help ↔ relation = m.relation := by
  have formed := (Sheet.laid_of_parse parsed).toWellFormed
  obtain ⟨fixing, fixes, -, -, -, ran⟩ := exists_run_of_one one enabled parsed true
  have fixed : (linter.run source true).1 = some (recorded rule.filter.accepts s).1 := by
    rw [ran, Rule.check, if_pos runs, check_eq_recorded rule.filter.accepts s fixes]
  obtain ⟨session, -, -, reported⟩ := nestingReports_eq one runs enabled parsed filename
  rw [findings_eq_map] at reported
  have heads : (linter.nestingReports source filename).head? =
      ((s.descendants Sheet.root).findSome? (matchAt rule.filter.accepts s)).map
        fun m => m.diagnostic s session := by
    rw [reported, List.head?_map, List.head?_filterMap]
  have empty : linter.nestingReports source filename = [] ↔
      (s.descendants Sheet.root).findSome? (matchAt rule.filter.accepts s) = none := by
    rw [← List.head?_eq_none_iff, heads, Option.map_eq_none_iff]
  rcases recorded_cases rule.filter.accepts formed with ⟨m, found, first⟩ | ⟨none, unchanged⟩
  · have entries : (recorded rule.filter.accepts s).2 ≠ [] := by
      intro nothing
      rw [nothing] at first
      cases first
    refine ⟨fixed, ?_, fun nothing => absurd nothing entries, fun d isFirst => ⟨m, first, found, ?_⟩⟩
    · rw [empty, found]
      exact ⟨fun impossible => absurd impossible (by simp), fun nothing => absurd nothing entries⟩
    · rw [heads, found, Option.map_some, Option.some.injEq] at isFirst
      subst isFirst
      refine ⟨rfl, rfl, fun relation => ?_⟩
      rw [Match.diagnostic, Option.some.injEq, Relation.help_inj, eq_comm]
  · refine ⟨fixed, ?_, fun _ => ?_, fun d isFirst => ?_⟩
    · rw [empty, unchanged]
      exact ⟨fun _ => rfl, fun _ => none⟩
    · rw [fix]
      simp only [fixed, unchanged, Option.map_some, Option.getD_some]
      rw [Sheet.css, Sheet.nodeCss_of_tree_eq parsed rfl, String.ofList_toList]
    · rw [heads, none] at isFirst
      cases isFirst

/-- A problem with options is reported too; the first report about nesting is about the third rule, which
the fixing run turns into a nesting at-rule first. -/
theorem fix_follows_lint_ancestor :
    ∃ s d m, Sheet.parse "b\x7b\x7da\x7b\x7dx a\x7bp:1\x7dx a b\x7b\x7d" = .ok s ∧
      (Linter.nestingReports { rules := [{}], problems := ["p"], enabled := some [nestingRule] }
        "b\x7b\x7da\x7b\x7dx a\x7bp:1\x7dx a b\x7b\x7d" "sheet.css").head? = some d ∧ d.node = some 3 ∧
      (recorded (Filter.accepts {}) s).2.head? = some m ∧ m.rule1 = 3 ∧ m.relation = .ancestor := by
  obtain ⟨s, parsed⟩ := Sheet.exists_sheet_of_accepted "b\x7b\x7da\x7b\x7dx a\x7bp:1\x7dx a b\x7b\x7d"
    (by decide +kernel)
  obtain ⟨-, -, -, first⟩ := fix_follows_lint
    { rules := [{}], problems := ["p"], enabled := some [nestingRule] } {} rfl (by decide) (by decide) parsed
    "sheet.css"
  have reported : ((Linter.nestingReports { rules := [{}], problems := ["p"], enabled := some [nestingRule] }
      "b\x7b\x7da\x7b\x7dx a\x7bp:1\x7dx a b\x7b\x7d" "sheet.css").head?.map fun d => (d.node, d.help)) =
        some (some 3, some Relation.ancestor.help) := by
    decide +kernel
  obtain ⟨d, isFirst, about⟩ := Option.map_eq_some_iff.mp reported
  obtain ⟨node, help⟩ := Prod.mk.inj about
  obtain ⟨m, entry, -, isNode, -, named⟩ := first d isFirst
  refine ⟨s, d, m, parsed, isFirst, node, entry, ?_, ((named .ancestor).mp help).symm⟩
  exact (Option.some.inj (node.symm.trans isNode)).symm

end Linter

end NestLint
