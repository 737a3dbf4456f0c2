import NestLint.Proofs.Nesting.Completeness
import NestLint.Proofs.Nesting.Progress
import NestLint.Proofs.Nesting.Reparse
import NestLint.Proofs.Nesting.Twins

/-!
Which texts a fixing run leaves alone. A run that reports and a run that fixes go over the same nodes
in the same order until they come to the first match. If there is none, the fixing run has changed
nothing; if there is one, it has rewritten the tree, and the tree never comes back. So fixing leaves a
sheet as it is exactly when there is nothing to report about it.

One run does not always get that far: a match can come about where the walk has already been. Where the
fixed text is read as the sheet that the run has left, a second run has nothing to do exactly when no node
of that sheet has a match any more, and this is so for every sheet of plain rules.
-/

namespace NestLint

namespace Nesting

open Sheet

variable {accepts : Text → Bool}

section reports

variable {fuel : Nat} {d : Diagnostic}

theorem mem_diagnostics_visit (node : NodeId) (s : Sheet) {session : Session}
    (listed : d ∈ session.diagnostics) :
    d ∈ (visit accepts fuel node (s, session)).2.diagnostics := by
  rw [visit]
  split
  · exact listed
  · rw [reportAt]
    split
    · exact List.mem_append_left _ listed
    · exact listed

theorem mem_diagnostics_walkStep (s : Sheet) {session : Session}
    (listed : d ∈ session.diagnostics) :
    d ∈ (walkStep (visit accepts fuel) (s, session)).2.diagnostics := by
  cases cursors : s.cursors with
  | nil =>
    rw [walkStep]
    simpa only [cursors] using listed
  | cons cursor outer =>
    cases next : (s.children cursor.container)[cursor.next]? with
    | none =>
      rw [walkStep_of_none _ session cursors next]
      exact listed
    | some child =>
      rw [walkStep_of_some _ session cursors next rfl]
      exact mem_diagnostics_visit child _ listed

theorem mem_diagnostics_walkSteps (base steps : Nat) (s : Sheet) {session : Session}
    (listed : d ∈ session.diagnostics) :
    d ∈ (walkSteps (visit accepts fuel) base steps (s, session)).2.diagnostics := by
  induction steps generalizing s session with
  | zero => exact listed
  | succ steps ih =>
    rw [walkSteps]
    split
    · exact listed
    · exact ih _ (mem_diagnostics_walkStep s listed)

end reports

/-- The reporting run has found nothing and the fixing run has changed nothing, or the one has reported
a match and the other has rewritten the tree. -/
def Agree (accepts : Text → Bool) (s : Sheet) (report : Session) (reported fixed : Sheet × Session) :
    Prop :=
  (reported.2 = report ∧ fixed.1.nodes = s.nodes) ∨
    (∃ d ∈ reported.2.diagnostics, d.rule = report.rule) ∧
      Relation.TransGen (Step accepts) (s.tree root) (fixed.1.tree root)

theorem Agree.of_nodes_eq {s s' : Sheet} {report : Session} {reported fixed : Sheet × Session}
    (agree : Agree accepts s' report reported fixed) (same : s'.nodes = s.nodes) :
    Agree accepts s report reported fixed := by
  rcases agree with ⟨quiet, unchanged⟩ | ⟨found, steps⟩
  · exact Or.inl ⟨quiet, unchanged.trans same⟩
  · exact Or.inr ⟨found, tree_of_nodes_eq same root ▸ steps⟩

section visits

variable {s : Sheet} {node : NodeId} {session : Session} {m : Match} (fuel : Nat)

theorem visit_of_no_match (none : matchAt accepts s node = none) :
    visit accepts (fuel + 1) node (s, session) = (s, session) := by
  simp [visit, settle, reportAt, none]

theorem exists_report_of_match (reports : session.fix = false) (found : matchAt accepts s node = some m) :
    ∃ d ∈ (visit accepts (fuel + 1) node (s, session)).2.diagnostics, d.rule = session.rule := by
  simp [visit, reports, reportAt, found, Session.reportNode, Session.report]

theorem steps_of_match (laid : s.Laid) (fixes : session.fix = true)
    (found : matchAt accepts s node = some m) {place : NodeId} (up : s.parent node = some place)
    (inside : s.Under place root) :
    (visit accepts (fuel + 1) node (s, session)).1.Laid ∧ Relation.TransGen (Step accepts) (s.tree root)
      ((visit accepts (fuel + 1) node (s, session)).1.tree root) := by
  obtain ⟨other, up', nested⟩ := nested_apply laid.toSpaced found
  have same : other = place := Option.some.inj (up'.symm.trans up)
  subst same
  have visited : (visit accepts (fuel + 1) node (s, session)).1 =
      settle accepts node fuel (m.apply s) := by
    simp [visit, fixes, settle, found]
  have later : Reaches accepts (m.apply s) (settle accepts node fuel (m.apply s)) :=
    reaches_settle (nested.laid laid) node fuel
  rw [visited]
  exact ⟨later.laid, Relation.TransGen.head' (nested.step laid.toSpaced inside) later.steps⟩

end visits

theorem agree_walkSteps {s : Sheet} (laid : s.Laid)
    (inside : ∀ cursor ∈ s.cursors, s.Under cursor.container root) {report fix : Session}
    (reports : report.fix = false) (fixes : fix.fix = true) (fuel base steps : Nat) :
    Agree accepts s report (walkSteps (visit accepts (fuel + 1)) base steps (s, report))
      (walkSteps (visit accepts (fuel + 1)) base steps (s, fix)) := by
  induction steps generalizing s with
  | zero => exact Or.inl ⟨rfl, rfl⟩
  | succ steps ih =>
    rw [walkSteps, walkSteps]
    by_cases finished : s.cursors.length ≤ base
    · rw [if_pos finished, if_pos finished]
      exact Or.inl ⟨rfl, rfl⟩
    rw [if_neg finished, if_neg finished]
    cases cursors : s.cursors with
    | nil => exact absurd (by rw [cursors]; exact Nat.zero_le base) finished
    | cons cursor outer =>
      have within : ∀ other ∈ cursor :: outer, s.Under other.container root := cursors ▸ inside
      cases next : (s.children cursor.container)[cursor.next]? with
      | none =>
        rw [walkStep_of_none _ report cursors next, walkStep_of_none _ fix cursors next]
        have left : ({ s with cursors := outer } : Sheet).Laid := laid.of_nodes_eq rfl
        exact (ih left fun other listed => within other (List.mem_cons_of_mem _ listed)).of_nodes_eq rfl
      | some child =>
        have up := laid.linked.parent_of_mem (List.mem_of_getElem? next)
        have place := within cursor List.mem_cons_self
        rw [walkStep_of_some _ report cursors next rfl, walkStep_of_some _ fix cursors next rfl]
        generalize moved : ({ s with cursors := { cursor with next := cursor.next + 1 } :: outer } : Sheet) =
          s₁
        have same : s₁.nodes = s.nodes := by rw [← moved]
        have laid₁ : s₁.Laid := laid.of_nodes_eq same
        have up₁ : s₁.parent child = some cursor.container := by
          rw [← up, ← moved]
          rfl
        have place₁ := (under_of_nodes_eq same cursor.container root).mpr place
        cases found : matchAt accepts s₁ child with
        | none =>
          -- Nothing happens at this node in either run, so both go on from the same sheet.
          rw [visit_of_no_match fuel found, visit_of_no_match fuel found]
          have kept := nodes_enter_unless s₁ child
          refine (ih (laid₁.of_nodes_eq kept) fun other listed => ?_).of_nodes_eq (kept.trans same)
          rw [under_of_nodes_eq kept, under_of_nodes_eq same]
          rcases mem_cursors_enter_unless listed with isChild | opened
          · rw [isChild]
            exact place.step up
          · rw [← moved] at opened
            rcases List.mem_cons.mp opened with rfl | isOuter
            · exact place
            · exact within other (List.mem_cons_of_mem _ isOuter)
        | some m =>
          right
          constructor
          · obtain ⟨d, listed, named⟩ := exists_report_of_match fuel reports found
            exact ⟨d, mem_diagnostics_walkSteps base steps _ listed, named⟩
          · obtain ⟨laid₂, rewritten⟩ := steps_of_match fuel laid₁ fixes found up₁ place₁
            have kept := nodes_enter_unless (visit accepts (fuel + 1) child (s₁, fix)).1 child
            have later : Reaches accepts _ _ := reaches_walkSteps (laid₂.of_nodes_eq kept) (fuel + 1) base steps
              (visit accepts (fuel + 1) child (s₁, fix)).2
            rw [← tree_of_nodes_eq same]
            have onward := later.steps
            rw [tree_of_nodes_eq kept] at onward
            exact rewritten.trans_left onward

theorem agree_check {s : Sheet} (laid : s.Laid) (closed : s.cursors = []) {report fix : Session}
    (reports : report.fix = false) (fixes : fix.fix = true) :
    Agree accepts s report (check accepts (s, report)) (check accepts (s, fix)) := by
  obtain ⟨fuel, enough⟩ : ∃ fuel, stepBound s = fuel + 1 :=
    Nat.exists_eq_add_one.mpr (Nat.pow_pos (Nat.succ_pos _))
  have opened : (s.enter root).Laid := laid.of_nodes_eq rfl
  have inside : ∀ cursor ∈ (s.enter root).cursors, (s.enter root).Under cursor.container root := by
    intro cursor listed
    rw [enter, closed] at listed
    rw [List.mem_singleton.mp listed]
    exact under_refl _ root
  simp only [check, walk, enough]
  exact (agree_walkSteps opened inside reports fixes fuel s.cursors.length (fuel + 1)).of_nodes_eq rfl

end Nesting

namespace Linter

def Quiet (linter : Linter) (text filename : String) : Prop :=
  ∀ d ∈ (linter.lint text filename).diagnostics, d.rule ≠ nestingRule

instance (linter : Linter) (text filename : String) : Decidable (linter.Quiet text filename) :=
  inferInstanceAs (Decidable (∀ d ∈ (linter.lint text filename).diagnostics, d.rule ≠ nestingRule))

/-- Fixing leaves the tree of a text as it has been read. -/
def Leaves (linter : Linter) (text : String) : Prop :=
  (linter.run text true).1.map (fun s => s.tree Sheet.root) =
    (Sheet.parse text).toOption.map fun s => s.tree Sheet.root

variable (rule : Rule) (text filename : String)

theorem run_single_of_error {e : ParseError} (failed : Sheet.parse text = .error e) (fix : Bool) :
    (single rule).run text fix = (none, ({ fix := fix } : Session).report (unreadable e)) := by
  simp [run, single, failed]

theorem run_single_of_ok {s : Sheet} (parsed : Sheet.parse text = .ok s) (fix : Bool) :
    (single rule).run text fix =
      (some (rule.check (s, { fix := fix, rule := nestingRule, severity := rule.severity })).1,
        (rule.check (s, { fix := fix, rule := nestingRule, severity := rule.severity })).2) := by
  simp [run, single, parsed, runRule, Session.allows, Session.enter, Rule.name]

/-- Fixing leaves a text as it is exactly when there is nothing to report about it. -/
theorem leaves_iff_quiet : (single rule).Leaves text ↔ (single rule).Quiet text filename := by
  unfold Leaves Quiet lint resultOf
  cases parsed : Sheet.parse text with
  | error e =>
    rw [run_single_of_error rule text parsed, run_single_of_error rule text parsed]
    have named : ∀ d ∈ (({} : Session).report (unreadable e)).diagnostics, d.rule ≠ nestingRule := by
      simp [Session.report, unreadable, syntaxError, nestingRule]
    exact ⟨fun _ => named, fun _ => rfl⟩
  | ok s =>
    have laid := Sheet.laid_of_parse parsed
    have closed : s.cursors = [] := by
      obtain ⟨t, -, rfl⟩ := Sheet.exists_tree_of_parse parsed
      rfl
    rw [run_single_of_ok rule text parsed, run_single_of_ok rule text parsed]
    simp only [Except.toOption, Option.map_some, Option.some.injEq, Rule.check]
    split
    next runs =>
      have agree : Nesting.Agree rule.filter.accepts s
          { fix := false, rule := nestingRule, severity := rule.severity } _ _ :=
        Nesting.agree_check laid closed rfl
          (rfl : Session.fix { fix := true, rule := nestingRule, severity := rule.severity } = true)
      rcases agree with ⟨quiet, same⟩ | ⟨⟨d, listed, named⟩, steps⟩
      · refine ⟨fun _ => ?_, fun _ => Sheet.tree_of_nodes_eq same _⟩
        rw [quiet]
        simp
      · exact ⟨fun same => absurd same (Nesting.ne_of_steps steps),
          fun quiet => absurd named (quiet d listed)⟩
    next => simp

theorem output_of_leaves (leaves : (single rule).Leaves text) :
    ((single rule).fix text filename).output = text := by
  unfold Leaves at leaves
  cases parsed : Sheet.parse text with
  | error e => rw [fix, run_single_of_error rule text parsed]; rfl
  | ok s =>
    rw [run_single_of_ok rule text parsed, parsed] at leaves
    simp only [Except.toOption, Option.map_some, Option.some.injEq] at leaves
    simp only [fix, run_single_of_ok rule text parsed, Option.map_some, Option.getD_some, Sheet.css,
      Sheet.nodeCss_of_tree_eq parsed leaves, String.ofList_toList]

theorem quiet_iff_finished {s : Sheet} (parsed : Sheet.parse text = .ok s) :
    (single rule).Quiet text filename ↔
      (rule.action.runs = true → Nesting.Finished rule.filter.accepts s) := by
  unfold Quiet lint resultOf
  rw [run_single_of_ok rule text parsed]
  by_cases runs : rule.action.runs = true
  · obtain ⟨-, reported, -⟩ := rule.check_eq_findings runs (Sheet.laid_of_parse parsed).toWellFormed
      (show Session.fix { fix := false, rule := nestingRule, severity := rule.severity } = false from rfl)
    simp only [reported, List.nil_append, runs, forall_const]
    constructor
    · intro quiet node listed
      by_contra found
      obtain ⟨m, isMatch⟩ := Option.ne_none_iff_exists'.mp found
      refine quiet (m.diagnostic s { fix := false, rule := nestingRule, severity := rule.severity })
        (List.mem_filterMap.mpr ⟨node, listed, ?_⟩) rfl
      rw [Nesting.finding?_eq, isMatch, Option.map_some]
    · intro finished d said
      obtain ⟨node, listed, isFinding⟩ := List.mem_filterMap.mp said
      rw [Nesting.finding?_eq, finished node listed] at isFinding
      cases isFinding
  · simp [Rule.check, runs]

theorem finished_of_shallow {s : Sheet} (parsed : Sheet.parse text = .ok s) (shallow : s.Shallow)
    (runs : rule.action.runs = true) {session : Session} (fixes : session.fix = true) :
    Nesting.Finished rule.filter.accepts (rule.check (s, session)).1 := by
  intro node _
  have linked := (rule.reaches_check (Sheet.laid_of_parse parsed) session).laid.linked
  cases isPrev : (rule.check (s, session)).1.prev? node with
  | none => rw [Nesting.matchAt, isPrev, Option.bind_none]
  | some prev =>
    obtain ⟨place, front, behind, -, row⟩ := Sheet.row_of_prev? isPrev
    exact (Nesting.matchAt_eq_none_iff linked row).mpr fun _ _ =>
      rule.check_complete parsed shallow runs fixes isPrev

theorem quiet_fix_iff_finished {s s' : Sheet} (parsed : Sheet.parse text = .ok s)
    (left : ((single rule).run text true).1 = some s') (escape : '\\' ∉ text.toList) (unquoted : s.Unquoted) :
    (single rule).Quiet ((single rule).fix text filename).output filename ↔
      (rule.action.runs = true → Nesting.Finished rule.filter.accepts s') := by
  have output : ((single rule).fix text filename).output = s'.css := by
    simp only [fix, left, Option.map_some, Option.getD_some]
  rw [run_single_of_ok rule text parsed, Option.some.injEq] at left
  subst left
  obtain ⟨u, read, kinds⟩ := rule.parse_css_check parsed escape unquoted
    { fix := true, rule := nestingRule, severity := rule.severity }
  have linked := (rule.reaches_check (Sheet.laid_of_parse parsed)
    { fix := true, rule := nestingRule, severity := rule.severity }).laid.linked
  have linked' := (Sheet.laid_of_parse read).linked
  rw [output, quiet_iff_finished rule _ filename read]
  exact ⟨fun finished runs => (finished runs).of_kinds_eq linked' linked kinds,
    fun finished runs => (finished runs).of_kinds_eq linked linked' kinds.symm⟩

/-- Fixing what has been fixed. The second run leaves the output as it is when nothing is reported about
it, and only then: where there is something to report, it rewrites the tree once more. For a source without
escapes, and with no quotes, brackets or slashes in its selectors, that is when the first run has left no match
behind; and it leaves none where no at-rule has a block, no rules are nested, and no selector has a comma or an
ampersand. -/
theorem fix_fix (rule : Rule) (source filename : String) :
    ((single rule).Leaves ((single rule).fix source filename).output ↔
        (single rule).Quiet ((single rule).fix source filename).output filename) ∧
      ((single rule).Quiet ((single rule).fix source filename).output filename →
        ((single rule).fix ((single rule).fix source filename).output filename).output =
          ((single rule).fix source filename).output) ∧
      ∀ s s', Sheet.parse source = .ok s → ((single rule).run source true).1 = some s' →
        '\\' ∉ source.toList → s.Unquoted →
        ((single rule).Quiet ((single rule).fix source filename).output filename ↔
          (rule.action.runs = true → Nesting.Finished rule.filter.accepts s')) ∧
        (s.Shallow → ((single rule).fix ((single rule).fix source filename).output filename).output =
          ((single rule).fix source filename).output) := by
  have settles : (single rule).Quiet ((single rule).fix source filename).output filename →
      ((single rule).fix ((single rule).fix source filename).output filename).output =
        ((single rule).fix source filename).output := fun quiet =>
    output_of_leaves rule _ filename ((leaves_iff_quiet rule _ filename).mpr quiet)
  refine ⟨leaves_iff_quiet rule _ filename, settles, fun s s' parsed left escape unquoted => ?_⟩
  have exactly := quiet_fix_iff_finished rule source filename parsed left escape unquoted
  refine ⟨exactly, fun shallow => settles (exactly.mpr fun runs => ?_)⟩
  rw [run_single_of_ok rule source parsed, Option.some.injEq] at left
  rw [← left]
  exact finished_of_shallow rule source parsed shallow runs rfl

/-- One run moves a rule into its neighbour, and there is nothing left to do. -/
theorem fix_fix_settled :
    ∃ s, Sheet.parse "a\x7bp:1\x7da b\x7bq:2\x7d" = .ok s ∧ s.Unquoted ∧ s.Shallow ∧
      (single {}).Quiet ((single {}).fix "a\x7bp:1\x7da b\x7bq:2\x7d" "sheet.css").output "sheet.css" ∧
      ((single {}).fix ((single {}).fix "a\x7bp:1\x7da b\x7bq:2\x7d" "sheet.css").output
        "sheet.css").output = ((single {}).fix "a\x7bp:1\x7da b\x7bq:2\x7d" "sheet.css").output := by
  have accepted : ((Sheet.parse "a\x7bp:1\x7da b\x7bq:2\x7d").toOption.any fun s =>
      decide (s.Unquoted ∧ s.Shallow)) = true := by decide +kernel
  have quiet : (single {}).Quiet
      ((single {}).fix "a\x7bp:1\x7da b\x7bq:2\x7d" "sheet.css").output "sheet.css" := by
    decide +kernel
  cases parsed : Sheet.parse "a\x7bp:1\x7da b\x7bq:2\x7d" with
  | error e => simp [parsed, Except.toOption] at accepted
  | ok s =>
    rw [parsed, Except.toOption, Option.any_some, decide_eq_true_eq] at accepted
    obtain ⟨unquoted, shallow⟩ := accepted
    obtain ⟨-, -, settles⟩ := fix_fix {} "a\x7bp:1\x7da b\x7bq:2\x7d" "sheet.css"
    have left := congrArg Prod.fst (run_single_of_ok {} _ parsed true)
    exact ⟨s, rfl, unquoted, shallow, quiet,
      (settles s _ parsed left (by decide +kernel) unquoted).2 shallow⟩

/-- The first run changes the first rule of a media block after it has been compared with the rule
before the block, so the block is collapsed by a second run only. -/
theorem fix_fix_media :
    (Sheet.parse "b\x7bp:1\x7d@media\x7bb c\x7b\x7db\x7b\x7d\x7d").toOption.isSome = true ∧
      ((single {}).fix ((single {}).fix "b\x7bp:1\x7d@media\x7bb c\x7b\x7db\x7b\x7d\x7d"
        "sheet.css").output "sheet.css").output ≠
          ((single {}).fix "b\x7bp:1\x7d@media\x7bb c\x7b\x7db\x7b\x7d\x7d" "sheet.css").output := by
  decide +kernel

end Linter

end NestLint
