import NestLint.Proofs.Nesting.Recording

/-!
What a linter says about a source, rule by rule. The rules of a linter share one sheet and one session. A
rule that reports leaves the sheet as it was read, and what it adds to the session depends on its own name
and severity only; a rule that fixes adds nothing to the session, and the sheet that it leaves is well-formed
for the next one. So a run is put together from the problems with options and what each rule would report
by itself, and the counts of a session are always those of its list.
-/

namespace NestLint

namespace Tally

def of (ds : List Diagnostic) : Tally :=
  ⟨ds.countP fun d => d.severity == .error, ds.countP fun d => d.severity == .warning⟩

theorem merge_of_append (t : Tally) (ds later : List Diagnostic) :
    t.merge (of (ds ++ later)) = (t.merge (of ds)).merge (of later) := by
  simp only [of, merge, List.countP_append, Nat.add_assoc]

theorem foldl_add (t : Tally) (ds : List Diagnostic) :
    ds.foldl (fun tally d => tally.add d.severity) t = t.merge (of ds) := by
  induction ds generalizing t with
  | nil => rfl
  | cons d rest ih =>
    rw [List.foldl_cons, ih, ← List.singleton_append, merge_of_append]
    congr 1
    unfold add of merge
    cases severe : d.severity <;> simp [severe]

end Tally

namespace Session

/-- The second session is the first one with some more reported, whichever rule is running. -/
structure Adds (session : Session) (ds : List Diagnostic) (session' : Session) : Prop where
  fix : session'.fix = session.fix
  enabled : session'.enabled = session.enabled
  diagnostics : session'.diagnostics = session.diagnostics ++ ds
  tally : session'.tally = session.tally.merge (Tally.of ds)

variable {session session' session'' : Session} {ds later : List Diagnostic}

theorem Adds.refl (session : Session) : session.Adds [] session :=
  ⟨rfl, rfl, (List.append_nil _).symm, rfl⟩

theorem Adds.trans (first : session.Adds ds session') (second : session'.Adds later session'') :
    session.Adds (ds ++ later) session'' where
  fix := second.fix.trans first.fix
  enabled := second.enabled.trans first.enabled
  diagnostics := by rw [second.diagnostics, first.diagnostics, List.append_assoc]
  tally := by rw [second.tally, first.tally, Tally.merge_of_append]

theorem adds_foldl_report (session : Session) (ds : List Diagnostic) :
    session.Adds ds (ds.foldl Session.report session) := by
  rw [foldl_report]
  exact ⟨rfl, rfl, rfl, Tally.foldl_add session.tally ds⟩

theorem adds_enter (session : Session) (rule : String) (severity : Severity) :
    session.Adds [] (session.enter rule severity) := ⟨rfl, rfl, (List.append_nil _).symm, rfl⟩

end Session

namespace Rule

open Nesting

def report (rule : Rule) (s : Sheet) : List Diagnostic :=
  (rule.check (s, { rule := rule.name, severity := rule.severity })).2.diagnostics

variable (rule : Rule) {s : Sheet}

theorem report_eq (formed : s.WellFormed) :
    rule.report s = if rule.action.runs then
      findings rule.filter.accepts s { rule := rule.name, severity := rule.severity } else [] := by
  rw [report, check]
  split
  next =>
    rw [check_of_report rule.filter.accepts formed rfl, Session.foldl_report]
    exact List.nil_append _
  next => rfl

theorem of_mem_report (formed : s.WellFormed) {d : Diagnostic} (listed : d ∈ rule.report s) :
    d.rule = nestingRule ∧ d.severity = rule.severity := by
  rw [rule.report_eq formed] at listed
  split at listed
  next =>
    rw [findings_eq_map] at listed
    obtain ⟨m, -, rfl⟩ := List.mem_map.mp listed
    exact ⟨rfl, rfl⟩
  next => cases listed

theorem adds_check_of_report (formed : s.WellFormed) {session : Session} (reports : session.fix = false) :
    (rule.check (s, session.enter rule.name rule.severity)).1 = s ∧
      session.Adds (rule.report s) (rule.check (s, session.enter rule.name rule.severity)).2 := by
  have entered := session.adds_enter rule.name rule.severity
  rw [rule.report_eq formed, check]
  split
  next =>
    have quiet : (session.enter rule.name rule.severity).fix = false := reports
    have same : findings rule.filter.accepts s (session.enter rule.name rule.severity) =
        findings rule.filter.accepts s { rule := rule.name, severity := rule.severity } := by
      unfold findings
      exact congrArg₂ _ (funext (finding?_report rule.filter.accepts s rfl rfl)) rfl
    rw [check_of_report rule.filter.accepts formed quiet, same]
    exact ⟨rfl, entered.trans (Session.adds_foldl_report _ _)⟩
  next => exact ⟨rfl, entered⟩

theorem check_snd_of_fix (formed : s.WellFormed) {session : Session} (fixes : session.fix = true) :
    (rule.check (s, session)).2 = session := by
  rw [check]
  split
  next =>
    obtain ⟨-, s', ends, -⟩ := walks_check rule.filter.accepts formed fixes
    rw [ends]
  next => rfl

end Rule

namespace Linter

def mayRun (linter : Linter) (rule : Rule) : Bool := linter.enabled.all fun names => names.contains rule.name

/-- What the rules of a linter say about a source: that it cannot be read, or else what each rule that may
run reports about the sheet as it has been read. -/
def verdict (linter : Linter) (source : String) : List Diagnostic :=
  match Sheet.parse source with
  | .error e => [unreadable e]
  | .ok s => (linter.rules.filter linter.mayRun).flatMap fun rule => rule.report s

variable {s : Sheet} {session : Session}

theorem allows_eq (linter : Linter) (same : session.enabled = linter.enabled) (rule : Rule) :
    session.allows rule.name = linter.mayRun rule := by
  rw [Session.allows, mayRun, same]
  cases linter.enabled <;> rfl

theorem adds_rules_of_report (linter : Linter) (formed : s.WellFormed) (reports : session.fix = false)
    (same : session.enabled = linter.enabled) (rules : List Rule) :
    session.Adds ((rules.filter linter.mayRun).flatMap fun rule => rule.report s)
      (rules.foldl runRule (s, session)).2 := by
  induction rules generalizing session with
  | nil => exact .refl session
  | cons rule rest ih =>
    rw [List.foldl_cons, runRule, linter.allows_eq same rule]
    cases may : linter.mayRun rule with
    | false =>
      rw [List.filter_cons_of_neg (by simp [may])]
      exact ih reports same
    | true =>
      obtain ⟨still, adds⟩ := rule.adds_check_of_report formed reports
      have later := ih (adds.fix.trans reports) (adds.enabled.trans same)
      rw [List.filter_cons_of_pos may, List.flatMap_cons]
      simp only [if_true]
      rw [← Prod.eta (rule.check _), still]
      exact adds.trans later

theorem adds_rules_of_fix (formed : s.WellFormed) (fixes : session.fix = true) (rules : List Rule) :
    session.Adds [] (rules.foldl runRule (s, session)).2 := by
  induction rules generalizing s session with
  | nil => exact .refl session
  | cons rule rest ih =>
    rw [List.foldl_cons, runRule]
    split
    next =>
      have entered := session.adds_enter rule.name rule.severity
      have still : (rule.check (s, session.enter rule.name rule.severity)).2 =
          session.enter rule.name rule.severity := rule.check_snd_of_fix formed fixes
      rw [← Prod.eta (rule.check _), still]
      exact entered.trans (ih (rule.wellFormed_check formed _) fixes)
    next => exact ih formed fixes

theorem adds_problems (linter : Linter) (fix : Bool) :
    Session.Adds { fix := fix, enabled := linter.enabled } (linter.problems.map problem)
      (linter.problems.foldl (fun session message => session.report (problem message))
        { fix := fix, enabled := linter.enabled }) := by
  rw [← List.foldl_map (f := problem) (g := Session.report)]
  exact Session.adds_foldl_report _ _

theorem adds_run_of_report (linter : Linter) (source : String) :
    Session.Adds { enabled := linter.enabled } (linter.problems.map problem ++ linter.verdict source)
      (linter.run source false).2 := by
  have begun := linter.adds_problems false
  unfold run verdict
  cases parsed : Sheet.parse source with
  | error e => exact begun.trans (Session.adds_foldl_report _ [unreadable e])
  | ok s =>
    exact begun.trans (linter.adds_rules_of_report (Sheet.laid_of_parse parsed).toWellFormed begun.fix
      begun.enabled linter.rules)

theorem ne_nestingRule : invalidOption ≠ nestingRule ∧ syntaxError ≠ nestingRule := by decide

theorem filter_not_unreadable (e : ParseError) :
    [unreadable e].filter (fun d => d.rule != nestingRule) = [unreadable e] :=
  List.filter_cons_of_pos (bne_iff_ne.mpr ne_nestingRule.2)

theorem filter_not_problems (messages : List String) :
    (messages.map problem).filter (fun d => d.rule != nestingRule) = messages.map problem := by
  rw [List.filter_eq_self]
  intro d listed
  obtain ⟨message, -, rfl⟩ := List.mem_map.mp listed
  exact bne_iff_ne.mpr ne_nestingRule.1

theorem filter_not_reports (formed : s.WellFormed) (rules : List Rule) :
    (rules.flatMap fun rule => rule.report s).filter (fun d => d.rule != nestingRule) = [] := by
  rw [List.filter_eq_nil_iff]
  intro d listed
  obtain ⟨rule, -, reported⟩ := List.mem_flatMap.mp listed
  simp [(rule.of_mem_report formed reported).1]

theorem adds_run_of_fix (linter : Linter) (source : String) :
    Session.Adds { fix := true, enabled := linter.enabled }
      (linter.problems.map problem ++ (linter.verdict source).filter fun d => d.rule != nestingRule)
      (linter.run source true).2 := by
  have begun := linter.adds_problems true
  unfold run verdict
  cases parsed : Sheet.parse source with
  | error e =>
    rw [filter_not_unreadable]
    exact begun.trans (Session.adds_foldl_report _ [unreadable e])
  | ok s =>
    have formed := (Sheet.laid_of_parse parsed).toWellFormed
    rw [filter_not_reports formed]
    exact begun.trans (adds_rules_of_fix formed begun.fix linter.rules)

theorem counted_of_adds {fix : Bool} {enabled : Option (List String)} {ds : List Diagnostic}
    (adds : Session.Adds { fix := fix, enabled := enabled } ds session) :
    session.diagnostics = ds ∧ session.tally = Tally.of session.diagnostics := by
  have whole : session.diagnostics = ds := adds.diagnostics.trans (List.nil_append ds)
  refine ⟨whole, adds.tally.trans ?_⟩
  simp only [whole, Tally.merge, Tally.of, Nat.zero_add]

theorem foldl_merge (t : Tally) (results : List LintResult) :
    results.foldl (fun tally result => tally.merge result.tally) t =
      ⟨t.errors + (results.map fun result => result.tally.errors).sum,
        t.warnings + (results.map fun result => result.tally.warnings).sum⟩ := by
  induction results generalizing t with
  | nil => rfl
  | cons result rest ih =>
    rw [List.foldl_cons, ih, List.map_cons, List.map_cons, List.sum_cons, List.sum_cons]
    simp only [Tally.merge, Nat.add_assoc]

/-- What a linter says about a source. A run that reports lists the problems with options, and then that
the source cannot be read, or what each rule that may run reports by itself about the sheet as it has been
read, under its own severity and in the order of the rules. A run that fixes lists the same but for what
is about nesting, and a source that cannot be read stays as it is. Both count what they list, and the
summary of several files adds up the counts of each. -/
theorem runs_decompose (linter : Linter) (source filename : String) (files : List (String × String)) :
    (linter.lint source filename).diagnostics = linter.problems.map problem ++ linter.verdict source ∧
      (∀ s, Sheet.parse source = .ok s → ∀ rule ∈ linter.rules, ∀ d ∈ rule.report s,
        d.rule = nestingRule ∧ d.severity = rule.severity) ∧
      (linter.fix source filename).result.diagnostics =
        (linter.lint source filename).diagnostics.filter (fun d => d.rule != nestingRule) ∧
      (∀ e, Sheet.parse source = .error e → (linter.fix source filename).output = source) ∧
      (∀ result ∈ [linter.lint source filename, (linter.fix source filename).result], result.tally =
        { errors := result.diagnostics.countP fun d => d.severity == .error
          warnings := result.diagnostics.countP fun d => d.severity == .warning }) ∧
      (linter.lintFiles files).1 = files.map (fun file => linter.lint file.2 file.1) ∧
      (linter.lintFiles files).2 =
        { errors := (files.map fun file => (linter.lint file.2 file.1).tally.errors).sum
          warnings := (files.map fun file => (linter.lint file.2 file.1).tally.warnings).sum
          files := files.length } := by
  obtain ⟨listed, counted⟩ := counted_of_adds (linter.adds_run_of_report source)
  obtain ⟨listed', counted'⟩ := counted_of_adds (linter.adds_run_of_fix source)
  refine ⟨listed, fun s parsed rule _ d said => ?_, ?_, fun e failed => ?_, fun result either => ?_, rfl, ?_⟩
  · exact rule.of_mem_report (Sheet.laid_of_parse parsed).toWellFormed said
  · change (linter.run source true).2.diagnostics = (linter.run source false).2.diagnostics.filter _
    rw [listed', listed, List.filter_append, filter_not_problems]
  · simp [fix, run, failed]
  · simp only [List.mem_cons, List.not_mem_nil, or_false] at either
    rcases either with rfl | rfl
    · exact counted
    · exact counted'
  · rw [lintFiles]
    simp only [foldl_merge, List.map_map, Nat.zero_add]
    rfl

end Linter

end NestLint
