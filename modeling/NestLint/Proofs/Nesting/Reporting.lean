import NestLint.Proofs.Sheet.Visiting

/-!
What a reporting run says. Read off the sheet without any walk: each node is compared with the sibling
before it in six ways, and the first comparison that holds is reported. A reporting run leaves the sheet
as it is and reports exactly that, node by node in document order.
-/

namespace NestLint

namespace Session

theorem foldl_report (session : Session) (ds : List Diagnostic) :
    ds.foldl Session.report session =
      { session with
        diagnostics := session.diagnostics ++ ds
        tally := ds.foldl (fun tally d => tally.add d.severity) session.tally } := by
  induction ds generalizing session with
  | nil => simp
  | cons d rest ih => simp [ih, Session.report]

end Session

namespace Nesting

open Sheet

/-- The comparisons of a node with the sibling before it, the one that counts most first. -/
def comparisons (node prev : NodeId) : List Match :=
  [⟨.descendant, node, prev⟩, ⟨.descendant, prev, node⟩, ⟨.ancestor, node, prev⟩,
    ⟨.ancestor, prev, node⟩, ⟨.media, node, prev⟩, ⟨.media, prev, node⟩]

def Match.holds (accepts : Text → Bool) (s : Sheet) (m : Match) : Bool :=
  m.relation.holds accepts s m.rule1 m.rule2

/-- What is reported of a match, for the running rule and about the bytes of its first node. -/
def Match.diagnostic (m : Match) (s : Sheet) (session : Session) : Diagnostic where
  rule := session.rule
  severity := session.severity
  message := expectation s m.rule1 m.rule2
  start := ((s.source m.rule1).map fun span => span.start.offset).getD 0
  stop := ((s.source m.rule1).map fun span => span.stop.offset).getD 0
  node := some m.rule1
  help := some m.relation.help

/-- What there is to say about a node: the first comparison with the sibling before it that holds, when
both are rules or at-rules. -/
def finding? (accepts : Text → Bool) (s : Sheet) (session : Session) (node : NodeId) : Option Diagnostic :=
  match s.prev? node with
  | some prev =>
    if (s.kind node).isRuleLike ∧ (s.kind prev).isRuleLike then
      ((comparisons node prev).find? fun m => m.holds accepts s).map fun m => m.diagnostic s session
    else none
  | none => none

/-- What there is to say about a sheet, in document order. -/
def findings (accepts : Text → Bool) (s : Sheet) (session : Session) : List Diagnostic :=
  (s.descendants root).filterMap (finding? accepts s session)

variable {accepts : Text → Bool} {s : Sheet}

theorem findMatch_eq_find? (accepts : Text → Bool) (s : Sheet) (node prev : NodeId) :
    findMatch accepts s node prev = (comparisons node prev).find? fun m => m.holds accepts s := by
  have both : ∀ (relation : Relation) (later : List Match),
      ((⟨relation, node, prev⟩ :: ⟨relation, prev, node⟩ :: later : List Match).find?
          fun m => m.holds accepts s) =
        (if relation.holds accepts s node prev then some ⟨relation, node, prev⟩
          else if relation.holds accepts s prev node then some ⟨relation, prev, node⟩
          else none : Option Match).or (later.find? fun m => m.holds accepts s) := by
    intro relation later
    simp only [List.find?_cons, Match.holds]
    cases relation.holds accepts s node prev <;> cases relation.holds accepts s prev node <;> rfl
  rw [comparisons, both, both, both, findMatch, Relation.all]
  simp only [List.findSome?_cons, List.findSome?_nil, List.find?_nil, Option.or_none]
  generalize (if Relation.descendant.holds accepts s node prev then _ else _ : Option Match) = first
  generalize (if Relation.ancestor.holds accepts s node prev then _ else _ : Option Match) = second
  generalize (if Relation.media.holds accepts s node prev then _ else _ : Option Match) = third
  cases first <;> cases second <;> cases third <;> rfl

theorem matchAt_eq_none_iff (linked : s.Linked) {place node prev : NodeId} {front behind : List NodeId}
    (row : s.children place = front ++ prev :: node :: behind) :
    matchAt accepts s node = none ↔ (s.kind node).isRuleLike = true → (s.kind prev).isRuleLike = true →
      ∀ relation : Relation, relation.holds accepts s node prev = false ∧
        relation.holds accepts s prev node = false := by
  rw [matchAt, linked.prev?_of_row row, Option.bind_some, findMatch_eq_find?]
  have never : (comparisons node prev).find? (fun m => m.holds accepts s) = none ↔ ∀ relation : Relation,
      relation.holds accepts s node prev = false ∧ relation.holds accepts s prev node = false := by
    rw [List.find?_eq_none]
    constructor
    · intro never relation
      have forward := never ⟨relation, node, prev⟩ (by cases relation <;> simp [comparisons])
      have backward := never ⟨relation, prev, node⟩ (by cases relation <;> simp [comparisons])
      exact ⟨Bool.eq_false_iff.mpr forward, Bool.eq_false_iff.mpr backward⟩
    · intro never m listed
      simp only [comparisons, List.mem_cons, List.not_mem_nil, or_false] at listed
      rcases listed with rfl | rfl | rfl | rfl | rfl | rfl <;> simp [Match.holds, never]
  cases (s.kind node).isRuleLike <;> cases (s.kind prev).isRuleLike <;> simp [never]

theorem finding?_eq (accepts : Text → Bool) (s : Sheet) (session : Session) (node : NodeId) :
    finding? accepts s session node = (matchAt accepts s node).map fun m => m.diagnostic s session := by
  unfold finding? matchAt
  cases s.prev? node with
  | none => rfl
  | some prev =>
    simp only [Option.bind_some, ← findMatch_eq_find?, Bool.and_eq_true]
    split <;> rfl

theorem reportNode_eq (session : Session) (s : Sheet) (m : Match) :
    session.reportNode s m.rule1 (expectation s m.rule1 m.rule2) (some m.relation.help) =
      session.report (m.diagnostic s session) := by
  unfold Session.reportNode Session.extent Match.diagnostic
  cases s.source m.rule1 <;> rfl

theorem reportAt_eq (accepts : Text → Bool) (node : NodeId) (s : Sheet) (session : Session) :
    reportAt accepts node s session =
      (finding? accepts s session node).toList.foldl Session.report session := by
  rw [finding?_eq]
  unfold reportAt
  cases matchAt accepts s node with
  | none => rfl
  | some m => exact reportNode_eq session s m

theorem finding?_report (accepts : Text → Bool) (s : Sheet) {session session' : Session}
    (rule : session'.rule = session.rule) (severity : session'.severity = session.severity)
    (node : NodeId) : finding? accepts s session' node = finding? accepts s session node := by
  simp only [finding?_eq, Match.diagnostic, rule, severity]

theorem foldl_reportAt (accepts : Text → Bool) (s : Sheet) (session : Session) (nodes : List NodeId) :
    nodes.foldl (fun session node => reportAt accepts node s session) session =
      (nodes.filterMap (finding? accepts s session)).foldl Session.report session := by
  induction nodes generalizing session with
  | nil => rfl
  | cons node rest ih =>
    have same : finding? accepts s (reportAt accepts node s session) = finding? accepts s session := by
      funext other
      apply finding?_report <;> rw [reportAt_eq, Session.foldl_report]
    rw [List.foldl_cons, ih, same, reportAt_eq, List.filterMap_cons]
    cases finding? accepts s session node with
    | none => rfl
    | some d => rfl

/-- A reporting run changes nothing and reports all there is to say. -/
theorem check_of_report (accepts : Text → Bool) (formed : s.WellFormed) {session : Session}
    (reports : session.fix = false) :
    check accepts (s, session) = (s, (findings accepts s session).foldl Session.report session) := by
  have still : ∀ node cursors memory, Session.fix memory = false →
      visit accepts (stepBound s) node ({ s with cursors := cursors }, memory) =
        ({ s with cursors := cursors }, reportAt accepts node s memory) ∧
      Session.fix (reportAt accepts node s memory) = false := by
    intro node cursors memory quiet
    constructor
    · simp only [visit, quiet, Bool.false_eq_true, if_false]
      rfl
    · rw [reportAt_eq, Session.foldl_report]
      exact quiet
  have walked := formed.linked.walkSteps_still still s.cursors reports formed.workAll_le_stepBound
  rw [formed.linked.ahead_root, foldl_reportAt] at walked
  exact walked

end Nesting

namespace Rule

open Nesting

/-- A rule that runs and reports leaves the sheet as it is and adds what there is to say about it: going
through everything below the root in document order, of each node and the sibling before it the first
comparison that holds. -/
theorem check_eq_findings (rule : Rule) (runs : rule.action.runs = true) {s : Sheet} (formed : s.WellFormed)
    {session : Session} (reports : session.fix = false) :
    (rule.check (s, session)).1 = s ∧
      (rule.check (s, session)).2.diagnostics =
        session.diagnostics ++ findings rule.filter.accepts s session ∧
      (rule.check (s, session)).2 =
        (findings rule.filter.accepts s session).foldl Session.report session := by
  have ran : rule.check (s, session) =
      (s, (findings rule.filter.accepts s session).foldl Session.report session) := by
    rw [check, if_pos runs, check_of_report rule.filter.accepts formed reports]
  rw [ran, Session.foldl_report]
  exact ⟨rfl, rfl, rfl⟩

/-- All three relations, both ways round, in a sheet with nested rules; the run has reported before. -/
theorem check_eq_findings_all_relations :
    ∃ s, Sheet.parse "a\x7bb\x7b\x7db c\x7b\x7d\x7da d\x7b\x7dx a d\x7b\x7d@media m\x7bx a d\x7b\x7d\x7d" = .ok s ∧
      (({} : Rule).check (s, { diagnostics := [Linter.problem "p"], rule := nestingRule })).1 = s ∧
      ((({} : Rule).check
        (s, { diagnostics := [Linter.problem "p"], rule := nestingRule })).2.diagnostics.map
          fun d => (d.node, d.start, d.help)) =
        [(none, 0, none), (some 3, 5, some Relation.descendant.help), (some 4, 11, some Relation.descendant.help),
          (some 5, 16, some Relation.ancestor.help), (some 5, 16, some Relation.media.help)] := by
  obtain ⟨s, parsed⟩ := Sheet.exists_sheet_of_accepted
    "a\x7bb\x7b\x7db c\x7b\x7d\x7da d\x7b\x7dx a d\x7b\x7d@media m\x7bx a d\x7b\x7d\x7d" (by decide +kernel)
  obtain ⟨same, reported, -⟩ := check_eq_findings {} (by decide) (Sheet.laid_of_parse parsed).toWellFormed
    (show Session.fix { diagnostics := [Linter.problem "p"], rule := nestingRule } = false from rfl)
  refine ⟨s, parsed, same, ?_⟩
  have said : (Sheet.parse
      "a\x7bb\x7b\x7db c\x7b\x7d\x7da d\x7b\x7dx a d\x7b\x7d@media m\x7bx a d\x7b\x7d\x7d").toOption.map
        (fun s => (findings (Filter.accepts {}) s { rule := nestingRule }).map
          fun d => (d.node, d.start, d.help)) =
      some [(some 3, 5, some Relation.descendant.help), (some 4, 11, some Relation.descendant.help),
        (some 5, 16, some Relation.ancestor.help), (some 5, 16, some Relation.media.help)] := by
    decide +kernel
  rw [parsed] at said
  rw [reported, List.map_append]
  exact congrArg ([(none, 0, none)] ++ ·) (Option.some.inj said)

end Rule

end NestLint
