import NestLint.Pattern.Read
import NestLint.Proofs.Lint.Runs

/-!
What a setting makes of a linter. The first option is looked at first: values that keep the rule from running
leave a linter without rules, whatever the other options are. A value that is none of the known ones, or
options that are no filter, leave a linter that has one problem to report and changes nothing. Only with a
value that lets the rule run and options that are a filter is there a rule, and then the linter is the one
that runs this rule.
-/

namespace NestLint

namespace Action

def offValues : List Json := [.string "ignore", .bool false, .null]

def onValues : List Json := [.string "always", .bool true]

theorem ofJson_of_off (rule : String) {value : Json} (off : value ∈ offValues) :
    ∃ action : Action, ofJson rule value = .ok action ∧ action.runs = false := by
  simp only [offValues, List.mem_cons, List.not_mem_nil, or_false] at off
  rcases off with rfl | rfl | rfl
  · exact ⟨.ignore, rfl, rfl⟩
  · exact ⟨.enabled false, rfl, rfl⟩
  · exact ⟨.null, rfl, rfl⟩

theorem ofJson_of_on (rule : String) {value : Json} (on : value ∈ onValues) :
    ∃ action : Action, ofJson rule value = .ok action ∧ action.runs = true := by
  simp only [onValues, List.mem_cons, List.not_mem_nil, or_false] at on
  rcases on with rfl | rfl
  · exact ⟨.always, rfl, rfl⟩
  · exact ⟨.enabled true, rfl, rfl⟩

theorem ofJson_of_unknown (rule : String) {value : Json} (notOff : value ∉ offValues)
    (notOn : value ∉ onValues) : ofJson rule value = .error (.invalidAction rule value.display) := by
  unfold ofJson
  split
  · exact absurd (by simp [onValues]) notOn
  · exact absurd (by simp [offValues]) notOff
  next on =>
    cases on
    · exact absurd (by simp [offValues]) notOff
    · exact absurd (by simp [onValues]) notOn
  · exact absurd (by simp [offValues]) notOff
  · rfl

end Action

namespace Setting

def written (setting : Setting) : Json :=
  match setting.severity with
  | none => .array [setting.action, setting.options]
  | some severity =>
    .array [setting.action, setting.options, .object [("severity", .string severity.name)]]

theorem ofJson_written (rule : String) (setting : Setting) : ofJson rule setting.written = .ok setting := by
  obtain ⟨action, options, severity⟩ := setting
  cases severity with
  | none => rfl
  | some severity => cases severity <;> simp [written, ofJson, Severity.ofOption, Severity.ofJson?, Json.get?,
      Severity.name, Except.map]

/-- What is wrong with the options of the nesting rule: the first is none of those that are known, or it lets
the rule run and the second is no filter. -/
def Faulty (engine : Pattern.Engine) (setting : Setting) (e : ConfigError) : Prop :=
  (setting.action ∉ Action.offValues ∧ setting.action ∉ Action.onValues ∧
      e = .invalidAction nestingRule setting.action.display) ∨
    (setting.action ∈ Action.onValues ∧ Filter.ofJson engine nestingRule setting.options = .error e)

end Setting

namespace Rule

variable {engine : Pattern.Engine} {setting : Setting}

theorem build_of_off (off : setting.action ∈ Action.offValues) : build engine nestingRule setting = .ok none := by
  obtain ⟨action, read, still⟩ := Action.ofJson_of_off nestingRule off
  simp [build, read, still]

theorem build_of_faulty {e : ConfigError} (faulty : setting.Faulty engine e) : build engine nestingRule setting = .error e := by
  rcases faulty with ⟨notOff, notOn, rfl⟩ | ⟨on, refused⟩
  · simp [build, Action.ofJson_of_unknown nestingRule notOff notOn]
  · obtain ⟨action, read, runs⟩ := Action.ofJson_of_on nestingRule on
    simp [build, read, runs, refused]

theorem build_of_on {action : Action} {filter : Filter}
    (read : Action.ofJson nestingRule setting.action = .ok action) (runs : action.runs = true)
    (accepted : Filter.ofJson engine nestingRule setting.options = .ok filter) :
    build engine nestingRule setting =
      .ok (some ⟨action, filter, setting.severity.getD defaultSeverity⟩) := by
  simp [build, read, runs, accepted]

end Rule

theorem Config.ofRules_of_read {value : Json} {setting : Setting}
    (read : Setting.ofJson nestingRule value = .ok setting) :
    Config.ofRules [(nestingRule, value)] = .ok ⟨[(nestingRule, setting)]⟩ := by
  simp [Config.ofRules, Config.settings, knownRules, read, Except.map]

namespace Linter

section built

variable {engine : Pattern.Engine} {setting : Setting}

theorem ofConfig_of_off (off : setting.action ∈ Action.offValues) :
    ofConfig engine ⟨[(nestingRule, setting)]⟩ = {} := by
  simp [ofConfig, addSetting, Rule.build_of_off off]

theorem ofConfig_of_faulty {e : ConfigError} (faulty : setting.Faulty engine e) :
    ofConfig engine ⟨[(nestingRule, setting)]⟩ = { problems := [e.message] } := by
  simp [ofConfig, addSetting, Rule.build_of_faulty faulty]

theorem ofConfig_of_on {action : Action} {filter : Filter}
    (read : Action.ofJson nestingRule setting.action = .ok action) (runs : action.runs = true)
    (accepted : Filter.ofJson engine nestingRule setting.options = .ok filter) :
    ofConfig engine ⟨[(nestingRule, setting)]⟩ =
      single ⟨action, filter, setting.severity.getD Rule.defaultSeverity⟩ := by
  simp [ofConfig, addSetting, single, Rule.build_of_on read runs accepted]

end built

theorem runs_of_no_rules (linter : Linter) (empty : linter.rules = []) (source filename : String) :
    ∃ rest : List Diagnostic, (∀ d ∈ rest, d.rule = syntaxError) ∧
      (∀ result ∈ [linter.lint source filename, (linter.fix source filename).result],
        result.diagnostics = linter.problems.map problem ++ rest) ∧
      (linter.fix source filename).output = source := by
  have listed := (counted_of_adds (linter.adds_run_of_report source)).1
  have listed' := (counted_of_adds (linter.adds_run_of_fix source)).1
  have rest : ∀ d ∈ linter.verdict source, d.rule = syntaxError := by
    unfold verdict
    rw [empty]
    cases Sheet.parse source with
    | error e => exact fun d said => List.mem_singleton.mp said ▸ rfl
    | ok s => exact fun d said => absurd said List.not_mem_nil
  have kept : (linter.verdict source).filter (fun d => d.rule != nestingRule) = linter.verdict source := by
    rw [List.filter_eq_self]
    intro d said
    rw [rest d said]
    exact bne_iff_ne.mpr ne_nestingRule.2
  rw [kept] at listed'
  refine ⟨linter.verdict source, rest, fun result either => ?_, ?_⟩
  · simp only [List.mem_cons, List.not_mem_nil, or_false] at either
    rcases either with rfl | rfl
    · exact listed
    · exact listed'
  · unfold fix run
    rw [empty]
    cases parsed : Sheet.parse source with
    | error e => rfl
    | ok s =>
      change s.css = source
      rw [Sheet.css, Sheet.nodeCss_of_tree_eq parsed rfl, String.ofList_toList]

/-- What a linter does that has been made from one setting for the nesting rule, whatever its options are.
However the setting is written, and it can be written with any options, it gives the same configuration. The
linter of that reports neither about nesting nor about options when the first option keeps the rule from
running. When something is wrong with the options, it reports that first and once, never anything about
nesting, and changes nothing. Otherwise it lints and fixes as the linter that runs the rule with these
options. -/
theorem ofConfig_behaves (engine : Pattern.Engine) (setting : Setting) (source filename : String) :
    ∃ config, Config.ofRules [(nestingRule, setting.written)] = .ok config ∧
      (∀ value, Setting.ofJson nestingRule value = .ok setting →
        Config.ofRules [(nestingRule, value)] = .ok config) ∧
      (setting.action ∈ Action.offValues →
        (∀ result ∈ [(ofConfig engine config).lint source filename, ((ofConfig engine config).fix source filename).result],
          ∀ d ∈ result.diagnostics, d.rule ≠ nestingRule ∧ d.rule ≠ invalidOption) ∧
        ((ofConfig engine config).fix source filename).output = source) ∧
      (∀ e, setting.Faulty engine e →
        (∀ result ∈ [(ofConfig engine config).lint source filename, ((ofConfig engine config).fix source filename).result],
          ∃ rest, result.diagnostics = problem e.message :: rest ∧
            ∀ d ∈ rest, d.rule ≠ nestingRule ∧ d.rule ≠ invalidOption) ∧
        ((ofConfig engine config).fix source filename).output = source) ∧
      (∀ filter, setting.action ∈ Action.onValues → Filter.ofJson engine nestingRule setting.options = .ok filter →
        ∃ action, Action.ofJson nestingRule setting.action = .ok action ∧
          (ofConfig engine config).lint source filename =
            (single ⟨action, filter, setting.severity.getD Rule.defaultSeverity⟩).lint source filename ∧
          (ofConfig engine config).fix source filename =
            (single ⟨action, filter, setting.severity.getD Rule.defaultSeverity⟩).fix source filename) := by
  have others : ∀ d : Diagnostic, d.rule = syntaxError → d.rule ≠ nestingRule ∧ d.rule ≠ invalidOption := by
    intro d named
    rw [named]
    decide
  refine ⟨⟨[(nestingRule, setting)]⟩, Config.ofRules_of_read (Setting.ofJson_written nestingRule setting),
    fun value read => Config.ofRules_of_read read, fun off => ?_, fun e faulty => ?_,
    fun filter on accepted => ?_⟩
  · rw [ofConfig_of_off off]
    obtain ⟨rest, unread, said, same⟩ := runs_of_no_rules {} rfl source filename
    refine ⟨fun result either d listed => others d (unread d ?_), same⟩
    rw [said result either] at listed
    exact listed
  · rw [ofConfig_of_faulty faulty]
    obtain ⟨rest, unread, said, same⟩ :=
      runs_of_no_rules { problems := [e.message] } rfl source filename
    exact ⟨fun result either => ⟨rest, said result either, fun d listed => others d (unread d listed)⟩, same⟩
  · obtain ⟨action, read, runs⟩ := Action.ofJson_of_on nestingRule on
    rw [ofConfig_of_on read runs accepted]
    exact ⟨action, read, rfl, rfl⟩

/-- A rule that is off in spite of options that are no filter, a rule that is on with a pattern that is none,
and a filter that is a pattern with a severity. -/
theorem ofConfig_behaves_three_settings :
    (∃ config,
      Config.ofRules [(nestingRule, .array [.bool false, .object [("only", .string "/(/")]])] = .ok config ∧
        ((ofConfig Pattern.engine config).fix "a\x7b\x7da b\x7b\x7d" "a.css").output =
          "a\x7b\x7da b\x7b\x7d") ∧
    (∃ config,
      Config.ofRules [(nestingRule, .array [.bool true, .object [("only", .string "/(/")]])] = .ok config ∧
        ∃ rest, ((ofConfig Pattern.engine config).lint "a\x7b" "a.css").diagnostics =
          problem (ConfigError.invalidPattern nestingRule "/(/").message :: rest) ∧
    ∃ config filter,
      Config.ofRules [(nestingRule, .array [.string "always", .object [("except", .string "/ c$/")],
        .object [("severity", .string "warning")]])] = .ok config ∧
        (filter.accepts " b c".toList = false ∧ filter.accepts " c b".toList = true) ∧
        (ofConfig Pattern.engine config).fix "a\x7b\x7da b\x7b\x7d" "a.css" =
          (single ⟨.always, filter, .warning⟩).fix "a\x7b\x7da b\x7b\x7d" "a.css" := by
  refine ⟨?_, ?_, ?_⟩
  · obtain ⟨config, made, -, still, -, -⟩ := ofConfig_behaves Pattern.engine
      ⟨.bool false, .object [("only", .string "/(/")], none⟩ "a\x7b\x7da b\x7b\x7d" "a.css"
    exact ⟨config, made, (still (by simp [Action.offValues])).2⟩
  · obtain ⟨config, made, -, -, faulty, -⟩ := ofConfig_behaves Pattern.engine
      ⟨.bool true, .object [("only", .string "/(/")], none⟩ "a\x7b" "a.css"
    have refused : ∀ text : String, (Filter.Entry.read? Pattern.engine text.toList).isNone = true →
        Filter.ofJson Pattern.engine nestingRule (.object [("only", .string text)]) =
          .error (.invalidPattern nestingRule text) := by
      intro text unread
      simp [Filter.ofJson, Filter.addMembers, Filter.entriesOfJson, Filter.entryOfJson,
        Option.isNone_iff_eq_none.mp unread, Except.map]
    obtain ⟨rest, said, -⟩ := (faulty _
      (.inr ⟨by simp [Action.onValues], refused "/(/" (by decide +kernel)⟩)).1 _ (List.mem_cons_self ..)
    exact ⟨config, made, rest, said⟩
  · obtain ⟨config, made, -, -, -, runs⟩ := ofConfig_behaves Pattern.engine
      ⟨.string "always", .object [("except", .string "/ c$/")], some .warning⟩
      "a\x7b\x7da b\x7b\x7d" "a.css"
    have accepted : ∀ (text : String) (entry : Filter.Entry),
        Filter.Entry.read? Pattern.engine text.toList = some entry →
          Filter.ofJson Pattern.engine nestingRule (.object [("except", .string text)]) =
            .ok ⟨[entry], []⟩ := by
      intro text entry read
      simp [Filter.ofJson, Filter.addMembers, Filter.entriesOfJson, Filter.entryOfJson, read, Except.map]
    have known : ((Filter.Entry.read? Pattern.engine "/ c$/".toList).any fun entry =>
        !Filter.accepts ⟨[entry], []⟩ " b c".toList && Filter.accepts ⟨[entry], []⟩ " c b".toList) = true := by
      decide +kernel
    obtain ⟨entry, read, decides⟩ := (Option.any_eq_true _ _).mp known
    rw [Bool.and_eq_true, Bool.not_eq_true'] at decides
    obtain ⟨action, on, -, fixed⟩ := runs ⟨[entry], []⟩ (by simp [Action.onValues]) (accepted _ entry read)
    cases on
    exact ⟨config, ⟨[entry], []⟩, made, decides, fixed⟩

end Linter

end NestLint
