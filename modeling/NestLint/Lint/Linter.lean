import NestLint.Config.Basic
import NestLint.Nesting.Check
import NestLint.Sheet.Print
import NestLint.Source.Parse

/-!
The linter: a list of rules, the problems found while setting them up, and the names of the rules
that may run. A run reads the source once and gives the sheet to one rule after the other; a source
that cannot be read is reported instead.
-/

namespace NestLint

structure Rule where
  action : Action := .always
  filter : Filter := {}
  severity : Severity := .error

namespace Rule

def name (_ : Rule) : String := nestingRule

def description (_ : Rule) : String := "Require nesting for adjacent rules that share a selector"

def fixable (_ : Rule) : Bool := true

def defaultSeverity : Severity := .error

def check (rule : Rule) (state : Sheet × Session) : Sheet × Session :=
  if rule.action.runs then Nesting.check rule.filter.accepts state else state

def build (engine : Pattern.Engine) (name : String) (setting : Setting) : Except ConfigError (Option Rule) :=
  if name ≠ nestingRule then .error (.unknownRule name)
  else
    match Action.ofJson name setting.action with
    | .error e => .error e
    | .ok action =>
      if !action.runs then .ok none
      else
        match Filter.ofJson engine name setting.options with
        | .error e => .error e
        | .ok filter =>
          .ok (some
            { action := action, filter := filter
              severity := setting.severity.getD defaultSeverity })

end Rule

structure LintResult where
  filename : String
  diagnostics : List Diagnostic
  tally : Tally

def LintResult.hasErrors (r : LintResult) : Bool := r.tally.hasErrors

def LintResult.hasDiagnostics (r : LintResult) : Bool := !r.diagnostics.isEmpty

structure FixResult where
  output : String
  result : LintResult

def FixResult.changed (r : FixResult) (source : String) : Bool := r.output != source

structure Linter where
  rules : List Rule := []
  /-- What was wrong with the options of rules that could not be set up. -/
  problems : List String := []
  /-- The rules that may run; without a list, all of them. -/
  enabled : Option (List String) := none

namespace Linter

def single (rule : Rule) : Linter := { rules := [rule] }

def default : Linter := single {}

def addSetting (engine : Pattern.Engine) (linter : Linter) (name : String) (setting : Setting) : Linter :=
  match Rule.build engine name setting with
  | .ok (some rule) => { linter with rules := linter.rules ++ [rule] }
  | .ok none => linter
  | .error e => { linter with problems := linter.problems ++ [e.message] }

/-- The linter of a configuration. A rule with wrong options does not run, and every run reports
what is wrong. -/
def ofConfig (engine : Pattern.Engine) (config : Config) : Linter :=
  config.rules.foldl (fun linter (name, setting) => linter.addSetting engine name setting) {}

def invalidOption : String := "invalid-option"

def syntaxError : String := "CssSyntaxError"

def problem (message : String) : Diagnostic :=
  { rule := invalidOption, severity := .error, message := message, start := 0, stop := 0 }

def unreadable (e : ParseError) : Diagnostic :=
  { rule := syntaxError, severity := .error, message := e.message
    start := e.position.offset, stop := e.position.offset }

def runRule (state : Sheet × Session) (rule : Rule) : Sheet × Session :=
  if state.2.allows rule.name then
    rule.check (state.1, state.2.enter rule.name rule.severity)
  else state

def run (linter : Linter) (source : String) (fix : Bool) : Option Sheet × Session :=
  let session : Session :=
    linter.problems.foldl (fun session message => session.report (problem message))
      { fix := fix, enabled := linter.enabled }
  match Sheet.parse source with
  | .ok sheet =>
    let (sheet, session) := linter.rules.foldl runRule (sheet, session)
    (some sheet, session)
  | .error e => (none, session.report (unreadable e))

def resultOf (filename : String) (session : Session) : LintResult :=
  { filename := filename, diagnostics := session.diagnostics, tally := session.tally }

def lint (linter : Linter) (source filename : String) : LintResult :=
  resultOf filename (linter.run source false).2

/-- Changes a source as the rules ask for; a source that cannot be read stays as it is. -/
def fix (linter : Linter) (source filename : String) : FixResult :=
  let (sheet, session) := linter.run source true
  { output := (sheet.map Sheet.css).getD source, result := resultOf filename session }

def lintFiles (linter : Linter) (files : List (String × String)) : List LintResult × Summary :=
  let results := files.map fun (filename, source) => linter.lint source filename
  let tally := results.foldl (fun tally result => tally.merge result.tally) ({} : Tally)
  (results, { tally with files := files.length })

end Linter

end NestLint
