import NestLint.Json.Write
import NestLint.Lint.Linter
import NestLint.Report.Place

/-!
Reports on a run: a JSON document with one entry per file, and a line with the totals. A reporter
renders the whole run for one destination.
-/

namespace NestLint

namespace Report

/-- The source of a file among those given; a file that is not among them has an empty one. -/
def sourceOf (sources : List (String × String)) (filename : String) : String :=
  ((sources.find? fun (name, _) => name == filename).map Prod.snd).getD ""

def severityCode : Severity → Nat
  | .error => 2
  | .warning => 1

/-- A line or column counted from one, in the 32 bits that a message has for it. -/
def fromOne (n : Nat) : Nat := (n + 1) % 0x100000000

def message (source : Text) (d : Diagnostic) : Json :=
  let (line, column) := Text.place source d.start
  let (endLine, endColumn) := Text.place source d.stop
  .object [
    ("ruleId", .string d.rule),
    ("severity", .ofNat (severityCode d.severity)),
    ("message", .string d.message),
    ("line", .ofNat (fromOne line)),
    ("column", .ofNat (fromOne column)),
    ("endLine", .ofNat (fromOne endLine)),
    ("endColumn", .ofNat (fromOne endColumn))]

def file (sources : List (String × String)) (result : LintResult) : Json :=
  let source := (sourceOf sources result.filename).toList
  .object [
    ("file", .string result.filename),
    ("messages", .array (result.diagnostics.map (message source))),
    ("errorCount", .ofNat result.tally.errors),
    ("warningCount", .ofNat result.tally.warnings)]

def json (results : List LintResult) (sources : List (String × String)) : String :=
  Json.pretty 0 (.array (results.map (file sources)))

/-- The diagnostics that can be shown in their source: those that end inside it. -/
def shown (results : List LintResult) (sources : List (String × String)) : List Diagnostic :=
  results.flatMap fun result =>
    let size := Text.byteSize (sourceOf sources result.filename).toList
    result.diagnostics.filter fun d => d.stop ≤ size

def counted (n : Nat) (noun : String) : String :=
  toString n ++ " " ++ noun ++ (if n = 1 then "" else "s")

def totals (summary : Summary) : String :=
  let parts :=
    (if summary.errors > 0 then [counted summary.errors "error"] else []) ++
      (if summary.warnings > 0 then [counted summary.warnings "warning"] else [])
  if parts.isEmpty then "No problems found in " ++ toString summary.files ++ " file(s)"
  else ", ".intercalate parts ++ " in " ++ counted summary.files "file"

end Report

inductive Reporter where
  | text
  | json
deriving DecidableEq, Repr

namespace Reporter

def name : Reporter → String
  | .text => "text"
  | .json => "json"

def ofName (name : String) : Reporter := if name = "json" then .json else .text

def closing (summary : Summary) : Reporter → String
  | .text => Report.totals summary ++ "\n"
  | .json => ""

end Reporter

end NestLint
