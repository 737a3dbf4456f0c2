import NestLint.Lint.Diagnostic

/-!
The state of one run over one source: whether the sheet is to be changed, which rule is running
with which severity, which rules may run at all, and what has been reported so far.
-/

namespace NestLint

structure Session where
  /-- Whether rules change the sheet instead of reporting. -/
  fix : Bool := false
  /-- The rule that is running. -/
  rule : String := ""
  /-- The severity of the rule that is running. -/
  severity : Severity := .error
  /-- The rules that may run; without a list, all of them. -/
  enabled : Option (List String) := none
  /-- What has been reported, in order. -/
  diagnostics : List Diagnostic := []
  tally : Tally := {}
deriving Repr

namespace Session

def allows (s : Session) (rule : String) : Bool :=
  match s.enabled with
  | some names => names.contains rule
  | none => true

def enter (s : Session) (rule : String) (severity : Severity) : Session :=
  { s with rule := rule, severity := severity }

def report (s : Session) (d : Diagnostic) : Session :=
  { s with diagnostics := s.diagnostics ++ [d], tally := s.tally.add d.severity }

/-- The bytes of a node in the source; a node that was not read is nowhere, at the start. -/
def extent (sheet : Sheet) (node : NodeId) : Nat × Nat :=
  match sheet.source node with
  | some span => (span.start.offset, span.stop.offset)
  | none => (0, 0)

def reportNode (s : Session) (sheet : Sheet) (node : NodeId) (message : String)
    (help : Option String) : Session :=
  let (start, stop) := extent sheet node
  s.report
    { rule := s.rule, severity := s.severity, message := message, start := start, stop := stop
      node := some node, help := help }

end Session

end NestLint
