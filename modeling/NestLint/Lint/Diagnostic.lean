import NestLint.Sheet.Basic

/-!
What a linter reports. A diagnostic names the rule it comes from and the bytes of the source it is
about. A tally counts diagnostics by severity.
-/

namespace NestLint

inductive Severity where
  | error
  | warning
deriving DecidableEq, Repr

def Severity.name : Severity → String
  | .error => "error"
  | .warning => "warning"

structure Diagnostic where
  rule : String
  severity : Severity
  message : String
  /-- The first byte. -/
  start : Nat
  /-- The first byte that is no longer part of it. -/
  stop : Nat
  /-- The node it is about, if it is about one. -/
  node : Option NodeId := none
  /-- What to do about it. -/
  help : Option String := none
deriving DecidableEq, Repr

def Diagnostic.length (d : Diagnostic) : Nat := d.stop - d.start

structure Tally where
  errors : Nat := 0
  warnings : Nat := 0
deriving DecidableEq, Repr

namespace Tally

def add (t : Tally) : Severity → Tally
  | .error => { t with errors := t.errors + 1 }
  | .warning => { t with warnings := t.warnings + 1 }

def merge (t u : Tally) : Tally := ⟨t.errors + u.errors, t.warnings + u.warnings⟩

def hasErrors (t : Tally) : Bool := t.errors > 0

end Tally

structure Summary extends Tally where
  files : Nat := 0
deriving DecidableEq, Repr

end NestLint
