import NestLint.Lint.Session
import NestLint.Nesting.Apply
import NestLint.Sheet.Walk

/-!
The rule that asks for nesting. It walks over the sheet and compares every node with its previous
sibling. In a run that reports, each match is reported once; in a run that fixes, matches are
nested until the node and its previous sibling no longer match.
-/

namespace NestLint.Nesting

def reportAt (accepts : Text → Bool) (node : NodeId) (s : Sheet) (session : Session) : Session :=
  match matchAt accepts s node with
  | some found =>
    session.reportNode s found.rule1 (expectation s found.rule1 found.rule2)
      (some found.relation.help)
  | none => session

/-- More steps than any run can take over a sheet of so many nodes. Nesting adds no node to the
tree; it either takes a rule away or puts nodes deeper, so a run over `n` nodes nests less than
`(n + 1) * (n * n + 1)` times, and between two of these it visits each node at most once per
open container. -/
def stepBound (s : Sheet) : Nat := Nat.pow (s.nodes.size + 2) 6

def visit (accepts : Text → Bool) (fuel : Nat) : Sheet.Visitor Session := fun node (s, session) =>
  if session.fix then (settle accepts node fuel s, session)
  else (s, reportAt accepts node s session)

def check (accepts : Text → Bool) (state : Sheet × Session) : Sheet × Session :=
  let fuel := stepBound state.1
  Sheet.walk (visit accepts fuel) fuel state

end NestLint.Nesting
