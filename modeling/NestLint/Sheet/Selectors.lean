import NestLint.Sheet.Edit
import NestLint.Sheet.Style
import NestLint.SelectorList

/-!
The selectors of a rule as a list. When the list is changed, the way it is written stays: the
selectors are set apart by what follows the first comma of the present text, or else by a comma and
whatever stands between the rule's head and its brace.
-/

namespace NestLint.Sheet

def selectors? (s : Sheet) (id : NodeId) : Option (List Text) :=
  (s.selector? id).map SelectorList.split

def setSelectors (s : Sheet) (id : NodeId) (selectors : List Text) : Sheet :=
  match s.selector? id with
  | none => s
  | some current =>
    let separator := (SelectorList.separator? current).getD (',' :: s.openOf id)
    s.setSelector id (Text.join separator selectors)

end NestLint.Sheet
