import NestLint.Sheet.Selectors

/-!
When two neighbouring rules can be nested. There are three relations between a rule and its
neighbour.

* `descendant`: every selector of the first starts with every selector of the second, and a
  character that cannot continue a name follows. `.a .b` next to `.a`.
* `ancestor`: every selector of the first ends with a blank and every selector of the second.
  `.x .a` next to `.a`.
* `media`: the second is a media block that begins with a rule of the same selector. `.a` next to
  `@media print { .a {} }`.

What is left over of a selector (in the last case the selector itself) must be accepted by a
filter.
-/

namespace NestLint.Nesting

inductive Relation where
  | descendant
  | ancestor
  | media
deriving DecidableEq, Repr

def ruleSelectors? (s : Sheet) (id : NodeId) : Option (List Text) :=
  (s.selectors? id).bind fun selectors =>
    if selectors.any List.isEmpty then none else some selectors

def mediaFirstRule? (s : Sheet) (id : NodeId) : Option NodeId :=
  if (s.kind id).atName? = some "media".toList then
    (s.firstChild id).bind fun first => if (s.kind first).isRule then some first else none
  else none

def isNameChar (c : Char) : Bool := c.isAlphanum || c == '-' || c == '_'

/-- What follows `outer` in `inner`, when `inner` is longer and starts with `outer` as a whole
name. -/
def suffix? (inner outer : Text) : Option Text :=
  match Text.strip outer inner with
  | some (c :: rest) => if isNameChar c then none else some (c :: rest)
  | _ => none

/-- What stands before `inner` in `outer`, when `outer` ends with a blank and `inner`. -/
def lead? (outer inner : Text) : Option Text :=
  (Text.stripEnd inner outer).bind (Text.stripEnd [' '])

def allPairs (accepts : Text → Bool) (leftOver : Text → Text → Option Text)
    (first second : List Text) : Bool :=
  second.all fun b => first.all fun a => (leftOver a b).any accepts

def Relation.holds (accepts : Text → Bool) (s : Sheet) : Relation → NodeId → NodeId → Bool
  | .descendant, rule1, rule2 =>
    match ruleSelectors? s rule1, ruleSelectors? s rule2 with
    | some first, some second => allPairs accepts suffix? first second
    | _, _ => false
  | .ancestor, rule1, rule2 =>
    match ruleSelectors? s rule1, ruleSelectors? s rule2 with
    | some first, some second => allPairs accepts lead? first second
    | _, _ => false
  | .media, rule1, rule2 =>
    match s.selector? rule1, mediaFirstRule? s rule2 with
    | some selector, some first =>
      !selector.isEmpty && s.selector? first == some selector && accepts selector
    | _, _ => false

def Relation.all : List Relation := [.descendant, .ancestor, .media]

def Relation.help : Relation → String
  | .descendant => "Nest the rule and replace the shared selector prefix with `&`"
  | .ancestor => "Nest the rule as `@nest <prefix> &`"
  | .media => "Move the `@media` block inside the rule"

structure Match where
  relation : Relation
  rule1 : NodeId
  rule2 : NodeId
deriving DecidableEq, Repr

/-- The first relation that holds between a node and the one before it, in either direction. -/
def findMatch (accepts : Text → Bool) (s : Sheet) (node prev : NodeId) : Option Match :=
  Relation.all.findSome? fun relation =>
    if relation.holds accepts s node prev then some ⟨relation, node, prev⟩
    else if relation.holds accepts s prev node then some ⟨relation, prev, node⟩
    else none

/-- The match of a node with its previous sibling, when both are rules or at-rules. -/
def matchAt (accepts : Text → Bool) (s : Sheet) (node : NodeId) : Option Match :=
  (s.prev? node).bind fun prev =>
    if (s.kind node).isRuleLike && (s.kind prev).isRuleLike then findMatch accepts s node prev
    else none

def expectation (s : Sheet) (rule1 rule2 : NodeId) : String :=
  let selector1 := String.ofList ((s.selector? rule1).getD [])
  let (outside, inside) :=
    match s.kind rule2 with
    | .atRule name params _ =>
      ("@" ++ String.ofList name ++ " " ++ String.ofList params, selector1)
    | _ => (selector1, String.ofList ((s.selector? rule2).getD []))
  "Expected \"" ++ outside ++ "\" inside \"" ++ inside ++ "\"."

end NestLint.Nesting
