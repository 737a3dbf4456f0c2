import NestLint.Nesting.Relation

/-!
Nesting a matching pair. The rule that moves goes to the end of the other one, and `&` takes the
place of what they share.
-/

namespace NestLint.Nesting

/-- The longest text of a list; of several, the last. -/
def longest (texts : List Text) : Text :=
  texts.foldl (fun best text => if best.length ≤ text.length then text else best) []

def shortest? : List Text → Option Text
  | [] => none
  | text :: rest =>
    some (rest.foldl (fun best text => if text.length < best.length then text else best) text)

/-- A selector with its longest start among `outer` replaced by `&`. -/
def nestDescendant (outer : List Text) (selector : Text) : Text :=
  let start := longest (outer.filter fun candidate => (Text.strip candidate selector).isSome)
  '&' :: selector.drop start.length

/-- A selector with its longest end among `inner` replaced by `&`; a selector that ends otherwise
stays. -/
def nestAncestor (inner : List Text) (selector : Text) : Text :=
  match shortest? (inner.filterMap (lead? selector)) with
  | some lead => lead ++ [' ', '&']
  | none => selector

def applyDescendant (s : Sheet) (inner outer : NodeId) : Sheet :=
  match s.selectors? inner, s.selectors? outer with
  | some innerSelectors, some outerSelectors =>
    (s.setSelectors inner (innerSelectors.map (nestDescendant outerSelectors))).append outer inner
  | _, _ => s

/-- Puts the children of `outer` into a nesting at-rule at the end of `inner`, and takes `outer`
away. -/
def applyAncestor (s : Sheet) (outer inner : NodeId) : Sheet :=
  match s.selectors? outer, s.selectors? inner with
  | some outerSelectors, some innerSelectors =>
    let s := (s.remove outer).setSelectors outer (outerSelectors.map (nestAncestor innerSelectors))
    let (nest, s) := s.plant (.node
      { kind := .atRule "nest".toList ((s.selector? outer).getD []) true
        raws := { s.raws outer with afterName := some [' '] }
        source := s.source outer } [])
    let s := (s.children outer).foldl (fun s child => s.append nest child) s
    s.append inner nest
  | _, _ => s

/-- Copies the children of the first rule of `media` into a copy of `media` at the end of `rule`,
and takes that first rule away, and `media` too once it is empty. -/
def applyMedia (s : Sheet) (rule media : NodeId) : Sheet :=
  match mediaFirstRule? s media with
  | none => s
  | some first =>
    let layout := s.raws first
    let (wrapper, s) := s.cloneEmpty media
    let s := s.modifyRaws wrapper fun r =>
      { r with before := layout.before, after := layout.after, semicolon := layout.semicolon }
    let s := (s.children first).foldl (fun s child =>
      let (copy, s) := s.clone child
      s.append wrapper copy) s
    let s := (s.append rule wrapper).remove first
    if (s.children media).isEmpty then s.remove media else s

/-- Nests a pair, whether or not the relation holds. -/
def Relation.apply (s : Sheet) : Relation → NodeId → NodeId → Sheet
  | .descendant => applyDescendant s
  | .ancestor => applyAncestor s
  | .media => applyMedia s

def Match.apply (m : Match) (s : Sheet) : Sheet := m.relation.apply s m.rule1 m.rule2

def settle (accepts : Text → Bool) (node : NodeId) : Nat → Sheet → Sheet
  | 0, s => s
  | fuel + 1, s =>
    match matchAt accepts s node with
    | some found => settle accepts node fuel (found.apply s)
    | none => s

end NestLint.Nesting
