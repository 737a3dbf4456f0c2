import NestLint.Pattern.Escape

/-!
Classes in brackets. Characters, ranges and classes inside are joined; an operator joins what stands
on its left with what follows it up to the next operator or the end.
-/

namespace NestLint.Pattern

open Unicode (Ranges)

def asciiClass? (name : Text) : Option Ranges :=
  match String.ofList name with
  | "alnum" => some [(48, 57), (65, 90), (97, 122)]
  | "alpha" => some [(65, 90), (97, 122)]
  | "ascii" => some [(0, 127)]
  | "blank" => some [(9, 9), (32, 32)]
  | "cntrl" => some [(0, 31), (127, 127)]
  | "digit" => some [(48, 57)]
  | "graph" => some [(33, 126)]
  | "lower" => some [(97, 122)]
  | "print" => some [(32, 126)]
  | "punct" => some [(33, 47), (58, 64), (91, 96), (123, 126)]
  | "space" => some asciiSpace
  | "upper" => some [(65, 90)]
  | "word" => some Regex.asciiWordRanges
  | "xdigit" => some [(48, 57), (65, 70), (97, 102)]
  | _ => none

def namedClass : Reader (Option Ranges) := do
  let before ← get
  let found : Option (Ranges × Text) :=
    match before.text with
    | '[' :: ':' :: rest =>
      let (negated, rest) :=
        match rest with
        | '^' :: rest => (true, rest)
        | rest => (false, rest)
      match rest.span (· != ':') with
      | (name, ':' :: ']' :: rest) =>
        (asciiClass? name).map fun set =>
          let set := folded before.flags set
          (if negated then set.complement else set, rest)
      | _ => none
    | _ => none
  match found with
  | some (ranges, rest) =>
    let ranges ← checked ranges
    set { before with text := rest }
    return some ranges
  | none => return none

def literalIn : Primitive → Reader Nat
  | .literal c _ => do
    if (← get).flags.unicode || c.toNat ≤ 0x7F then return c.toNat else fail
  | _ => fail

def classItem : Reader Primitive := do
  let c ← current
  if c = '\\' then escape
  else
    bump
    return .literal c false

/-- What a hyphen inside brackets is followed by. Where blanks are skipped they are looked past,
and so is a hash sign, but not the comment that it begins. -/
def peekSkip : Reader (Option Char) := do
  let st ← get
  let rest := st.text.drop 1
  if !st.flags.verbose then return rest.head?
  let seen :=
    match Text.trimStart rest with
    | '#' :: comment => Text.trimStart comment
    | other => other
  return seen.head?.orElse fun _ => rest.head?

def classRange : Reader Ranges := do
  let first ← classItem
  skip
  let c ← current
  let after ← peekSkip
  if c != '-' || after == some ']' || after == some '-' then
    match first with
    | .set ranges => return ranges
    | _ =>
      let n ← literalIn first
      return folded (← get).flags [(n, n)]
  else
    bumpSkip
    let _ ← current
    let second ← classItem
    let lo ← literalIn first
    let hi ← literalIn second
    if lo ≤ hi then return folded (← get).flags [(lo, hi)] else fail

inductive SetOp where
  | inter
  | diff
  | symmDiff

def SetOp.apply : SetOp → Ranges → Ranges → Ranges
  | .inter => Ranges.inter
  | .diff => Ranges.diff
  | .symmDiff => Ranges.symmDiff

structure ClassSet where
  set : Ranges
  depth : Nat

structure ClassItems where
  sets : Ranges := []
  count : Nat := 0
  depth : Nat := 0

def ClassItems.add (items : ClassItems) (item : ClassSet) : ClassItems :=
  ⟨items.sets ++ item.set, items.count + 1, max items.depth item.depth⟩

def ClassItems.classSet (items : ClassItems) : ClassSet :=
  ⟨Ranges.union items.sets, if items.count ≤ 1 then items.depth else items.depth + 1⟩

def ClassItems.combine (items : ClassItems) (waiting : Option (SetOp × ClassSet)) : ClassSet :=
  let right := items.classSet
  match waiting with
  | some (op, left) => ⟨op.apply left.set right.set, max left.depth right.depth + 1⟩
  | none => right

def frontHyphens : Nat → Reader Ranges
  | 0 => return []
  | fuel + 1 => do
    if (← current) = '-' then
      bumpSkip
      return (45, 45) :: (← frontHyphens fuel)
    else return []

mutual
def bracket : Nat → Reader ClassSet
  | 0 => fail
  | fuel + 1 => do
    bumpSkip
    let negated := (← current) == '^'
    if negated then bumpSkip
    let hyphens ← frontHyphens (← left)
    let flags := (← get).flags
    let start ←
      if hyphens.isEmpty && (← current) == ']' then do
        bumpSkip
        pure [(93, 93)]
      else pure hyphens
    let _ ← current
    let inside ← classBody fuel none ⟨folded flags start, start.length, 0⟩
    return ⟨← checked (if negated then inside.set.complement else inside.set), inside.depth + 1⟩
/-- The inside of a class: the left side of an operator that waits for its right side, and the
items read so far. -/
def classBody : Nat → Option (SetOp × ClassSet) → ClassItems → Reader ClassSet
  | 0, _, _ => fail
  | fuel + 1, waiting, items => do
    skip
    let c ← current
    let next := (← get).text[1]?
    if c = '[' then
      match ← namedClass with
      | some set => classBody fuel waiting (items.add ⟨set, 0⟩)
      | none =>
        let inner ← bracket fuel
        classBody fuel waiting (items.add inner)
    else if c = ']' then
      bump
      return items.combine waiting
    else if c = '&' ∧ next = some '&' then
      bump; bump
      classBody fuel (some (.inter, items.combine waiting)) {}
    else if c = '-' ∧ next = some '-' then
      bump; bump
      classBody fuel (some (.diff, items.combine waiting)) {}
    else if c = '~' ∧ next = some '~' then
      bump; bump
      classBody fuel (some (.symmDiff, items.combine waiting)) {}
    else
      let set ← classRange
      classBody fuel waiting (items.add ⟨set, 0⟩)
end

end NestLint.Pattern
