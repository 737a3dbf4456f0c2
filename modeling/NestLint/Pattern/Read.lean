import NestLint.Pattern.Bracket
import NestLint.Pattern.Extent

/-!
The notation of patterns. There is no way to look ahead or behind and no way to refer back to a
group. What a text means is decided while it is read, since flags such as `(?i)` change the meaning
of what follows them up to the end of their group.
-/

namespace NestLint.Pattern

structure Bounds where
  least : Nat
  most : Option Nat

def bounds : Reader Bounds := do
  bumpSkip
  let _ ← current
  let least ← decimal
  let c ← current
  let range : Bounds ←
    if c = ',' then do
      bumpSkip
      if (← current) = '}' then pure ⟨least, none⟩
      else do
        let most ← decimal
        pure ⟨least, some most⟩
    else pure ⟨least, some least⟩
  if (← peek) != some '}' then fail
  bumpSkip
  if range.most.any (· < range.least) then fail
  return range

def Flags.put (flags : Flags) (c : Char) (on : Bool) : Option Flags :=
  match c with
  | 'i' => some { flags with ignoreCase := on }
  | 'm' => some { flags with multiLine := on }
  | 's' => some { flags with dotAll := on }
  | 'x' => some { flags with verbose := on }
  | 'u' => some { flags with unicode := on }
  | 'R' => some { flags with returns := on }
  | 'U' => some { flags with turned := on }
  | _ => none

/-- Flags up to a colon or a closing bracket, which is left; also whether there were any. None may
come twice, and a minus must be followed by one. -/
def readFlags : Nat → List Char → Bool → Flags → Reader (Flags × Bool)
  | 0, _, _, _ => fail
  | fuel + 1, seen, on, flags => do
    let c ← current
    if c = ':' ∨ c = ')' then
      if seen.head? = some '-' then fail
      return (flags, !seen.isEmpty)
    else if seen.contains c then fail
    else if c = '-' then
      bump
      readFlags fuel (c :: seen) false flags
    else
      match flags.put c on with
      | some flags =>
        bump
        readFlags fuel (c :: seen) on flags
      | none => fail

def groupName : Reader Unit := do
  let st ← get
  let name := st.text.takeWhile (· != '>')
  let isLetter (c : Char) : Bool := ((Unicode.property? "alphabetic").getD []).contains c.toNat
  let isDigit (c : Char) : Bool := ((Unicode.category? "n").getD []).contains c.toNat
  match name with
  | [] => fail
  | first :: rest =>
    if !(first == '_' || isLetter first) then fail
    if !rest.all fun c =>
        c == '_' || c == '.' || c == '[' || c == ']' || isLetter c || isDigit c then fail
    if st.names.contains name then fail
    modify fun st => { st with text := st.text.drop name.length, names := name :: st.names }
    let _ ← current
    bump

structure Nested where
  regex : Regex := .empty
  outline : Outline := .empty
  depth : Nat := 0

def Nested.ofItem (depth : Nat) (item : Regex) : Nested where
  regex := item
  outline :=
    match item with
    | .chars set => .ofSet set
    | .look look => .look look
    | _ => .empty
  depth := depth

def maxNesting : Nat := 250

inductive Item where
  | expr (e : Nested)
  | flags

def sequence (items : List Item) : Nested :=
  let exprs := items.reverse.map fun
    | .expr e => e
    | .flags => {}
  match exprs with
  | [] => {}
  | [e] => e
  | e :: rest =>
    { regex := rest.foldl (fun r e => .seq r e.regex) e.regex
      outline := .chain (exprs.map Nested.outline)
      depth := (exprs.map Nested.depth).foldl max 0 + 1 }

def choice (branches : List Nested) : Nested :=
  match branches.reverse with
  | [] => {}
  | [e] => e
  | e :: rest =>
    { regex := rest.foldl (fun r e => .alt r e.regex) e.regex
      outline := .choose (branches.reverse.map Nested.outline)
      depth := (branches.map Nested.depth).foldl max 0 + 1 }

/-- Attaches a loop to the last item. A question mark behind the bounds makes it a lazy one. -/
def attach (bounds : Bounds) (items : List Item) : Reader (List Item) := do
  let isLazy := (← peek) == some '?'
  if isLazy then bump
  let turned := (← get).flags.turned
  match items with
  | .expr e :: rest =>
    let looped : Nested :=
      { regex := .loop e.regex bounds.least bounds.most
        outline := e.outline.repeated bounds.least bounds.most (isLazy != turned)
        depth := e.depth + 1 }
    return .expr looped :: rest
  | _ => fail

mutual
def alternatives : Nat → List Nested → List Item → Reader Nested
  | 0, _, _ => fail
  | fuel + 1, branches, items => do
    skip
    match ← peek with
    | none => return choice (sequence items :: branches)
    | some ')' => return choice (sequence items :: branches)
    | some '|' =>
      bump
      alternatives fuel (sequence items :: branches) []
    | some '(' =>
      let item ← group fuel
      alternatives fuel branches (item :: items)
    | some '[' =>
      let inside ← bracket fuel
      alternatives fuel branches (.expr (.ofItem inside.depth (.chars inside.set)) :: items)
    | some '*' =>
      bump
      alternatives fuel branches (← attach ⟨0, none⟩ items)
    | some '+' =>
      bump
      alternatives fuel branches (← attach ⟨1, none⟩ items)
    | some '?' =>
      bump
      alternatives fuel branches (← attach ⟨0, some 1⟩ items)
    | some '{' =>
      if items.isEmpty then fail
      let bounds ← bounds
      alternatives fuel branches (← attach bounds items)
    | some _ =>
      let item ← primitive
      alternatives fuel branches (.expr (.ofItem 0 item) :: items)
def group : Nat → Reader Item
  | 0 => fail
  | fuel + 1 => do
    let outer := (← get).flags
    let place ← left
    bumpSkip
    let before ← get
    if ["?=", "?!", "?<=", "?<!"].any fun front =>
        (Text.strip front.toList before.text).isSome then fail
    if ← bumpIf "?P<" then
      groupName
      close fuel outer (some place)
    else if ← bumpIf "?<" then
      groupName
      close fuel outer (some place)
    else if ← bumpIf "?" then
      let (flags, any) ← readFlags ((← left) + 1) [] true outer
      let c ← current
      bump
      if c = ')' then
        if !any then fail
        modify fun st => { st with flags := flags }
        return .flags
      else
        modify fun st => { st with flags := flags }
        close fuel outer none
    else close fuel outer (some place)
/-- The inside of a group and its closing bracket; the flags of the outside come back. A group that
is remembered comes with the place where it opens. -/
def close : Nat → Flags → Option Nat → Reader Item
  | 0, _, _ => fail
  | fuel + 1, outer, place => do
    let inner ← alternatives fuel [] []
    if (← peek) != some ')' then fail
    bump
    modify fun st => { st with flags := outer }
    let outline :=
      match place with
      | some place => .group place inner.outline
      | none => inner.outline
    return .expr { inner with outline := outline, depth := inner.depth + 1 }
end

def read (flags : Flags) (text : Text) : Option Regex := do
  let (e, st) ← (alternatives (4 * text.length + 4) [] []).run { text := text, flags := flags }
  if st.text.isEmpty ∧ e.depth ≤ maxNesting ∧ e.outline.fits then some e.regex else none

/-- The engine of this library. -/
def engine : Engine := fun flags text => (read flags text).map Regex.matchesIn

end NestLint.Pattern
