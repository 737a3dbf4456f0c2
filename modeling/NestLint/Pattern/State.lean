import NestLint.Pattern.Basic

/-!
The state in which a pattern is read: the text that is left, the flags in force, and the names that
groups have been given. Flags decide whether blanks and comments are skipped, so every step past a
character says whether it skips what follows.
-/

namespace NestLint.Pattern

structure State where
  text : Text
  flags : Flags
  names : List Text := []

abbrev Reader := StateT State Option

def fail {α : Type} : Reader α := fun _ => none

def peek : Reader (Option Char) := do return (← get).text.head?

def current : Reader Char := do
  match (← get).text with
  | c :: _ => return c
  | [] => fail

def dropVerbose : Text → Text
  | [] => []
  | c :: cs =>
    if Text.isBlank c then dropVerbose cs
    else if c = '#' then dropComment cs
    else c :: cs
where
  /-- Drops the rest of a comment and what may follow it. -/
  dropComment : Text → Text
    | [] => []
    | c :: cs => if c = '\n' then dropVerbose cs else dropComment cs

def skip : Reader Unit :=
  modify fun st => if st.flags.verbose then { st with text := dropVerbose st.text } else st

def bump : Reader Unit := modify fun st => { st with text := st.text.drop 1 }

def bumpSkip : Reader Unit := do bump; skip

def bumpIf (front : String) : Reader Bool := do
  match Text.strip front.toList (← get).text with
  | some rest => modify fun st => { st with text := rest }; return true
  | none => return false

def takeSkip (p : Char → Bool) : Nat → Reader Text
  | 0 => return []
  | fuel + 1 => do
    match ← peek with
    | some c => if p c then do bumpSkip; return c :: (← takeSkip p fuel) else return []
    | none => return []

def left : Reader Nat := do return (← get).text.length

def decimal : Reader Nat := do
  modify fun st => { st with text := Text.trimStart st.text }
  let digits ← takeSkip Char.isDigit (← left)
  modify fun st => { st with text := Text.trimStart st.text }
  skip
  if digits.isEmpty then fail
  let n := digits.foldl (fun n c => n * 10 + (c.toNat - 48)) 0
  if n < Nat.pow 2 32 then return n else fail

def hexDigit? (c : Char) : Option Nat :=
  if c.isDigit then some (c.toNat - 48)
  else if 'a' ≤ c ∧ c ≤ 'f' then some (c.toNat - 87)
  else if 'A' ≤ c ∧ c ≤ 'F' then some (c.toNat - 55)
  else none

def hexChar (digits : Text) : Reader Char := do
  let n := digits.foldl (fun n c => n * 16 + (hexDigit? c).getD 0) 0
  if n.isValidChar then return Char.ofNat n else fail

def hexDigits : Nat → Reader Text
  | 0 => return []
  | n + 1 => do
    let c ← current
    if (hexDigit? c).isNone then fail
    bumpSkip
    return c :: (← hexDigits n)

/-- A character given by its number, behind the letter that announces it; also whether it was given
by two digits. -/
def hex (digits : Nat) : Reader (Char × Bool) := do
  bumpSkip
  if (← current) = '{' then
    bumpSkip
    let inside ← takeSkip (fun c => c != '}') (← left)
    if inside.isEmpty || inside.any fun c => (hexDigit? c).isNone then fail
    let _ ← current
    bumpSkip
    return (← hexChar inside, false)
  else
    let inside ← hexDigits digits
    return (← hexChar inside, digits == 2)

end NestLint.Pattern
