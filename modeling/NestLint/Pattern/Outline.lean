import NestLint.Pattern.Regex
import NestLint.Unicode.Encoding

/-!
The outline of an expression: how an automaton for it is laid out. Neighbouring characters make one
text, a choice between single characters is a set, and parts with which all branches of a choice
begin come before the choice.
-/

namespace NestLint

open Unicode (Ranges)

inductive Outline where
  | empty
  /-- Characters in a row, at least one. -/
  | text (letters : Text)
  /-- One character of a set, which has not exactly one. -/
  | set (chars : Ranges)
  | look (condition : Look)
  | loop (body : Outline) (least : Nat) (most : Option Nat) (isLazy : Bool)
  /-- A group whose match is remembered, with the place where it opens. -/
  | group (place : Nat) (body : Outline)
  /-- At least two parts, none of them empty or a sequence, and no two texts side by side. -/
  | seq (parts : List Outline)
  /-- At least two branches, none of them a choice. -/
  | alt (branches : List Outline)
deriving BEq, Repr, Inhabited

namespace Outline

def ofSet (chars : Ranges) : Outline :=
  match chars.characters with
  | [(lo, hi)] => if lo = hi then .text [Char.ofNat lo] else .set [(lo, hi)]
  | other => .set other

def chars? : Outline → Option Ranges
  | .text [c] => some [(c.toNat, c.toNat)]
  | .set chars => some chars
  | _ => none

def text? : Outline → Option Text
  | .text letters => some letters
  | _ => none

def parts : Outline → List Outline
  | .empty => []
  | .seq parts => parts
  | other => [other]

def ofParts : List Outline → Outline
  | [] => .empty
  | [part] => part
  | parts => .seq parts

def push : Outline → List Outline → List Outline
  | .text front, .text back :: rest => .text (front ++ back) :: rest
  | part, rest => part :: rest

def chain (outlines : List Outline) : Outline :=
  ofParts ((outlines.flatMap parts).foldr push [])

def branches : Outline → List Outline
  | .alt branches => branches
  | other => [other]

def merge (outlines : List Outline) : Outline :=
  let all := outlines.flatMap branches
  match all.mapM chars? with
  | some sets => ofSet (Ranges.union sets.flatten)
  | none => .alt all

def common : List Outline → List Outline → List Outline
  | a :: as, b :: bs => if a == b then a :: common as bs else []
  | _, _ => []

def seq? : Outline → Option (List Outline)
  | .seq parts => some parts
  | _ => none

/-- A choice between outlines. Where all branches are sequences, what they begin with in common
comes first. -/
def choose (outlines : List Outline) : Outline :=
  match merge outlines with
  | .alt all =>
    match all.mapM seq? with
    | some (first :: rest) =>
      let front := rest.foldl common first
      if front.isEmpty then .alt all
      else
        let tails := (first :: rest).map fun parts => ofParts (parts.drop front.length)
        chain (front ++ [merge tails])
    | _ => .alt all
  | other => other

mutual
def isIdle : Outline → Bool
  | .empty => true
  | .text _ => false
  | .set _ => false
  | .look _ => true
  | .loop body _ most _ => most.isSome && isIdle body
  | .group _ body => isIdle body
  | .seq parts => areIdle parts
  | .alt branches => areIdle branches
def areIdle : List Outline → Bool
  | [] => true
  | outline :: rest => isIdle outline && areIdle rest
end

/-- A loop. One whose body matches nothing but the empty text need not run twice. -/
def repeated (body : Outline) (least : Nat) (most : Option Nat) (isLazy : Bool) : Outline :=
  let (least, most) :=
    if body.isIdle then (min least 1, some (min 1 (most.getD 1))) else (least, most)
  if most = some 0 then .empty
  else if least = 1 ∧ most = some 1 then body
  else .loop body least most isLazy

mutual
def shortest? : Outline → Option Nat
  | .empty => some 0
  | .text letters => some letters.length
  | .set chars => if chars.isEmpty then none else some 1
  | .look _ => some 0
  | .loop body least _ _ => (shortest? body).map (· * least)
  | .group _ body => shortest? body
  | .seq parts => shortestSum? parts
  | .alt [] => none
  | .alt (branch :: rest) => do shortestMin? (← shortest? branch) rest
def shortestSum? : List Outline → Option Nat
  | [] => some 0
  | part :: rest => do return (← shortest? part) + (← shortestSum? rest)
def shortestMin? (least : Nat) : List Outline → Option Nat
  | [] => some least
  | branch :: rest => do shortestMin? (min least (← shortest? branch)) rest
end

mutual
/-- Whether every match begins at the start of the text or, going `backward`, ends at its end, as
far as the conditions before the first character tell. -/
def isTied (backward : Bool) : Outline → Bool
  | .look condition => condition = if backward then .textEnd else .textStart
  | .loop body least _ _ => 0 < least && isTied backward body
  | .group _ body => isTied backward body
  | .seq parts => if backward then isTiedLast parts else isTiedFirst parts
  | .alt branches => areTied backward branches
  | _ => false
def isTiedFirst : List Outline → Bool
  | [] => false
  | part :: rest => isTied false part || (isIdle part && isTiedFirst rest)
def isTiedLast : List Outline → Bool
  | [] => false
  | part :: rest => isTiedLast rest || (areIdle rest && isTied true part)
def areTied (backward : Bool) : List Outline → Bool
  | [] => true
  | branch :: rest => isTied backward branch && areTied backward rest
end

end Outline

end NestLint
