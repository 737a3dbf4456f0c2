import NestLint.Text.Basic

/-!
Lists of selectors, set apart by commas. A comma inside quotes or round brackets or behind a
backslash belongs to its selector. The blanks around a selector are no part of it. Nothing between
two commas is skipped, but the last selector is always there, even when it is empty.
-/

namespace NestLint.SelectorList

/-- What a reader of a list remembers: whether the last character was a backslash that takes the
next one along, the quote it is inside of, and how many round brackets are open. -/
structure State where
  escaped : Bool := false
  quote : Option Char := none
  depth : Nat := 0
deriving DecidableEq, Repr

def State.splits (st : State) (c : Char) : Bool :=
  !st.escaped && st.quote.isNone && st.depth == 0 && c == ','

def State.next (st : State) (c : Char) : State :=
  if st.escaped then { st with escaped := false }
  else if c = '\\' then { st with escaped := true }
  else
    match st.quote with
    | some quote => if c = quote then { st with quote := none } else st
    | none =>
      if c = '"' ∨ c = '\'' then { st with quote := some c }
      else if c = '(' then { st with depth := st.depth + 1 }
      else if c = ')' then { st with depth := st.depth - 1 }
      else st

def consFirst (c : Char) : List Text → List Text
  | [] => [[c]]
  | piece :: rest => (c :: piece) :: rest

def pieces (st : State) : Text → List Text
  | [] => [[]]
  | c :: cs =>
    if st.splits c then [] :: pieces (st.next c) cs else consFirst c (pieces (st.next c) cs)

/-- Drops the empty pieces before the last. -/
def keep : List Text → List Text
  | [] => []
  | [last] => [last]
  | piece :: rest => if piece.isEmpty then keep rest else piece :: keep rest

def split (text : Text) : List Text := (keep (pieces {} text)).map Text.trim

/-- The first comma of a text and the blanks behind it. -/
def separator? (text : Text) : Option Text :=
  match text.dropWhile (· != ',') with
  | [] => none
  | comma :: rest => some (comma :: rest.takeWhile Text.isBlank)

end NestLint.SelectorList
