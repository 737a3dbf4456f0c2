import NestLint.Text.Position

/-!
Why a text is no stylesheet. Each cause carries the place it is blamed on.
-/

namespace NestLint

inductive ParseError where
  /-- A brace that is never closed. -/
  | unclosedBlock (position : Position)
  /-- A comment that is never closed. -/
  | unclosedComment (position : Position)
  /-- A quote that is never closed. -/
  | unclosedString (position : Position)
  /-- A closing brace outside any block. -/
  | unexpectedClose (position : Position)
  /-- A statement that is neither a rule nor a declaration. -/
  | unknownWord (word : Text) (position : Position)
deriving DecidableEq, Repr

namespace ParseError

def position : ParseError → Position
  | unclosedBlock p | unclosedComment p | unclosedString p | unexpectedClose p
  | unknownWord _ p => p

def moved (move : Position → Position) : ParseError → ParseError
  | unclosedBlock p => unclosedBlock (move p)
  | unclosedComment p => unclosedComment (move p)
  | unclosedString p => unclosedString (move p)
  | unexpectedClose p => unexpectedClose (move p)
  | unknownWord word p => unknownWord word (move p)

def reason : ParseError → String
  | unclosedBlock _ => "Unclosed block"
  | unclosedComment _ => "Unclosed comment"
  | unclosedString _ => "Unclosed string"
  | unexpectedClose _ => "Unexpected \x7d"
  | unknownWord word _ => "Unknown word " ++ String.ofList word

def message (e : ParseError) : String :=
  toString e.position.line ++ ":" ++ toString e.position.column ++ ": " ++ e.reason

end ParseError

end NestLint
