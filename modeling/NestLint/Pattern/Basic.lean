import NestLint.Text.Basic

/-!
Patterns from outside. What a pattern means is left to an engine, which is given the flags and the text of
a pattern and says in which texts it occurs.
-/

namespace NestLint.Pattern

structure Flags where
  ignoreCase : Bool := false
  multiLine : Bool := false
  dotAll : Bool := false
  /-- Blanks are skipped, and so is everything from a hash sign up to the end of its line. -/
  verbose : Bool := false
  /-- Classes know all characters, not only ASCII. -/
  unicode : Bool := true
  /-- A carriage return ends a line too. -/
  returns : Bool := false
  /-- Loops are lazy unless a question mark follows. -/
  turned : Bool := false
deriving DecidableEq, Repr

/-- The texts in which a pattern occurs; none when its text is no pattern. -/
abbrev Engine := Flags → Text → Option (Text → Bool)

end NestLint.Pattern
