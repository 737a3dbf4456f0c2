import NestLint.Text.Basic

/-!
Places as editors count them: lines and columns from zero, columns in units of UTF-16. A place
inside a character has no such column and is given in bytes.
-/

namespace NestLint

namespace Text

def units16 (c : Char) : Nat := if c.toNat < 0x10000 then 1 else 2

def placeFrom (remaining line bytes units : Nat) : Text → Nat × Nat
  | [] => (line, units)
  | c :: cs =>
    if remaining = 0 then (line, units)
    else if remaining < c.utf8Size then (line, bytes + remaining)
    else if c = '\n' then placeFrom (remaining - 1) (line + 1) 0 0 cs
    else placeFrom (remaining - c.utf8Size) line (bytes + c.utf8Size) (units + units16 c) cs

/-- The line and column of a byte; past the end, those of the end. -/
def place (text : Text) (offset : Nat) : Nat × Nat := placeFrom offset 0 0 0 text

end Text

end NestLint
