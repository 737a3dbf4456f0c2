import NestLint.Json.Basic
import NestLint.Number.Shortest

/-!
JSON as text, in one line without blanks or laid out over several lines. Strings escape the quote,
the backslash and the control characters. Doubles are written with their shortest digits and at
least one decimal.
-/

namespace NestLint

structure DoubleFormat where
  least : Int
  most : Int

namespace Json

/-- Doubles from a hundred-thousandth up to sixteen places before the point are written without an
exponent. -/
def doubleFormat : DoubleFormat := ⟨-5, 15⟩

def positional (digits : List Char) (exponent : Int) : List Char :=
  if exponent < 0 then
    '0' :: '.' :: List.replicate (-exponent - 1).toNat '0' ++ digits
  else
    let places := exponent.toNat + 1
    if digits.length ≤ places then
      digits ++ List.replicate (places - digits.length) '0' ++ ['.', '0']
    else digits.take places ++ '.' :: digits.drop places

def scientific (digits : List Char) (exponent : Int) : List Char :=
  let mantissa :=
    match digits with
    | first :: second :: rest => first :: '.' :: second :: rest
    | short => short
  mantissa ++ 'e' :: (if exponent < 0 then '-' else '+') :: Nat.toDigits 10 exponent.natAbs

def magnitudeText (x : Double) : List Char :=
  if x.significand = 0 then ['0', '.', '0']
  else
    let ⟨digits, exponent⟩ := x.shortest
    let digits := Nat.toDigits 10 digits
    if doubleFormat.least ≤ exponent ∧ exponent ≤ doubleFormat.most then
      positional digits exponent
    else scientific digits exponent

def Number.text : Number → String
  | .whole n => toString n
  | .minus n => "-" ++ toString n
  | .double x => String.ofList (if x.negative then '-' :: magnitudeText x else magnitudeText x)

def hexDigit (n : Nat) : Char := (Nat.toDigits 16 (n % 16)).headD '0'

def escape (c : Char) : List Char :=
  if c = '"' then ['\\', '"']
  else if c = '\\' then ['\\', '\\']
  else if c = '\x08' then ['\\', 'b']
  else if c = '\x0c' then ['\\', 'f']
  else if c = '\n' then ['\\', 'n']
  else if c = '\r' then ['\\', 'r']
  else if c = '\t' then ['\\', 't']
  else if c.toNat < 0x20 then
    ['\\', 'u', '0', '0', hexDigit (c.toNat / 16), hexDigit c.toNat]
  else [c]

def quote (s : String) : String := String.ofList ('"' :: s.toList.flatMap escape ++ ['"'])

mutual
def compact : Json → String
  | .null => "null"
  | .bool b => if b then "true" else "false"
  | .number n => n.text
  | .string s => quote s
  | .array items => "[" ++ ",".intercalate (compactItems items) ++ "]"
  | .object members => "\x7b" ++ ",".intercalate (compactMembers members) ++ "\x7d"
def compactItems : List Json → List String
  | [] => []
  | item :: rest => compact item :: compactItems rest
def compactMembers : List (String × Json) → List String
  | [] => []
  | (key, value) :: rest => (quote key ++ ":" ++ compact value) :: compactMembers rest
end

def newline (level : Nat) : String := String.ofList ('\n' :: List.replicate (2 * level) ' ')

def bracket (opening closing : String) (level : Nat) (parts : List String) : String :=
  if parts.isEmpty then opening ++ closing
  else
    opening ++ ",".intercalate (parts.map (newline (level + 1) ++ ·)) ++ newline level ++ closing

mutual
def pretty (level : Nat) : Json → String
  | .array items => bracket "[" "]" level (prettyItems (level + 1) items)
  | .object members => bracket "\x7b" "\x7d" level (prettyMembers (level + 1) members)
  | .null => "null"
  | .bool b => if b then "true" else "false"
  | .number n => n.text
  | .string s => quote s
def prettyItems (level : Nat) : List Json → List String
  | [] => []
  | item :: rest => pretty level item :: prettyItems level rest
def prettyMembers (level : Nat) : List (String × Json) → List String
  | [] => []
  | (key, value) :: rest =>
    (quote key ++ ": " ++ pretty level value) :: prettyMembers level rest
end

/-- A value as messages show it: a string bare, everything else in one line. -/
def display : Json → String
  | .string s => s
  | other => other.compact

end Json

end NestLint
