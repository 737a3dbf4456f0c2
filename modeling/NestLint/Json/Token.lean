import NestLint.Json.Basic
import NestLint.Text.Basic

/-!
The tokens of a JSON text. A string may spell half of a surrogate pair and a number may be too
large for a double; such tokens are well formed but have no value, which matters only to whoever
asks for the value.

A number collects its digits in a word of 64 bits. A digit before the point that no longer fits
only raises the power of ten, together with the digits behind it; a digit behind the point that no
longer fits is dropped, together with those behind it. The word is then taken to the nearest double
and multiplied or divided by a power of ten, itself a double.
-/

namespace NestLint.Json

inductive Token where
  | openBrace
  | closeBrace
  | openBracket
  | closeBracket
  | colon
  | comma
  | literal (value : Json)
  | number (value : Option Number)
  | string (value : Option String)
deriving Inhabited

def maxWord : Nat := Nat.pow 2 64 - 1

def maxExponent : Nat := Nat.pow 2 31 - 1

def digitOf (c : Char) : Nat := c.toNat - 48

structure Parts where
  significand : Nat
  exponent : Int

def wholePart : Parts → Bool → Text → Parts × Bool
  | parts, fits, [] => (parts, fits)
  | parts, fits, c :: cs =>
    let grown := parts.significand * 10 + digitOf c
    if fits && grown ≤ maxWord then wholePart { parts with significand := grown } true cs
    else wholePart { parts with exponent := parts.exponent + 1 } false cs

def fractionPart : Parts → Text → Parts
  | parts, [] => parts
  | parts, c :: cs =>
    let grown := parts.significand * 10 + digitOf c
    if grown ≤ maxWord then fractionPart ⟨grown, parts.exponent - 1⟩ cs else parts

def tenTo (k : Nat) : Double := (Double.ofNat (Nat.pow 10 k)).getD .zero

/-- A double times ten to the `exponent`: one rounding within 308 places, and divisions by 308
places at a time below. -/
def scale (x : Double) (exponent : Int) : Option Double :=
  if exponent.natAbs ≤ 308 then
    if exponent ≥ 0 then x.mul (tenTo exponent.toNat) else x.div (tenTo (-exponent).toNat)
  else if x.significand = 0 then some x
  else if exponent ≥ 0 then none
  else (x.div (tenTo 308)).bind fun y => scale y (exponent + 308)
termination_by exponent.natAbs

def scaleBy (parts : Parts) (negative : Bool) (digits : Text) : Option Double :=
  let written := digits.foldl (fun n c => n * 10 + digitOf c) 0
  if written > maxExponent then
    if parts.significand ≠ 0 ∧ ¬negative then none else some .zero
  else
    (Double.ofNat parts.significand).bind fun x =>
      scale x (if negative then parts.exponent - written else parts.exponent + written)

structure Numeral where
  negative : Bool
  whole : Text
  fraction : Option Text
  exponent : Option (Bool × Text)

def Parts.double (parts : Parts) : Option (Bool × Text) → Option Double
  | some (negative, digits) => scaleBy parts negative digits
  | none => (Double.ofNat parts.significand).bind fun x => scale x parts.exponent

def Numeral.value (n : Numeral) : Option Number :=
  let (parts, fits) := wholePart ⟨0, 0⟩ true n.whole
  let double (parts : Parts) : Option Number :=
    (parts.double n.exponent).map fun x => .double (x.withSign n.negative)
  match n.fraction, n.exponent with
  | some digits, _ => double (fractionPart parts digits)
  | none, some _ => double parts
  | none, none =>
    if !fits then double parts
    else if !n.negative then some (.whole parts.significand)
    else if parts.significand = 0 ∨ Nat.pow 2 63 < parts.significand then double parts
    else some (.minus parts.significand)

def readExponent (text : Text) : Option (Option (Bool × Text) × Text) :=
  match text with
  | c :: cs =>
    if c = 'e' ∨ c = 'E' then
      let (negative, cs) :=
        match cs with
        | '+' :: rest => (false, rest)
        | '-' :: rest => (true, rest)
        | rest => (false, rest)
      match cs.takeWhile Char.isDigit with
      | [] => none
      | digits => some (some (negative, digits), cs.dropWhile Char.isDigit)
    else some (none, text)
  | [] => some (none, text)

def readFraction (text : Text) : Option (Option Text × Text) :=
  match text with
  | '.' :: cs =>
    match cs.takeWhile Char.isDigit with
    | [] => none
    | digits => some (some digits, cs.dropWhile Char.isDigit)
  | _ => some (none, text)

def readNumber (text : Text) : Option (Numeral × Text) :=
  let (negative, text) :=
    match text with
    | '-' :: rest => (true, rest)
    | rest => (false, rest)
  match text.takeWhile Char.isDigit with
  | [] => none
  | '0' :: _ :: _ => none
  | whole =>
    (readFraction (text.dropWhile Char.isDigit)).bind fun (fraction, text) =>
      (readExponent text).map fun (exponent, text) =>
        (⟨negative, whole, fraction, exponent⟩, text)

inductive StringPart where
  | char (c : Char)
  | unit (n : Nat)

def hexValue? (c : Char) : Option Nat :=
  if c.isDigit then some (c.toNat - 48)
  else if 'a' ≤ c ∧ c ≤ 'f' then some (c.toNat - 87)
  else if 'A' ≤ c ∧ c ≤ 'F' then some (c.toNat - 55)
  else none

def hexNumber? (digits : Text) : Option Nat :=
  digits.foldl (fun n c => n.bind fun n => (hexValue? c).map fun d => n * 16 + d) (some 0)

def simpleEscape? (c : Char) : Option Char :=
  if c = '"' ∨ c = '\\' ∨ c = '/' then some c
  else if c = 'b' then some '\x08'
  else if c = 'f' then some '\x0c'
  else if c = 'n' then some '\n'
  else if c = 'r' then some '\r'
  else if c = 't' then some '\t'
  else none

def readString : Text → Option (List StringPart × Text)
  | [] => none
  | '"' :: rest => some ([], rest)
  | '\\' :: 'u' :: a :: b :: c :: d :: rest =>
    (hexNumber? [a, b, c, d]).bind fun n =>
      (readString rest).map fun (parts, rest) => (.unit n :: parts, rest)
  | '\\' :: c :: rest =>
    (simpleEscape? c).bind fun c =>
      (readString rest).map fun (parts, rest) => (.char c :: parts, rest)
  | c :: rest =>
    if c.toNat < 0x20 ∨ c = '\\' then none
    else (readString rest).map fun (parts, rest) => (.char c :: parts, rest)

def isHighSurrogate (n : Nat) : Bool := 0xD800 ≤ n && n ≤ 0xDBFF

def isLowSurrogate (n : Nat) : Bool := 0xDC00 ≤ n && n ≤ 0xDFFF

/-- The characters of a string; none when a surrogate stands alone. -/
def decodeString : List StringPart → Option Text
  | [] => some []
  | .char c :: rest => (decodeString rest).map (c :: ·)
  | .unit high :: .unit low :: rest =>
    if isHighSurrogate high then
      if isLowSurrogate low then
        (decodeString rest).map
          (Char.ofNat (0x10000 + (high - 0xD800) * 0x400 + (low - 0xDC00)) :: ·)
      else none
    else if isLowSurrogate high then none
    else (decodeString (.unit low :: rest)).map (Char.ofNat high :: ·)
  | .unit n :: rest =>
    if isHighSurrogate n || isLowSurrogate n then none
    else (decodeString rest).map (Char.ofNat n :: ·)

def isSpace (c : Char) : Bool := c == ' ' || c == '\t' || c == '\n' || c == '\r'

def readToken (text : Text) : Option (Token × Text) :=
  match text with
  | '{' :: rest => some (.openBrace, rest)
  | '}' :: rest => some (.closeBrace, rest)
  | '[' :: rest => some (.openBracket, rest)
  | ']' :: rest => some (.closeBracket, rest)
  | ':' :: rest => some (.colon, rest)
  | ',' :: rest => some (.comma, rest)
  | 'n' :: 'u' :: 'l' :: 'l' :: rest => some (.literal .null, rest)
  | 't' :: 'r' :: 'u' :: 'e' :: rest => some (.literal (.bool true), rest)
  | 'f' :: 'a' :: 'l' :: 's' :: 'e' :: rest => some (.literal (.bool false), rest)
  | '"' :: rest =>
    (readString rest).map fun (parts, rest) =>
      (.string ((decodeString parts).map String.ofList), rest)
  | _ => (readNumber text).map fun (numeral, rest) => (.number numeral.value, rest)

def readTokens : Nat → Text → Option (List Token)
  | fuel, text =>
    match text.dropWhile isSpace, fuel with
    | [], _ => some []
    | _, 0 => none
    | text, fuel + 1 =>
      (readToken text).bind fun (token, rest) => (readTokens fuel rest).map (token :: ·)

/-- The tokens of a text. Each takes at least one character, so there are no more than those. -/
def tokens (text : Text) : Option (List Token) := readTokens text.length text

end NestLint.Json
