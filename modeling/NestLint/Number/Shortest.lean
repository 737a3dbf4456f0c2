import NestLint.Number.Double

/-!
The fewest decimal digits that still single out a double. Every real number nearer to the double
than to any other rounds to it; these numbers form an interval, its ends included when the
significand is even. For one digit, two digits and so on, the two neighbours of the double on that
decimal grid are tested, in exact arithmetic; the first grid with a hit gives the digits, and of two
hits the nearer counts.
-/

namespace NestLint

structure Digits where
  digits : Nat
  exponent : Int
deriving DecidableEq, Repr

namespace Double

def ratioLt (a b : Nat × Nat) : Bool := a.1 * b.2 < b.1 * a.2

def ratioLe (a b : Nat × Nat) : Bool := a.1 * b.2 ≤ b.1 * a.2

def scaled (units : Nat) (e : Int) : Nat × Nat :=
  (units * Nat.pow 2 e.toNat, Nat.pow 2 (-e).toNat)

/-- The lower end of the interval that rounds to the double. Below a power of two the doubles lie
twice as dense. -/
def lower (x : Double) : Nat × Nat :=
  if x.significand = Nat.pow 2 52 ∧ x.exponent > -1074 then
    scaled (4 * x.significand - 1) (x.exponent - 2)
  else scaled (2 * x.significand - 1) (x.exponent - 1)

def upper (x : Double) : Nat × Nat := scaled (2 * x.significand + 1) (x.exponent - 1)

def admits (x : Double) (value : Nat × Nat) : Bool :=
  if x.significand % 2 = 0 then ratioLe x.lower value && ratioLe value x.upper
  else ratioLt x.lower value && ratioLt value x.upper

def decimal (digits : Nat) (p : Int) : Nat × Nat :=
  (digits * Nat.pow 10 p.toNat, Nat.pow 10 (-p).toNat)

def tensBelow (num den : Nat) : Nat → Nat
  | 0 => 0
  | fuel + 1 => if num ≥ den then 0 else tensBelow (num * 10) den fuel + 1

def magnitude (x : Double) : Int :=
  if x.num ≥ x.den then (Nat.toDigits 10 (x.num / x.den)).length - 1
  else -(tensBelow x.num x.den 400 : Int)

def nearestOn (x : Double) (p : Int) : Option Nat :=
  let (unitNum, unitDen) := decimal 1 p
  let num := x.num * unitDen
  let den := x.den * unitNum
  let down := num / den
  let up := down + 1
  match x.admits (decimal down p) && down != 0, x.admits (decimal up p) with
  | true, true => some (if 2 * (num % den) < den then down else if 2 * (num % den) > den then up
      else if down % 2 = 0 then down else up)
  | true, false => some down
  | false, true => some up
  | false, false => none

def searchGrid (x : Double) : Nat → Int → Nat × Int
  | 0, p => (0, p)
  | fuel + 1, p =>
    match x.nearestOn p with
    | some digits => (digits, p)
    | none => searchGrid x fuel (p - 1)

def dropZeros : Nat → Nat → Int → Nat × Int
  | 0, digits, p => (digits, p)
  | fuel + 1, digits, p =>
    if digits % 10 = 0 then dropZeros fuel (digits / 10) (p + 1) else (digits, p)

/-- The shortest digits of a double that is not zero: `digits` without trailing zeros, to be read
with the point behind the first digit and times ten to the `exponent`. -/
def shortest (x : Double) : Digits :=
  let (digits, p) := searchGrid x 18 x.magnitude
  let (digits, p) := dropZeros 20 digits p
  ⟨digits, p + (Nat.toDigits 10 digits).length - 1⟩

end Double

end NestLint
