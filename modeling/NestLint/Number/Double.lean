/-!
Finite doubles: a sign and a significand times a power of two, at most 53 bits and an exponent of
at least -1074. Arithmetic goes through exact fractions of natural numbers and rounds once, to the
nearest double and in a tie to the even significand.
-/

namespace NestLint

structure Double where
  negative : Bool := false
  significand : Nat
  exponent : Int
deriving DecidableEq, Repr

namespace Double

def zero : Double := ⟨false, 0, -1074⟩

/-- The quotient rounded to the nearest number, a half to the even one. -/
def roundDiv (num den : Nat) : Nat :=
  let q := num / den
  let r := num % den
  if 2 * r < den then q else if 2 * r > den then q + 1 else q + q % 2

def shifted (num den : Nat) (e : Int) : Nat × Nat :=
  if e < 0 then (num * Nat.pow 2 (-e).toNat, den) else (num, den * Nat.pow 2 e.toNat)

/-- The exponent at which the fraction has a significand of 53 bits, or -1074 if that is more. -/
def exponentFor (num den : Nat) : Int :=
  let e : Int := (Nat.log2 num : Int) - Nat.log2 den - 53
  let (n, d) := shifted num den e
  max (if n / d < Nat.pow 2 53 then e else e + 1) (-1074)

def ofRatio (num den : Nat) : Option Double :=
  if num = 0 then some zero
  else
    let e := exponentFor num den
    let (n, d) := shifted num den e
    let m := roundDiv n d
    let result : Double :=
      if m = Nat.pow 2 53 then ⟨false, Nat.pow 2 52, e + 1⟩ else ⟨false, m, e⟩
    if result.exponent > 971 then none else some result

def num (x : Double) : Nat := x.significand * Nat.pow 2 x.exponent.toNat

def den (x : Double) : Nat := Nat.pow 2 (-x.exponent).toNat

def mul (x y : Double) : Option Double := ofRatio (x.num * y.num) (x.den * y.den)

def div (x y : Double) : Option Double := ofRatio (x.num * y.den) (x.den * y.num)

def ofNat (n : Nat) : Option Double := ofRatio n 1

/-- The double nearest to a decimal; none when it is too large. Decimals far outside the range of
doubles are decided by their number of places. -/
def ofDecimal (significand : Nat) (exponent : Int) : Option Double :=
  let places : Int := exponent + (Nat.toDigits 10 significand).length
  if significand = 0 ∨ places < -330 then some zero
  else if places > 310 then none
  else ofRatio (significand * Nat.pow 10 exponent.toNat) (Nat.pow 10 (-exponent).toNat)

def withSign (negative : Bool) (x : Double) : Double := { x with negative := negative }

end Double

end NestLint
