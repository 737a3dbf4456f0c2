import NestLint.Json.Basic
import NestLint.Text.Basic

/-!
The values of TOML that hold no others: strings in four notations, whole numbers in four bases,
floating-point numbers, truth values, dates and times. Numbers that are not finite have no
counterpart in JSON and become null; a date or time becomes an object with its text.
-/

namespace NestLint.Toml

abbrev Reader := StateT Text Option

def fail {α : Type} : Reader α := fun _ => none

def peek : Reader (Option Char) := do return (← get).head?

def next : Reader Char := do
  match ← get with
  | c :: cs => set cs; return c
  | [] => fail

def takeWhile (p : Char → Bool) : Reader Text := do
  let text ← get
  set (text.dropWhile p)
  return text.takeWhile p

def expect (front : String) : Reader Unit := do
  match Text.strip front.toList (← get) with
  | some rest => set rest
  | none => fail

def accept (front : String) : Reader Bool := do
  match Text.strip front.toList (← get) with
  | some rest => set rest; return true
  | none => return false

def orElse {α : Type} (first second : Reader α) : Reader α := fun text =>
  match first text with
  | some found => some found
  | none => second text

def isSpace (c : Char) : Bool := c == ' ' || c == '\t'

def spaces : Reader Unit := do let _ ← takeWhile isSpace

def newline? : Reader Bool := do
  if ← accept "\n" then return true
  accept "\r\n"

def isPrintable (c : Char) : Bool := c == '\t' || (0x20 ≤ c.toNat && c.toNat != 0x7F)

def hexDigit? (c : Char) : Option Nat :=
  if c.isDigit then some (c.toNat - 48)
  else if 'a' ≤ c ∧ c ≤ 'f' then some (c.toNat - 87)
  else if 'A' ≤ c ∧ c ≤ 'F' then some (c.toNat - 55)
  else none

def hexNumber : Nat → Nat → Reader Nat
  | 0, n => return n
  | count + 1, n => do
    match hexDigit? (← next) with
    | some d => hexNumber count (n * 16 + d)
    | none => fail

def escape : Reader Char := do
  match ← next with
  | 'b' => return '\x08'
  | 't' => return '\t'
  | 'n' => return '\n'
  | 'f' => return '\x0c'
  | 'r' => return '\r'
  | '"' => return '"'
  | '\\' => return '\\'
  | 'u' =>
    let n ← hexNumber 4 0
    if n.isValidChar then return Char.ofNat n else fail
  | 'U' =>
    let n ← hexNumber 8 0
    if n.isValidChar then return Char.ofNat n else fail
  | _ => fail

def basicString : Nat → Reader Text
  | 0 => fail
  | fuel + 1 => do
    let c ← next
    if c = '"' then return []
    else if c = '\\' then
      let c ← escape
      return c :: (← basicString fuel)
    else if isPrintable c then return c :: (← basicString fuel)
    else fail

def literalString : Reader Text := do
  let text ← takeWhile fun c => isPrintable c && c != '\''
  expect "'"
  return text

def skipLines : Nat → Reader Unit
  | 0 => return ()
  | fuel + 1 => do
    spaces
    if ← newline? then skipLines fuel

/-- The quotes at the end of a string over several lines: three close it, and up to two more stand
before them. -/
def closing (quote : Char) : Reader (Option Text) := do
  let text ← get
  let count := (text.takeWhile (· == quote)).length
  if count < 3 then return none
  let extra := min (count - 3) 2
  set (text.drop (3 + extra))
  return some (List.replicate extra quote)

def basicLines : Nat → Reader Text
  | 0 => fail
  | fuel + 1 => do
    match ← closing '"' with
    | some extra => return extra
    | none =>
      if ← newline? then return '\n' :: (← basicLines fuel)
      let c ← next
      if c = '\\' then
        let before ← get
        spaces
        if ← newline? then
          skipLines before.length
          basicLines fuel
        else
          set before
          let c ← escape
          return c :: (← basicLines fuel)
      else if isPrintable c then return c :: (← basicLines fuel)
      else fail

def literalLines : Nat → Reader Text
  | 0 => fail
  | fuel + 1 => do
    match ← closing '\'' with
    | some extra => return extra
    | none =>
      if ← newline? then return '\n' :: (← literalLines fuel)
      let c ← next
      if isPrintable c then return c :: (← literalLines fuel) else fail

def lineString : Reader Text := do
  let fuel := (← get).length + 1
  if ← accept "\"" then basicString fuel
  else
    expect "'"
    literalString

def string : Reader Json := do
  let fuel := (← get).length + 1
  let text ←
    if ← accept "\"\"\"" then do
      let _ ← newline?
      basicLines fuel
    else if ← accept "'''" then do
      let _ ← newline?
      literalLines fuel
    else lineString
  return .string (String.ofList text)

def digits (p : Char → Bool) : Nat → Reader Text
  | 0 => fail
  | fuel + 1 => do
    let c ← next
    if !p c then fail
    match ← peek with
    | some '_' =>
      let _ ← next
      return c :: (← digits p fuel)
    | some d => if p d then return c :: (← digits p fuel) else return [c]
    | none => return [c]

def digitsOf (p : Char → Bool) : Reader Text := do digits p ((← get).length + 1)

def number (base : Nat) (digits : Text) : Nat :=
  digits.foldl (fun n c => n * base + (hexDigit? c).getD 0) 0

def sign : Reader Bool := do
  if ← accept "-" then return true
  let _ ← accept "+"
  return false

/-- The digits of a decimal whole number: no zero in front of others. -/
def wholeDigits : Reader Text := do
  match ← peek with
  | some '0' =>
    let _ ← next
    return ['0']
  | _ => digitsOf Char.isDigit

def integerJson (negative : Bool) (n : Nat) : Reader Json := do
  if negative then
    if n ≤ Nat.pow 2 63 then return .number (if n = 0 then .whole 0 else .minus n) else fail
  else if n < Nat.pow 2 63 then return .number (.whole n)
  else fail

def integer : Reader Json := do
  if ← accept "0x" then
    integerJson false (number 16 (← digitsOf fun c => (hexDigit? c).isSome))
  else if ← accept "0o" then
    integerJson false (number 8 (← digitsOf fun c => '0' ≤ c && c ≤ '7'))
  else if ← accept "0b" then
    integerJson false (number 2 (← digitsOf fun c => c == '0' || c == '1'))
  else
    let negative ← sign
    integerJson negative (number 10 (← wholeDigits))

def exponent : Reader Int := do
  let negative ← sign
  let n := number 10 (← digitsOf Char.isDigit)
  return if negative then -n else n

/-- A floating-point number that is too large is an error, unless it is negative. -/
def float : Reader Json := do
  let negative ← sign
  if ← accept "inf" then return .null
  if ← accept "nan" then return .null
  let whole ← wholeDigits
  let fraction ← if ← accept "." then digitsOf Char.isDigit else pure []
  let power ←
    match ← peek with
    | some c =>
      if c = 'e' ∨ c = 'E' then do
        let _ ← next
        exponent
      else if fraction.isEmpty then fail
      else pure 0
    | none => if fraction.isEmpty then fail else pure 0
  match Double.ofDecimal (number 10 (whole ++ fraction)) (power - fraction.length) with
  | some x => return .number (.double (x.withSign negative))
  | none => if negative then return .null else fail

def fixedDigits : Nat → Nat → Reader Nat
  | 0, n => return n
  | count + 1, n => do
    let c ← next
    if c.isDigit then fixedDigits count (n * 10 + (c.toNat - 48)) else fail

def twoDigits (least most : Nat) : Reader Nat := do
  let n ← fixedDigits 2 0
  if least ≤ n && n ≤ most then return n else fail

def padded (width n : Nat) : Text :=
  let digits := Nat.toDigits 10 n
  List.replicate (width - digits.length) '0' ++ digits

def monthDays (year month : Nat) : Nat :=
  if month = 2 then
    if year % 4 = 0 ∧ (year % 100 ≠ 0 ∨ year % 400 = 0) then 29 else 28
  else if month = 4 ∨ month = 6 ∨ month = 9 ∨ month = 11 then 30
  else 31

def date : Reader Text := do
  let year ← fixedDigits 4 0
  expect "-"
  let month ← twoDigits 1 12
  expect "-"
  let day ← twoDigits 1 31
  if day > monthDays year month then fail
  return padded 4 year ++ '-' :: padded 2 month ++ '-' :: padded 2 day

/-- The digits of a second, at most nine and without zeros at the end. -/
def secondFraction : Reader Text := do
  if ← accept "." then
    let digits ← takeWhile Char.isDigit
    if digits.isEmpty then fail
    match (Text.splitEnd (· == '0') (digits.take 9)).1 with
    | [] => return []
    | kept => return '.' :: kept
  else return []

def time : Reader Text := do
  let hour ← twoDigits 0 23
  expect ":"
  let minute ← twoDigits 0 59
  expect ":"
  let second ← twoDigits 0 60
  let fraction ← secondFraction
  return padded 2 hour ++ ':' :: padded 2 minute ++ ':' :: padded 2 second ++ fraction

def offset : Reader Text := do
  match ← peek with
  | some c =>
    if c = 'Z' ∨ c = 'z' then
      let _ ← next
      return ['Z']
    else if c = '+' ∨ c = '-' then
      let _ ← next
      let hour ← twoDigits 0 23
      expect ":"
      let minute ← twoDigits 0 59
      let mark := if hour = 0 ∧ minute = 0 then '+' else c
      return mark :: padded 2 hour ++ ':' :: padded 2 minute
    else return []
  | none => return []

def timeBehindDate : Reader Text := do
  let c ← next
  if c = 'T' ∨ c = 't' ∨ c = ' ' then
    let time ← time
    return 'T' :: time ++ (← offset)
  else fail

def dateJson (text : Text) : Json :=
  .object [("$__toml_private_datetime", .string (String.ofList text))]

def dateTime : Reader Json := do
  let withDate : Reader Text := do
    let day ← date
    let rest ← orElse timeBehindDate (return [])
    return day ++ rest
  return dateJson (← orElse withDate time)

def numeric : Reader Json := orElse dateTime (orElse float integer)

end NestLint.Toml
