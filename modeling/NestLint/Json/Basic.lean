import NestLint.Number.Double

/-!
JSON values. Numbers that a signed or unsigned word of 64 bits can hold stay whole numbers, and
all others are doubles. An object that was read has its keys in order and none of them twice; an
object that is only written keeps the order it was given.
-/

namespace NestLint

namespace Json

inductive Number where
  /-- Zero or more. -/
  | whole (n : Nat)
  /-- Minus `n`, which is not zero. -/
  | minus (n : Nat)
  | double (x : Double)
deriving DecidableEq, Repr

end Json

inductive Json where
  | null
  | bool (b : Bool)
  | number (n : Json.Number)
  | string (s : String)
  | array (items : List Json)
  | object (members : List (String × Json))
deriving Repr, Inhabited

namespace Json

def insertMember (key : String) (value : Json) : List (String × Json) → List (String × Json)
  | [] => [(key, value)]
  | (k, v) :: rest =>
    if key < k then (key, value) :: (k, v) :: rest
    else if key = k then (key, value) :: rest
    else (k, v) :: insertMember key value rest

def sortMembers (members : List (String × Json)) : List (String × Json) :=
  members.foldl (fun done (key, value) => insertMember key value done) []

def ofNat (n : Nat) : Json := .number (.whole n)

def get? (key : String) : Json → Option Json
  | .object members => (members.find? fun (k, _) => k == key).map Prod.snd
  | _ => none

end Json

end NestLint
