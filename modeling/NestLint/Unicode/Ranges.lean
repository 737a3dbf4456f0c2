/-!
Sets of characters as ranges of code points. The tables write a set as lines of hexadecimal numbers
and ranges, set apart by blanks.
-/

namespace NestLint.Unicode

abbrev Ranges := List (Nat × Nat)

def hexNumber (text : String) : Nat :=
  text.toList.foldl (fun n c => n * 16 + if c.isDigit then c.toNat - 48 else c.toNat - 87) 0

namespace Ranges

def ofLines (lines : List String) : Ranges :=
  lines.flatMap fun line =>
    (line.splitOn " ").map fun part =>
      match part.splitOn "-" with
      | [lo, hi] => (hexNumber lo, hexNumber hi)
      | _ => (hexNumber part, hexNumber part)

def contains (set : Ranges) (n : Nat) : Bool := set.any fun (lo, hi) => lo ≤ n && n ≤ hi

def mergeFrom (lo hi : Nat) : Ranges → Ranges
  | [] => [(lo, hi)]
  | (lo', hi') :: rest =>
    if lo' ≤ hi + 1 then mergeFrom lo (max hi hi') rest else (lo, hi) :: mergeFrom lo' hi' rest

def merge : Ranges → Ranges
  | [] => []
  | (lo, hi) :: rest => mergeFrom lo hi rest

def union (set : Ranges) : Ranges :=
  merge (set.mergeSort fun a b => a.1 ≤ b.1)

def last : Nat := 0x10FFFF

def gaps (start : Nat) : Ranges → Ranges
  | [] => if start ≤ last then [(start, last)] else []
  | (lo, hi) :: rest =>
    if start < lo then (start, lo - 1) :: gaps (hi + 1) rest else gaps (hi + 1) rest

def complement (set : Ranges) : Ranges := gaps 0 (union set)

def inter (a b : Ranges) : Ranges :=
  union (a.flatMap fun (lo, hi) =>
    b.filterMap fun (lo', hi') =>
      if max lo lo' ≤ min hi hi' then some (max lo lo', min hi hi') else none)

def diff (a b : Ranges) : Ranges := inter a (complement b)

def symmDiff (a b : Ranges) : Ranges := union (diff a b ++ diff b a)

end Ranges

end NestLint.Unicode
