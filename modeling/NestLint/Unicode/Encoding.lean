import NestLint.Unicode.Ranges

/-!
The encodings of a set of characters. A character is written in one to four bytes, and the
encodings of a range of characters fall into sequences of ranges of bytes: a sequence stands for
all ways to take one byte from each of its ranges.
-/

namespace NestLint.Unicode

abbrev ByteRange := Nat × Nat

/-- The characters with encodings of one length lie in these ranges, given with the number of bytes
behind the first one. What is left out between the third and the fourth is no character. -/
def encodingRanges : List (Nat × Nat × Nat) :=
  [(0, 0x7F, 0), (0x80, 0x7FF, 1), (0x800, 0xD7FF, 2), (0xE000, 0xFFFF, 2),
    (0x10000, Ranges.last, 3)]

def maxEncoding : Nat := 4

def encode (c : Char) : List Nat := (String.utf8EncodeChar c).map UInt8.toNat

/-- Cuts a range into parts in each of which every byte runs over a range of its own. `block`
characters have all bytes but the last ones in common; a block that is not in the range as a whole
is a part by itself, and what is between such blocks is cut into larger blocks. -/
def blocks : Nat → Nat → Nat → Nat → Ranges
  | 0, _, lo, hi => [(lo, hi)]
  | levels + 1, block, lo, hi =>
    if lo / block = hi / block then [(lo, hi)]
    else
      let start := (lo + block - 1) / block * block
      let stop := (hi + 1) / block * block
      (if lo < start then [(lo, start - 1)] else []) ++
        (if start < stop then blocks levels (64 * block) start (stop - 1) else []) ++
        (if stop ≤ hi then [(stop, hi)] else [])

namespace Ranges

def characters (set : Ranges) : Ranges := diff set [(0xD800, 0xDFFF)]

def encodings (set : Ranges) : List (List ByteRange) :=
  set.flatMap fun (lo, hi) =>
    encodingRanges.flatMap fun (first, last, further) =>
      let lo := max lo first
      let hi := min hi last
      if lo ≤ hi then
        (blocks further 64 lo hi).map fun (lo, hi) =>
          (encode (Char.ofNat lo)).zip (encode (Char.ofNat hi))
      else []

end Ranges

end NestLint.Unicode
