import NestLint.Pattern.Outline
import Std.Data.HashMap

/-!
How large an automaton for an outline is. A state takes 32 bytes, an arrow for a range of bytes 8
more and an arrow without bytes 4 more. The automaton is laid out twice, once to read forward and
once to read backward, and neither may be larger than ten mebibytes.
-/

namespace NestLint

open Unicode (Ranges ByteRange)

structure Extent where
  states : Nat := 0
  bytes : Nat := 0
deriving DecidableEq, Repr

namespace Extent

def limit : Nat := 10 * Nat.pow 2 20

def spend (bytes : Nat) (extent : Extent) : Option Extent :=
  if extent.bytes + bytes ≤ limit then some { extent with bytes := extent.bytes + bytes } else none

def add (states : Nat) (extent : Extent) : Option Extent :=
  spend (32 * states) { extent with states := extent.states + states }

def again (f : Extent → Option Extent) : Nat → Extent → Option Extent
  | 0, extent => some extent
  | n + 1, extent =>
    match f extent with
    | some extent => again f n extent
    | none => none

end Extent

/-- The states of a set that can be shared, each under the list of its arrows. There is a fixed
number of slots, and what comes to a slot takes the place of what was there. -/
structure Memo where
  slots : Nat
  entries : Std.HashMap Nat (List Nat × Nat) := {}

namespace Memo

def forwardSlots : Nat := 10000

def backwardSlots : Nat := 1000

def mix (numbers : List Nat) : UInt64 :=
  numbers.foldl (fun mixed n => (mixed ^^^ n.toUInt64) * 0x100000001B3) 0xCBF29CE484222325

def slot (memo : Memo) (arrows : List Nat) : Nat := (mix arrows).toNat % memo.slots

def find? (memo : Memo) (arrows : List Nat) : Option Nat :=
  match memo.entries[memo.slot arrows]? with
  | some (known, state) => if known = arrows then some state else none
  | none => none

def insert (memo : Memo) (arrows : List Nat) (state : Nat) : Memo :=
  { memo with entries := memo.entries.insert (memo.slot arrows) (arrows, state) }

end Memo

abbrev Sharing := StateT (Memo × Extent) Option

namespace Sharing

def state (arrows : List Nat) (bytes : Nat) : Sharing Nat := do
  let (memo, extent) ← get
  match memo.find? arrows with
  | some state => return state
  | none =>
    let grown ← (extent.add 1).bind (Extent.spend bytes)
    set (memo.insert arrows extent.states, grown)
    return extent.states

/-- The state from which the given sequences, no longer than a given length, lead to `stop`.
Sequences that begin with the same range have an arrow in common. -/
def forward (stop : Nat) : Nat → List (List ByteRange) → Sharing Nat
  | 0, _ => return stop
  | length + 1, sequences =>
    if sequences.all List.isEmpty then return stop
    else do
      let arrows ← (sequences.splitBy fun a b => a.head? == b.head?).mapM fun same => do
        let next ← forward stop length (same.map List.tail)
        return match same with
          | ((lo, hi) :: _) :: _ => [lo, hi, next]
          | _ => []
      state arrows.flatten (8 * arrows.length)

def backward (stop : Nat) (sequence : List ByteRange) : Sharing Unit := do
  let _ ← sequence.foldlM (fun next (lo, hi) => state [next, lo, hi] 0) stop
  let (memo, extent) ← get
  set (memo, ← extent.spend 4)

def extent {α : Type} (slots : Nat) (layout : Sharing α) (extent : Extent) : Option Extent :=
  (layout.run ({ slots := slots }, extent)).map fun (_, _, extent) => extent

end Sharing

def Outline.runs {α : Type} (words : List (List α)) : List (List (List α)) :=
  let (first, rest) := words.span List.isEmpty
  let later := rest.foldr cut [[]]
  if first.isEmpty then later else [] :: later
where
  /-- Adds a word in front of the runs behind it. -/
  cut (word : List α) : List (List (List α)) → List (List (List α))
    | run :: later => if word.isEmpty then [] :: run :: later else (word :: run) :: later
    | [] => []

/-- The states of a choice between words, no longer than a given length, which share their
beginnings: one that reads the first byte for each run, and one in front of them. -/
def Outline.layWords : Nat → List (List Nat) → Extent → Option Extent
  | 0, _, extent => some extent
  | length + 1, words, extent => do
    let runs := Outline.runs words
    let extent ← runs.foldlM (fun extent run => do
      let heads := (run.filterMap List.head?).eraseDups
      let extent ← heads.foldlM (fun extent head =>
        let tails := (run.filter fun word => word.head? == some head).map List.tail
        if tails.all List.isEmpty then some extent else layWords length tails extent) extent
      if heads.isEmpty then some extent
      else
        (extent.add 1).bind (Extent.spend (4 + if heads.length = 1 then 0 else 8 * heads.length)))
      extent
    (extent.add 1).bind (Extent.spend (4 * (runs.length - 1)))

namespace Outline

def laySet (backward : Bool) (chars : Ranges) (extent : Extent) : Option Extent := do
  if chars.all fun (_, hi) => hi ≤ 0x7F then (extent.add 2).bind (Extent.spend (8 * chars.length))
  else if backward then
    let extent ← extent.add 2
    let layout := chars.encodings.forM (Sharing.backward (extent.states - 1))
    Sharing.extent Memo.backwardSlots layout extent
  else
    let extent ← extent.add 1
    let layout := Sharing.forward (extent.states - 1) Unicode.maxEncoding chars.encodings
    Sharing.extent Memo.forwardSlots layout extent

def layLoop (body : Extent → Option Extent) (consumes : Bool) (least : Nat) (most : Option Nat)
    (extent : Extent) : Option Extent := do
  let fork := fun extent => (Extent.add 1 extent).bind (Extent.spend 8)
  match least, most with
  | 0, none =>
    if consumes then (fork extent).bind body
    else ((((body extent).bind fork).bind fork).bind (Extent.add 1))
  | least, none => (Extent.again body least extent).bind fork
  | 0, some 1 => ((fork extent).bind body).bind (Extent.add 1)
  | least, some most =>
    let extent ← Extent.again body least extent
    if most ≤ least then some extent
    else
      let extent ← extent.add (if least = 0 then 2 else 1)
      Extent.again (fun extent => (fork extent).bind body) (most - least) extent

mutual
def lay (backward : Bool) : Outline → Extent → Option Extent
  | .empty, extent => extent.add 1
  | .text letters, extent => extent.add (letters.flatMap Unicode.encode).length
  | .set chars, extent => laySet backward chars extent
  | .look _, extent => extent.add 1
  | .loop body least most _, extent =>
    layLoop (lay backward body) ((shortest? body).any (0 < ·)) least most extent
  | .group _ body, extent =>
    if backward then lay backward body extent
    else ((extent.add 1).bind (lay backward body)).bind (Extent.add 1)
  | .seq parts, extent => layParts backward parts extent
  | .alt branches, extent =>
    match branches.mapM text? with
    | some texts =>
      let words := texts.map fun letters =>
        let bytes := letters.flatMap Unicode.encode
        if backward then bytes.reverse else bytes
      (extent.add 1).bind (layWords ((words.map List.length).foldl max 0) words)
    | none => (layBranches backward 0 branches extent).bind (Extent.spend (4 * branches.length))
def layParts (backward : Bool) : List Outline → Extent → Option Extent
  | [], extent => some extent
  | part :: rest, extent =>
    if backward then (layParts backward rest extent).bind (lay backward part)
    else (lay backward part extent).bind (layParts backward rest)
/-- The states of branches; where they divide and meet again has its states after the second
branch. -/
def layBranches (backward : Bool) : Nat → List Outline → Extent → Option Extent
  | _, [], extent => some extent
  | place, branch :: rest, extent =>
    ((lay backward branch extent).bind (Extent.add (if place = 1 then 2 else 0))).bind
      (layBranches backward (place + 1) rest)
end

/-- The whole automaton. Unless a match is tied to the end of the text where reading begins, any
bytes may come before it. Going forward, the match is remembered as a group. -/
def extent? (backward : Bool) (outline : Outline) : Option Extent := do
  let start : Extent := {}
  let before ←
    if outline.isTied backward then start.add 1 else (start.add 3).bind (Extent.spend 16)
  let inside ← lay backward (if backward then outline else .group 0 outline) before
  inside.add 1

def fits (outline : Outline) : Bool :=
  (outline.extent? false).isSome && (outline.extent? true).isSome

end Outline

end NestLint
