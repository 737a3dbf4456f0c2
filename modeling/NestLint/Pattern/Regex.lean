import NestLint.Text.Basic
import NestLint.Unicode.Property

/-!
Regular expressions and where they match. A set of places in a text is a number, bit `i` standing
for the place before character `i`; an expression turns the set of places where it may begin into
the set of places where it may end. A loop adds places until none is new, and there are no more
places than characters and one.
-/

namespace NestLint

open Unicode (Ranges)

inductive Look where
  | textStart
  | textEnd
  | lineStart
  | lineEnd
  /-- As `lineStart`, but a carriage return also ends a line, and one before a line feed only
  together with it. -/
  | lineStartReturn
  | lineEndReturn
  /-- Exactly one neighbour is a word character; `ascii` counts letters of ASCII only. -/
  | wordBoundary (ascii : Bool)
  | notWordBoundary (ascii : Bool)
  | wordStart (ascii : Bool)
  | wordEnd (ascii : Bool)
  | wordStartHalf (ascii : Bool)
  | wordEndHalf (ascii : Bool)
deriving DecidableEq, Repr

inductive Regex where
  | empty
  | chars (set : Ranges)
  | seq (first second : Regex)
  | alt (first second : Regex)
  | loop (body : Regex) (least : Nat) (most : Option Nat)
  | look (look : Look)
deriving Repr, Inhabited

namespace Regex

/-- Word characters: letters, marks, decimal digits, connectors and joiners. -/
def wordRanges : Ranges :=
  Ranges.union
    ((["alphabetic", "joincontrol"].flatMap fun name => (Unicode.property? name).getD []) ++
      ["m", "nd", "pc"].flatMap fun name => (Unicode.category? name).getD [])

def asciiWordRanges : Ranges := [(48, 57), (65, 90), (95, 95), (97, 122)]

def isWord (ascii : Bool) : Option Char → Bool
  | some c => (if ascii then asciiWordRanges else wordRanges).contains c.toNat
  | none => false

def holds (before after : Option Char) : Look → Bool
  | .textStart => before.isNone
  | .textEnd => after.isNone
  | .lineStart => before.isNone || before == some '\n'
  | .lineEnd => after.isNone || after == some '\n'
  | .lineStartReturn =>
    before.isNone || before == some '\n' || (before == some '\r' && after != some '\n')
  | .lineEndReturn =>
    after.isNone || after == some '\r' || (after == some '\n' && before != some '\r')
  | .wordBoundary ascii => isWord ascii before != isWord ascii after
  | .notWordBoundary ascii => isWord ascii before == isWord ascii after
  | .wordStart ascii => !isWord ascii before && isWord ascii after
  | .wordEnd ascii => isWord ascii before && !isWord ascii after
  | .wordStartHalf ascii => !isWord ascii before
  | .wordEndHalf ascii => !isWord ascii after

def charPlaces (p : Char → Bool) : Text → Nat
  | [] => 0
  | c :: cs => 2 * charPlaces p cs + (if p c then 1 else 0)

def lookPlaces (look : Look) (before : Option Char) : Text → Nat
  | [] => if holds before none look then 1 else 0
  | c :: cs =>
    2 * lookPlaces look (some c) cs + (if holds before (some c) look then 1 else 0)

def closure (f : Nat → Nat) : Nat → Nat → Nat
  | 0, places => places
  | fuel + 1, places =>
    let grown := places ||| f places
    if grown = places then places else closure f fuel grown

def times (f : Nat → Nat) : Nat → Nat → Nat
  | 0, places => places
  | n + 1, places => times f n (f places)

/-- The places where the expression may end when it begins at one of `places`. A loop need not run
more often than there are places: a path that long stands still somewhere. -/
def ends (text : Text) : Regex → Nat → Nat
  | .empty, places => places
  | .chars set, places => (places &&& charPlaces (fun c => set.contains c.toNat) text) <<< 1
  | .seq first second, places => ends text second (ends text first places)
  | .alt first second, places => ends text first places ||| ends text second places
  | .loop body least most, places =>
    let enough := text.length + 2
    let start := times (ends text body) (min least enough) places
    match most with
    | none => closure (ends text body) enough start
    | some most => closure (ends text body) (min (most - least) enough) start
  | .look condition, places => places &&& lookPlaces condition none text

/-- Whether the expression matches somewhere in the text. -/
def matchesIn (regex : Regex) (text : Text) : Bool :=
  ends text regex (Nat.pow 2 (text.length + 1) - 1) != 0

end Regex

end NestLint
