import NestLint.Text.Basic

/-!
Places in a source text. A place is given three ways at once: the bytes before it, its line
counted from one, and its column, one more than the bytes since the last line break. Walking past
a text moves the place character by character, so places compose with concatenation.
-/

namespace NestLint

structure Position where
  offset : Nat
  line : Nat
  column : Nat
deriving DecidableEq, Repr, Inhabited

namespace Position

def start : Position := ⟨0, 1, 1⟩

/-- The place as it is stored, in numbers of 32 bits that go round. -/
def kept (p : Position) : Position := ⟨p.offset % 0x100000000, p.line % 0x100000000, p.column % 0x100000000⟩

def advance (p : Position) (c : Char) : Position :=
  if c = '\n' then ⟨p.offset + 1, p.line + 1, 1⟩
  else ⟨p.offset + c.utf8Size, p.line, p.column + c.utf8Size⟩

def past (p : Position) (text : Text) : Position := text.foldl advance p

@[simp] theorem past_nil (p : Position) : p.past [] = p := rfl

@[simp] theorem past_cons (p : Position) (c : Char) (text : Text) :
    p.past (c :: text) = (p.advance c).past text := rfl

theorem past_append (p : Position) (first second : Text) :
    p.past (first ++ second) = (p.past first).past second :=
  List.foldl_append

theorem offset_advance (p : Position) (c : Char) :
    (p.advance c).offset = p.offset + c.utf8Size := by
  by_cases newline : c = '\n'
  · subst newline
    rfl
  · simp [advance, newline]

theorem offset_past (p : Position) (text : Text) :
    (p.past text).offset = p.offset + Text.byteSize text := by
  induction text generalizing p with
  | nil => rfl
  | cons c cs ih => rw [past_cons, ih, offset_advance, Text.byteSize, Nat.add_assoc]

end Position

/-- A stretch of the source, from `start` up to `stop`, which is not part of it. -/
structure Span where
  start : Position
  stop : Position
deriving DecidableEq, Repr, Inhabited

end NestLint
