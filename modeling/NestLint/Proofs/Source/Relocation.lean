import NestLint.Proofs.Source.Prefixes
import NestLint.Proofs.Text.Slice

/-!
The same text at another place. What is read of a text does not depend on where the text begins, except
that all places move along, and a gap put in front of a text stands before its first piece.
-/

namespace NestLint

namespace Position

/-- The place `p` of a text, once that text begins at `base`. -/
def behind (base p : Position) : Position where
  offset := base.offset + p.offset
  line := base.line + (p.line - 1)
  column := if p.line = 1 then base.column + (p.column - 1) else p.column

def byte (p : Position) : Position := ⟨p.offset, 0, 0⟩

/-- Along with the place, all places behind it move. -/
def Follows (move : Position → Position) (p : Position) : Prop :=
  ∀ text, move (p.past text) = (move p).past text

variable {move : Position → Position} {p : Position}

theorem Follows.past (follows : Follows move p) (text : Text) : Follows move (p.past text) := fun more => by
  rw [← past_append, follows, past_append, follows]

theorem Follows.advance (follows : Follows move p) (c : Char) : move (p.advance c) = (move p).advance c :=
  follows [c]

end Position

def Label.prefixed (gap : Text) (l : Label) : Label :=
  { l with raws := { l.raws with before := some (gap ++ l.raws.before.getD []) } }

namespace Source

open Position

def Piece.moved (move : Position → Position) : Piece → Piece
  | .comment label => .comment (label.moved move)
  | .statement label terminated => .statement (label.moved move) terminated
  | .opening head start brace => .opening (head.moved move) (move start) (move brace)
  | .closing after brace => .closing after (move brace)

def Step.moved (move : Position → Position) : Step → Step
  | .piece found stop rest => .piece (found.moved move) (move stop) rest
  | .done after stop => .done after (move stop)
  | .failed error => .failed (error.moved move)

def Ending.moved (move : Position → Position) : Ending → Ending
  | .done after stop => .done after (move stop)
  | .failed error => .failed (error.moved move)

def Piece.prefixed (gap : Text) : Piece → Piece
  | .comment label => .comment (label.prefixed gap)
  | .statement label terminated => .statement (label.prefixed gap) terminated
  | .opening head start brace => .opening (head.prefixed gap) start brace
  | .closing after brace => .closing (gap ++ after) brace

def Step.prefixed (gap : Text) : Step → Step
  | .piece found stop rest => .piece (found.prefixed gap) stop rest
  | .done after stop => .done (gap ++ after) stop
  | .failed error => .failed error

section moved

variable {move : Position → Position} {pos start : Position} (before : Text) (text : Text)

end moved

section prefixed

variable {gap : Text} (before : Text) (start : Position) (text : Text)

end prefixed

end Source

end NestLint
