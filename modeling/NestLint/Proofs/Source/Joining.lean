import NestLint.Proofs.Sheet.Planted
import NestLint.Proofs.Source.Blame
import NestLint.Proofs.Source.Relocation

/-!
One stylesheet behind another. Behind a text that is accepted and ends no statement without a semicolon,
a second text is read as it is read alone: nothing that the reader remembers of the first changes what it
makes of the second. The trees of both stand one after the other, with the last gap of the first text
before the first tree of the second, and an error of the second text is an error of the whole.
-/

namespace NestLint

namespace Tree

def prefixed (gap : Text) : Tree Label → Tree Label
  | .node l ts => .node (l.prefixed gap) ts

/-- The last of the top trees, if there is one, is a comment, has a block or ends with its semicolon. -/
def Closed (t : Tree Label) : Prop :=
  ∀ last ∈ t.children.getLast?, last.label.kind.isComment = true ∨ last.label.kind.isContainer = true ∨
    t.label.raws.semicolon = some true

instance (t : Tree Label) : Decidable t.Closed :=
  inferInstanceAs (Decidable (∀ last ∈ t.children.getLast?, last.label.kind.isComment = true ∨
    last.label.kind.isContainer = true ∨ t.label.raws.semicolon = some true))

end Tree

namespace Source

open Position

section pieces

variable {gap text : Text} {pos : Position}

end pieces

def Block.moved (move : Position → Position) (b : Block) : Block :=
  { b with children := b.children.map (Tree.map (Label.moved move)) }

def Frame.moved (move : Position → Position) (f : Frame) : Frame :=
  ⟨f.head.moved move, move f.start, move f.brace, f.outer.moved move⟩

section moved

variable {move : Position → Position}

end moved

section joins

variable (gap : Text) (earlier : List (Tree Label))

def Block.Joins (joined alone : Block) : Prop :=
  ∃ later first, alone.children = later ++ [first] ∧ joined.children = later ++ first.prefixed gap :: earlier

structure Frame.Joins (joined alone : Frame) : Prop where
  start : joined.start = alone.start
  brace : joined.brace = alone.brace
  outer : ∀ (inner : Block) (after : Text) (span : Span),
    Block.Joins gap earlier (joined.outer.addBlock (inner.close joined.head after span))
      (alone.outer.addBlock (inner.close alone.head after span))

/-- The outermost blocks join, and there is no other difference. -/
inductive Joined : List Frame → Block → List Frame → Block → Prop where
  | outside {joined alone : Block} (joins : Block.Joins gap earlier joined alone) : Joined [] joined [] alone
  | inside (inner : List Frame) {joined alone : Frame} (joins : Frame.Joins gap earlier joined alone)
      (block : Block) : Joined (inner ++ [joined]) block (inner ++ [alone]) block

variable {gap earlier}

theorem Joined.single {joined alone : Frame} (joins : Frame.Joins gap earlier joined alone) :
    Joined gap earlier [joined] {} [alone] {} := .inside [] joins {}

theorem Block.Joins.cons {joined alone joined' alone' : Block} (joins : Block.Joins gap earlier joined alone)
    (t : Tree Label) (isJoined : joined'.children = t :: joined.children)
    (isAlone : alone'.children = t :: alone.children) : Block.Joins gap earlier joined' alone' := by
  obtain ⟨later, first, same, same'⟩ := joins
  exact ⟨t :: later, first, by rw [isAlone, same]; rfl, by rw [isJoined, same']; rfl⟩

end joins

/-- The second reading comes to the same as the first, but for a change of the top trees or of the error. -/
def Carries (change : List (Tree Label) → List (Tree Label)) (move : ParseError → ParseError) :
    Except ParseError (Tree Label) → Except ParseError (Tree Label) → Prop
  | .error error, second => second = .error (move error)
  | .ok t, second => ∃ t', second = .ok t' ∧ t'.children = change t.children

section carries

variable {change change' : List (Tree Label) → List (Tree Label)} {onError onError' : ParseError → ParseError}

theorem Carries.trans {first second third : Except ParseError (Tree Label)}
    (carries : Carries change onError first second) (carries' : Carries change' onError' second third) :
    Carries (change' ∘ change) (onError' ∘ onError) first third := by
  cases first with
  | error error =>
    have same : second = .error (onError error) := carries
    subst same
    exact carries'
  | ok t =>
    obtain ⟨t', rfl, children⟩ := carries
    obtain ⟨t'', same, children'⟩ := carries'
    exact ⟨t'', same, by rw [children', children]; rfl⟩

variable (ending : Ending) {earlier : List (Tree Label)}

end carries

section parse

variable {text : Text} {t : Tree Label}

end parse

end Source

namespace Sheet

end Sheet

end NestLint
