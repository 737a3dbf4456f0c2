import NestLint.Text.Position

/-!
The nodes of a stylesheet. A node says what it is (`Kind`), how it was laid out (`Raws`) and where
it was read (`Span`); these three make its `Label`. A stored node also names its parent and its
children by their numbers in the store.
-/

namespace NestLint

/-- The number of a node in its sheet; numbers are never used twice. -/
abbrev NodeId := Nat

inductive Kind where
  | root
  /-- A selector with a block. -/
  | rule (selector : Text)
  /-- A statement with an at-sign, such as an import, with or without a block. -/
  | atRule (name params : Text) (hasBlock : Bool)
  | decl (property value : Text) (important : Bool)
  | comment (text : Text)
deriving DecidableEq, Repr, Inhabited

namespace Kind

def isContainer : Kind → Bool
  | .root | .rule _ => true
  | .atRule _ _ hasBlock => hasBlock
  | .decl .. | .comment _ => false

def isRuleLike : Kind → Bool
  | .rule _ | .atRule .. => true
  | _ => false

def isComment : Kind → Bool
  | .comment _ => true
  | _ => false

def isDecl : Kind → Bool
  | .decl .. => true
  | _ => false

def isRule : Kind → Bool
  | .rule _ => true
  | _ => false

def isRoot : Kind → Bool
  | .root => true
  | _ => false

def selector? : Kind → Option Text
  | .rule selector => some selector
  | _ => none

def atName? : Kind → Option Text
  | .atRule name _ _ => some name
  | _ => none

def params? : Kind → Option Text
  | .atRule _ params _ => some params
  | _ => none

end Kind

/-- The layout around a node. What is `none` is not known, and the printer takes it from the rest
of the sheet. -/
structure Raws where
  /-- What stands before the node. -/
  before : Option Text := none
  /-- What stands before the closing brace, or at the end of the sheet. -/
  after : Option Text := none
  /-- Between head and brace, or between property and value with the colon. -/
  between : Option Text := none
  /-- Between the name and the parameters of an at-rule. -/
  afterName : Option Text := none
  /-- Whether the last statement of the block has a semicolon. -/
  semicolon : Option Bool := none
  /-- How the importance of a declaration is written. -/
  important : Option Text := none
  /-- What stands between the opening of a comment and its text. -/
  left : Option Text := none
  /-- What stands between the text of a comment and its close. -/
  right : Option Text := none
deriving DecidableEq, Repr, Inhabited

structure Label where
  kind : Kind
  raws : Raws := {}
  source : Option Span := none
deriving DecidableEq, Repr, Inhabited

def Label.moved (move : Position → Position) (l : Label) : Label :=
  { l with source := l.source.map fun span => ⟨move span.start, move span.stop⟩ }

structure Node extends Label where
  parent : Option NodeId := none
  children : List NodeId := []
deriving DecidableEq, Repr

def Node.ofLabel (label : Label) : Node := { label with }

instance : Inhabited Node := ⟨Node.ofLabel { kind := .root }⟩

end NestLint
