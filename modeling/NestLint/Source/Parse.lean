import NestLint.Source.Piece
import NestLint.Sheet.Plant

/-!
From the row of pieces to the tree. An opening piece starts a block inside the current one, a
closing piece ends it, and everything else is a child of the current block. Of two errors the one
that the row reaches first counts, and a block still open at the end is blamed on its own brace.
-/

namespace NestLint

namespace Source

/-- A block as far as it has been read: its children, the last one first, and whether the last
statement other than a comment ended with a semicolon. -/
structure Block where
  children : List (Tree Label) := []
  terminated : Bool := false

namespace Block

def addComment (block : Block) (label : Label) : Block :=
  { block with children := .node label [] :: block.children }

def addStatement (block : Block) (label : Label) (terminated : Bool) : Block :=
  { children := .node label [] :: block.children, terminated := terminated }

def addBlock (block : Block) (inner : Tree Label) : Block :=
  { children := inner :: block.children, terminated := false }

/-- The finished block under its head. Without children there is no last statement to speak of. -/
def close (block : Block) (head : Label) (after : Text) (span : Span) : Tree Label :=
  .node
    { head with
      raws :=
        { head.raws with
          after := some after
          semicolon := if block.children.isEmpty then none else some block.terminated }
      source := some span }
    block.children.reverse

end Block

structure Frame where
  head : Label
  start : Position
  brace : Position
  outer : Block

/-- The tree of a row of pieces, inside the given open blocks, the innermost first. -/
def assemble (ending : Ending) : List Frame → Block → List Piece → Except ParseError (Tree Label)
  | [], block, [] =>
    match ending with
    | .done after stop => .ok (block.close { kind := .root } after ⟨.start, stop⟩)
    | .failed e => .error e
  | frame :: _, _, [] =>
    match ending with
    | .done _ _ => .error (.unclosedBlock frame.brace)
    | .failed e => .error e
  | frames, block, .comment label :: row => assemble ending frames (block.addComment label) row
  | frames, block, .statement label terminated :: row =>
    assemble ending frames (block.addStatement label terminated) row
  | frames, block, .opening head start brace :: row =>
    assemble ending (⟨head, start, brace, block⟩ :: frames) {} row
  | [], _, .closing _ brace :: _ => .error (.unexpectedClose brace)
  | frame :: frames, block, .closing after brace :: row =>
    let inner := block.close frame.head after ⟨frame.start, brace.advance '}'⟩
    assemble ending frames (frame.outer.addBlock inner) row

def parse (text : Text) : Except ParseError (Tree Label) :=
  let (row, ending) := pieces .start text
  assemble ending [] {} row

end Source

/-- The sheet that a reading comes to. The places of its nodes, and that of an error, are kept in 32 bits. -/
def Sheet.ofReading : Except ParseError (Tree Label) → Except ParseError Sheet
  | .ok t => .ok (ofTree (t.map (Label.moved .kept)))
  | .error e => .error (e.moved .kept)

def Sheet.parse (source : String) : Except ParseError Sheet :=
  Sheet.ofReading (Source.parse source.toList)

end NestLint
