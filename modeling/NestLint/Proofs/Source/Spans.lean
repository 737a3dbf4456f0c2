import NestLint.Proofs.Source.RoundTrip
import NestLint.Proofs.Text.Slice

/-!
Where the nodes of a stylesheet stand in their source. `Placed` says it along a tree, for a tree that is
written between two texts: each label gives the places where the text of its node begins and ends. The
readers keep to the places of what they have read, so every tree that is read is placed in its source.

Whether a statement is written with its semicolon is a matter of what follows it in its block; where it is
written without, no semicolon follows in the source.
-/

namespace NestLint

namespace Kind

def isStatement (kind : Kind) : Bool := !kind.isContainer && !kind.isComment

end Kind

namespace Label

def entry (l : Label) : Text := if l.kind.isContainer && !l.kind.isRoot then l.opening else []

def exit (l : Label) : Text :=
  if l.kind.isContainer then l.raws.after.getD [] ++ (if l.kind.isRoot then [] else ['}']) else []

theorem around_eq_append {l : Label} (block : l.kind.isContainer = true) (semicolon : Bool) (body : Text) :
    l.around semicolon body = l.entry ++ body ++ l.exit := by
  cases kind : l.kind with
  | root => simp [around, entry, exit, kind, Kind.isContainer, Kind.isRoot]
  | rule selector => simp [around, entry, exit, kind, Kind.isContainer, Kind.isRoot]
  | atRule name params hasBlock =>
    simp only [kind, Kind.isContainer] at block
    subst block
    simp [around, entry, exit, kind, Kind.isContainer, Kind.isRoot]
  | decl property value important => simp [kind, Kind.isContainer] at block
  | comment text => simp [kind, Kind.isContainer] at block

end Label

namespace Tree

section

variable (place : Text → Position)

mutual
/-- The tree stands between the two texts where its labels say; `place` is where a text ends. -/
def Placed (front back : Text) (semicolon : Bool) : Tree Label → Prop
  | .node l ts =>
    l.source = some ⟨place front, place (front ++ written semicolon (.node l ts))⟩ ∧
      (l.kind.isStatement = true → semicolon = false → back.head? ≠ some ';') ∧
      (l.kind.isContainer = false → ts = []) ∧
      PlacedAll (front ++ l.entry) (l.exit ++ back) (l.raws.semicolon.getD false) ts
def PlacedAll (front back : Text) (last : Bool) : List (Tree Label) → Prop
  | [] => True
  | t :: ts =>
    t.label.kind.isRoot = false ∧ Placed (front ++ t.label.before) (writtenAll last ts ++ back)
        (last || ts.any fun later => !later.label.kind.isComment) t ∧
      PlacedAll (front ++ t.label.before ++ written (last || ts.any fun later => !later.label.kind.isComment) t)
        back last ts
end

end

variable {place : Text → Position}

theorem placedAll_append (front back : Text) (last : Bool) (ts us : List (Tree Label)) :
    PlacedAll place front back last (ts ++ us) ↔
      PlacedAll place front (writtenAll last us ++ back)
          (last || us.any fun later => !later.label.kind.isComment) ts ∧
        PlacedAll place (front ++ writtenAll (last || us.any fun later => !later.label.kind.isComment) ts) back
          last us := by
  induction ts generalizing front with
  | nil => simp [PlacedAll, writtenAll]
  | cons t ts ih =>
    simp only [List.cons_append, PlacedAll, writtenAll, any_not_isComment_append, ih, writtenAll_append,
      List.append_assoc, and_assoc]

theorem placedAll_concat (front back : Text) (last : Bool) (ts : List (Tree Label)) (t : Tree Label) :
    PlacedAll place front back last (ts ++ [t]) ↔
      PlacedAll place front (t.label.before ++ t.written last ++ back) (last || !t.label.kind.isComment) ts ∧
        t.label.kind.isRoot = false ∧
        Placed place (front ++ writtenAll (last || !t.label.kind.isComment) ts ++ t.label.before) back last t := by
  simp [placedAll_append, PlacedAll, writtenAll]

theorem placed_of_isContainer {front back : Text} (semicolon : Bool) {t : Tree Label}
    (block : t.label.kind.isContainer = true) (placed : t.Placed place front back false) :
    t.Placed place front back semicolon := by
  have same := written_of_isContainer semicolon t block
  cases t with
  | node l ts =>
    obtain ⟨isSource, -, leaf, inside⟩ := placed
    refine ⟨by rw [same, isSource], fun isStatement => ?_, leaf, inside⟩
    have block : l.kind.isContainer = true := block
    simp [Kind.isStatement, block] at isStatement

mutual
theorem placed_moved (move : Position → Position) (front back : Text) (semicolon : Bool) (t : Tree Label)
    (placed : t.Placed place front back semicolon) :
    (t.map (Label.moved move)).Placed (move ∘ place) front back semicolon := by
  have same := written_moved move semicolon t
  cases t with
  | node l ts =>
    obtain ⟨isSource, follows, leaf, inside⟩ := placed
    rw [map] at same
    refine ⟨?_, follows, fun isLeaf => ?_, placedAll_moved move _ _ _ ts inside⟩
    · rw [same, Label.moved, isSource]
      rfl
    · rw [leaf isLeaf]
      rfl
theorem placedAll_moved (move : Position → Position) (front back : Text) (last : Bool) (ts : List (Tree Label))
    (placed : PlacedAll place front back last ts) :
    PlacedAll (move ∘ place) front back last (mapAll (Label.moved move) ts) := by
  cases ts with
  | nil => trivial
  | cons t later =>
    obtain ⟨inner, here, behind⟩ := placed
    rw [mapAll, PlacedAll, writtenAll_moved, written_moved, any_label_mapAll, label_map]
    exact ⟨inner, placed_moved move _ _ _ t here, placedAll_moved move _ _ _ later behind⟩
end

mutual
theorem map_kept_of_placed {front back : Text} {semicolon : Bool} (t : Tree Label)
    (placed : t.Placed Position.start.past front back semicolon)
    (short : Text.byteSize (front ++ t.written semicolon) + 1 < 0x100000000) : t.map (Label.moved .kept) = t := by
  cases t with
  | node l ts =>
    obtain ⟨isSource, -, leaf, inside⟩ := placed
    have own : l.moved .kept = l := by
      have begins : Text.byteSize front + 1 < 0x100000000 := by
        rw [Text.byteSize_append] at short
        omega
      have same : l.source.map (fun span => ⟨span.start.kept, span.stop.kept⟩) = l.source := by
        rw [isSource, Option.map_some, Position.kept_past begins, Position.kept_past short]
      rw [Label.moved, same]
    have below : mapAll (Label.moved .kept) ts = ts := by
      cases block : l.kind.isContainer with
      | false =>
        rw [leaf block]
        rfl
      | true =>
        refine mapAll_kept_of_placed ts inside ?_
        rw [written, Label.around_eq_append block] at short
        simp only [Text.byteSize_append] at short ⊢
        omega
    rw [map, own, below]
theorem mapAll_kept_of_placed {front back : Text} {last : Bool} (ts : List (Tree Label))
    (placed : PlacedAll Position.start.past front back last ts)
    (short : Text.byteSize (front ++ writtenAll last ts) + 1 < 0x100000000) : mapAll (Label.moved .kept) ts = ts := by
  cases ts with
  | nil => rfl
  | cons t later =>
    obtain ⟨-, here, behind⟩ := placed
    rw [writtenAll] at short
    simp only [Text.byteSize_append] at short
    rw [mapAll, map_kept_of_placed t here, mapAll_kept_of_placed later behind]
    all_goals simp only [Text.byteSize_append]; omega
end

end Tree

namespace Source

open Position

def Piece.At (pos : Position) : Piece → Prop
  | .comment l => l.source = some ⟨pos.past l.before, pos.past (l.before ++ l.leaf false)⟩
  | .statement l terminated => l.source = some ⟨pos.past l.before, pos.past (l.before ++ l.leaf terminated)⟩
  | .opening l start _ => start = pos.past l.before
  | .closing after brace => brace = pos.past after

section read

variable {pos stop : Position} {before text rest : Text} {piece : Piece}

theorem past_spelled (pos : Position) (consumed : Text) (accounts : Accounts before text piece rest)
    (isText : text = consumed ++ rest) : pos.past piece.spelled = (pos.past before).past consumed := by
  have same : piece.spelled = before ++ consumed :=
    List.append_cancel_right (by rw [accounts.2, isText, List.append_assoc])
  rw [same, past_append]

theorem readComment_at (read : readComment before (pos.past before) text = .piece piece stop rest) :
    piece.At pos ∧ stop = pos.past piece.spelled := by
  have accounts := readComment_accounts read
  simp only [readComment] at read
  split at read
  · simp at read
  next inner tail closed =>
    simp only [Step.piece.injEq] at read
    obtain ⟨rfl, rfl, rfl⟩ := read
    have stops := past_spelled pos ('/' :: '*' :: inner ++ ['*', '/']) accounts
      (by rw [closeComment?_eq closed]; simp)
    exact ⟨congrArg (fun stop => some (Span.mk (pos.past before) stop)) stops.symm, stops.symm⟩

theorem readAtRule_at (read : readAtRule before (pos.past before) text = .piece piece stop rest) :
    piece.At pos ∧ stop = pos.past piece.spelled := by
  have accounts := readAtRule_accounts read
  have halves : (text.takeWhile fun c => !endsName c) ++ (text.dropWhile fun c => !endsName c) =
      text := List.takeWhile_append_dropWhile
  simp only [readAtRule] at read
  generalize (text.takeWhile fun c => !endsName c) = name at halves read
  generalize (text.dropWhile fun c => !endsName c) = behind at halves read
  subst halves
  split at read
  · simp at read
  next region tail found =>
    simp only [Step.piece.injEq] at read
    obtain ⟨rfl, rfl, rfl⟩ := read
    have stops := past_spelled pos ('@' :: name ++ (region ++ ['{'])) accounts
      (by rw [cut_block found]; simp)
    rw [past_append, past_append] at stops
    exact ⟨rfl, stops.symm⟩
  next region tail found =>
    simp only [Step.piece.injEq] at read
    obtain ⟨rfl, rfl, rfl⟩ := read
    have stops := past_spelled pos ('@' :: name ++ (region ++ [';'])) accounts
      (by rw [cut_ended found]; simp)
    rw [past_append, past_append] at stops
    exact ⟨congrArg (fun stop => some (Span.mk (pos.past before) stop)) stops.symm, stops.symm⟩
  next region tail found =>
    simp only [Step.piece.injEq] at read
    obtain ⟨rfl, rfl, rfl⟩ := read
    have stops := past_spelled pos ('@' :: name ++ region) accounts
      (by rw [cut_unended found]; simp)
    rw [past_append] at stops
    exact ⟨congrArg (fun stop => some (Span.mk (pos.past before) stop)) stops.symm, stops.symm⟩

theorem source_of_readDecl {start stop : Position} {region : Text} {label : Label}
    (read : readDecl before start stop region = .ok label) : label.source = some ⟨start, stop⟩ := by
  simp only [readDecl] at read
  split at read
  · simp at read
  · split at read
    · simp at read
    · simp only [Except.ok.injEq] at read
      rw [← read]

theorem readPlain_at (read : readPlain before (pos.past before) text = .piece piece stop rest) :
    piece.At pos ∧ stop = pos.past piece.spelled := by
  have accounts := readPlain_accounts read
  simp only [readPlain] at read
  split at read
  · simp at read
  next region tail found =>
    simp only [Step.piece.injEq] at read
    obtain ⟨rfl, rfl, rfl⟩ := read
    have stops := past_spelled pos (region ++ ['{']) accounts (by rw [cut_block found]; simp)
    rw [past_append] at stops
    exact ⟨rfl, stops.symm⟩
  next region tail found =>
    split at read
    next label declared =>
      simp only [Step.piece.injEq] at read
      obtain ⟨rfl, rfl, rfl⟩ := read
      have stops := past_spelled pos (region ++ [';']) accounts (by rw [cut_ended found]; simp)
      rw [past_append] at stops
      refine ⟨?_, stops.symm⟩
      change label.source = some ⟨pos.past label.before, pos.past (Piece.spelled (.statement label true))⟩
      rw [source_of_readDecl declared, (readDecl_spelled true declared).2.1, stops]
      rfl
    next => simp at read
  next region tail found =>
    split at read
    next label declared =>
      simp only [Step.piece.injEq] at read
      obtain ⟨rfl, rfl, rfl⟩ := read
      have stops := past_spelled pos region accounts (by rw [cut_unended found])
      refine ⟨?_, stops.symm⟩
      change label.source = some ⟨pos.past label.before, pos.past (Piece.spelled (.statement label false))⟩
      rw [source_of_readDecl declared, (readDecl_spelled false declared).2.1, stops]
    next => simp at read

theorem step_at (read : step pos text = .piece piece stop rest) :
    piece.At pos ∧ stop = pos.past piece.spelled := by
  simp only [step] at read
  split at read
  · simp at read
  next tail found =>
    simp only [Step.piece.injEq] at read
    obtain ⟨rfl, rfl, -⟩ := read
    exact ⟨rfl, by rw [Piece.spelled, past_append]; rfl⟩
  next tail found => exact readAtRule_at read
  next c cs _ _ found =>
    split at read
    next => exact readComment_at read
    next => exact readPlain_at read

end read

theorem head?_of_trailing {text : Text} (trailing : Trailing text) : text.head? ≠ some ';' := by
  obtain ⟨blanks, rest, rfl, all, stops⟩ := trailing
  cases blanks with
  | nil =>
    rcases stops with rfl | ⟨tail, rfl⟩
    · simp
    · simp
  | cons c cs =>
    intro isFirst
    have same : c = ';' := Option.some.inj isFirst
    have blank := all c List.mem_cons_self
    rw [same] at blank
    exact absurd blank (by decide)

/-- The pieces of a row that begins at the place know their own places, and no semicolon follows an
unended statement. -/
def PlacedRow (after : Text) : Position → List Piece → Prop
  | _, [] => True
  | pos, piece :: row =>
    piece.At pos ∧
      (∀ label, piece = .statement label false → (spelledRow row ++ after).head? ≠ some ';') ∧
      PlacedRow after (pos.past piece.spelled) row

theorem pieces_placed (pos : Position) (text after : Text) (stop : Position)
    (ended : (pieces pos text).2 = .done after stop) :
    PlacedRow after pos (pieces pos text).1 ∧ stop = pos.past text := by
  fun_induction pieces pos text with
  | case1 pos text piece next rest read _ row ending later ih =>
    rw [later] at ih
    obtain ⟨here, isNext⟩ := step_at read
    obtain ⟨-, spelled⟩ := step_accounts read
    obtain ⟨placed, isStop⟩ := ih ended
    have isRest : spelledRow row ++ after = rest := by
      have account := (pieces_account next rest).2 after stop
      rw [later] at account
      exact account ended
    refine ⟨⟨here, fun label isStatement => ?_, isNext ▸ placed⟩, ?_⟩
    · rw [isRest]
      exact head?_of_trailing (step_trailing (isStatement ▸ read))
    · rw [isStop, isNext, ← spelled, past_append]
  | case2 pos text last final read =>
    simp only [Ending.done.injEq] at ended
    obtain ⟨rfl, rfl⟩ := ended
    have whole := step_done read
    obtain ⟨isGap, nothing⟩ := step_done_gap read
    simp only [step, nothing, Step.done.injEq] at read
    exact ⟨trivial, by rw [← read.2, ← isGap, whole]⟩
  | case3 pos text error read => simp at ended

namespace Block

/-- What the block holds so far stands behind the text in front, where its labels say. If no statement is
open at its end, it does so too with a semicolon behind each statement. -/
structure Placed (b : Block) (front back : Text) (opened : Bool) : Prop where
  here : Tree.PlacedAll start.past front back b.terminated b.children.reverse
  closed : opened = false → Tree.PlacedAll start.past front back true b.children.reverse

section add

variable {b : Block} {front back : Text} {l : Label} {opened : Bool}

theorem Complete.written_true (complete : b.Complete) :
    Tree.writtenAll true b.children.reverse = b.spelled := complete.symm

theorem placed_leaf {comment terminated : Bool} (stands : Stands l comment)
    (isSource : l.source = some ⟨Position.start.past front, Position.start.past (front ++ l.leaf terminated)⟩)
    (follows : comment = false → terminated = false → back.head? ≠ some ';') :
    Tree.Placed start.past front back terminated (.node l []) := by
  refine ⟨?_, fun isStatement unended => follows ?_ unended, fun _ => rfl, trivial⟩
  · rw [written_leaf terminated stands.2.2.1, isSource]
  · rw [Kind.isStatement, stands.2.2.2] at isStatement
    cases comment with
    | true => simp at isStatement
    | false => rfl

theorem placed_addComment (placed : b.Placed front (l.before ++ l.leaf false ++ back) false)
    (complete : b.Complete) (stands : Stands l true)
    (isAt : (Piece.comment l).At (Position.start.past (front ++ b.spelled))) :
    (b.addComment l).Placed front back false := by
  have own : ∀ flag, Tree.Placed start.past (front ++ b.spelled ++ l.before) back flag (.node l []) := by
    intro flag
    apply placed_leaf stands _ (by simp)
    rw [leaf_of_isComment flag stands.2.2.2, isAt, ← past_append, ← past_append]
    simp only [List.append_assoc]
  have same : ∀ flag, (Tree.node l []).written flag = l.leaf false := by
    intro flag
    rw [written_leaf flag stands.2.2.1, leaf_of_isComment flag stands.2.2.2]
  constructor
  · simp only [addComment, List.reverse_cons, Tree.placedAll_concat, Tree.label, stands.2.2.2, Bool.not_true,
      Bool.or_false, same]
    exact ⟨placed.here, isRoot_of_stands stands, own _⟩
  · intro _
    simp only [addComment, List.reverse_cons, Tree.placedAll_concat, Tree.label, stands.2.2.2, Bool.not_true,
      Bool.or_false, same, complete.written_true]
    exact ⟨placed.closed rfl, isRoot_of_stands stands, own _⟩

theorem placed_addStatement (terminated : Bool)
    (placed : b.Placed front (l.before ++ l.leaf terminated ++ back) false) (complete : b.Complete)
    (stands : Stands l false)
    (isAt : (Piece.statement l terminated).At (Position.start.past (front ++ b.spelled)))
    (follows : terminated = false → back.head? ≠ some ';') :
    (b.addStatement l terminated).Placed front back (!terminated) := by
  have here : Tree.PlacedAll start.past front back terminated (b.addStatement l terminated).children.reverse := by
    simp only [addStatement, List.reverse_cons, Tree.placedAll_concat, Tree.label, stands.2.2.2, Bool.not_false,
      Bool.or_true, written_leaf terminated stands.2.2.1, complete.written_true]
    refine ⟨placed.closed rfl, isRoot_of_stands stands, placed_leaf stands ?_ fun _ => follows⟩
    rw [isAt, ← past_append, ← past_append]
    simp only [List.append_assoc]
  refine ⟨here, fun ends => ?_⟩
  have isTrue : terminated = true := by simpa using ends
  rwa [isTrue] at here ⊢

theorem placed_addBlock {inner : Tree Label}
    (placed : b.Placed front (inner.label.before ++ inner.written false ++ back) false) (complete : b.Complete)
    (block : inner.label.kind.isContainer = true) (inside : inner.label.kind.isRoot = false)
    (own : inner.Placed start.past (front ++ b.spelled ++ inner.label.before) back false) :
    (b.addBlock inner).Placed front back false := by
  have other := Tree.isComment_of_isContainer block
  have row : ∀ flag, Tree.PlacedAll start.past front back flag (b.addBlock inner).children.reverse := by
    intro flag
    simp only [addBlock, List.reverse_cons, Tree.placedAll_concat, other, Bool.not_false, Bool.or_true,
      Tree.written_of_isContainer flag inner block, complete.written_true]
    exact ⟨placed.closed rfl, inside, Tree.placed_of_isContainer flag block own⟩
  exact ⟨row _, fun _ => row true⟩

end add

section close

variable {b : Block} {head : Label} {front back after : Text} {opened : Bool}

theorem placedAll_close (placed : b.Placed front back opened) :
    Tree.PlacedAll start.past front back ((if b.children.isEmpty then none else some b.terminated).getD false)
      b.children.reverse := by
  cases children : b.children with
  | nil => trivial
  | cons t rest =>
    have here := placed.here
    rw [children] at here
    exact here

theorem placed_close (front back after : Text) (heads : Heads head)
    (placed : b.Placed (front ++ head.opening) (after ++ '}' :: back) opened) :
    (b.close head after ⟨Position.start.past front,
      Position.start.past (front ++ (head.opening ++ b.spelled ++ after ++ ['}']))⟩).Placed start.past front back
        false := by
  have block := isContainer_of_heads heads
  have inner := isRoot_of_heads heads
  have written := written_close (b := b) after ⟨Position.start.past front,
    Position.start.past (front ++ (head.opening ++ b.spelled ++ after ++ ['}']))⟩ heads
  refine ⟨?_, fun isStatement => ?_, fun leaf => ?_, ?_⟩
  · rw [close] at written
    rw [written]
  · simp [Kind.isStatement, block] at isStatement
  · exact absurd (block.symm.trans leaf) (by simp)
  · have row := placedAll_close placed
    simp only [Label.entry, Label.exit, block, inner, Bool.not_false, Bool.and_self, if_true,
      Option.getD_some, Bool.false_eq_true, if_false, List.append_assoc, List.singleton_append]
    exact row

theorem placed_close_root (placed : b.Placed [] after opened) :
    (b.close { kind := .root } after
      ⟨Position.start, Position.start.past (b.spelled ++ after)⟩).Placed start.past [] [] false := by
  have written := written_close_root (b := b) after ⟨Position.start, Position.start.past (b.spelled ++ after)⟩
  refine ⟨?_, fun isStatement => ?_, fun leaf => ?_, ?_⟩
  · rw [close] at written
    rw [written]
    rfl
  · cases isStatement
  · cases leaf
  · have row := placedAll_close placed
    simpa [Label.entry, Label.exit, Kind.isContainer, Kind.isRoot] using row

end close

end Block

def PlacedFrames : List Frame → Text → Prop
  | [], _ => True
  | frame :: frames, rest =>
    frame.start = Position.start.past (spelledFrames frames ++ frame.outer.spelled ++ frame.head.before) ∧
      frame.outer.Placed (spelledFrames frames) (frame.head.before ++ (frame.head.opening ++ rest)) false ∧
      PlacedFrames frames (frame.outer.spelled ++ (frame.head.before ++ (frame.head.opening ++ rest)))

theorem assemble_placed (after : Text) (stop : Position) (frames : List Frame) (block : Block)
    (row : List Piece) (t : Tree Label) (opened : Bool)
    (framesKnown : ∀ frame ∈ frames, Heads frame.head ∧ frame.outer.Complete)
    (complete : opened = false → block.Complete) (rowKnown : ∀ piece ∈ row, piece.Known)
    (orderly : Orderly opened row)
    (framesPlaced : PlacedFrames frames (block.spelled ++ (spelledRow row ++ after)))
    (placed : block.Placed (spelledFrames frames) (spelledRow row ++ after) opened)
    (rowPlaced : PlacedRow after (Position.start.past (spelledFrames frames ++ block.spelled)) row)
    (isStop : stop = Position.start.past (spelledFrames frames ++ (block.spelled ++ (spelledRow row ++ after))))
    (built : assemble (.done after stop) frames block row = .ok t) : t.Placed start.past [] [] false := by
  induction row generalizing frames block opened with
  | nil =>
    cases frames with
    | nil =>
      simp only [assemble, Except.ok.injEq] at built
      rw [← built, isStop]
      exact Block.placed_close_root placed
    | cons frame frames => simp [assemble] at built
  | cons piece row ih =>
    have pieceKnown := rowKnown piece List.mem_cons_self
    have laterKnown : ∀ other ∈ row, other.Known :=
      fun other member => rowKnown other (List.mem_cons_of_mem piece member)
    obtain ⟨isAt, follows, laterPlaced⟩ := rowPlaced
    have isRow : spelledRow (piece :: row) = piece.spelled ++ spelledRow row := rfl
    rw [isRow] at framesPlaced placed isStop
    rw [← past_append] at laterPlaced
    cases piece with
    | comment label =>
      obtain ⟨rfl, later⟩ := orderly
      simp only [assemble] at built
      have spelled := Block.spelled_addComment (b := block) pieceKnown
      refine ih frames (block.addComment label) false framesKnown
        (fun _ => Block.complete_addComment (complete rfl) pieceKnown) laterKnown later ?_ ?_ ?_ ?_ built
      · rw [spelled]
        simpa [Piece.spelled] using framesPlaced
      · exact Block.placed_addComment (by simpa [Piece.spelled] using placed) (complete rfl) pieceKnown isAt
      · rw [spelled]
        simpa [Piece.spelled] using laterPlaced
      · rw [spelled]
        simpa [Piece.spelled] using isStop
    | statement label terminated =>
      obtain ⟨rfl, later⟩ := orderly
      simp only [assemble] at built
      have spelled := Block.spelled_addStatement (complete rfl) terminated pieceKnown
      have settled : (!terminated) = false → (block.addStatement label terminated).Complete := by
        intro ends
        simp only [Bool.not_eq_false'] at ends
        subst ends
        rfl
      refine ih frames (block.addStatement label terminated) (!terminated) framesKnown settled laterKnown later
        ?_ ?_ ?_ ?_ built
      · rw [spelled]
        simpa [Piece.spelled] using framesPlaced
      · exact Block.placed_addStatement terminated (by simpa [Piece.spelled] using placed) (complete rfl)
          pieceKnown isAt fun unended => follows label (by rw [unended])
      · rw [spelled]
        simpa [Piece.spelled] using laterPlaced
      · rw [spelled]
        simpa [Piece.spelled] using isStop
    | opening head start brace =>
      obtain ⟨rfl, later⟩ := orderly
      simp only [assemble] at built
      refine ih (⟨head, start, brace, block⟩ :: frames) {} false
        (List.forall_mem_cons.mpr ⟨⟨pieceKnown, complete rfl⟩, framesKnown⟩) (fun _ => rfl) laterKnown later
        ⟨?_, ?_, ?_⟩ ⟨trivial, fun _ => trivial⟩ ?_ ?_ built
      · rw [isAt, ← past_append]
      · simpa [Piece.spelled, Block.spelled, Tree.writtenAll] using placed
      · simpa [Piece.spelled, Block.spelled, Tree.writtenAll] using framesPlaced
      · simpa [spelledFrames, Piece.spelled, Block.spelled, Tree.writtenAll] using laterPlaced
      · simpa [spelledFrames, Piece.spelled, Block.spelled, Tree.writtenAll] using isStop
    | closing inner brace =>
      cases frames with
      | nil => simp [assemble] at built
      | cons frame frames =>
        simp only [assemble] at built
        obtain ⟨⟨heads, outerComplete⟩, outside⟩ := List.forall_mem_cons.mp framesKnown
        obtain ⟨isStart, outerPlaced, framesPlaced⟩ := framesPlaced
        generalize isFront : spelledFrames frames ++ frame.outer.spelled ++ frame.head.before = front at isStart
        -- The block that is closed stands behind `front`.
        have isSpan : (⟨frame.start, brace.advance '}'⟩ : Span) = ⟨Position.start.past front,
            Position.start.past (front ++ (frame.head.opening ++ block.spelled ++ inner ++ ['}']))⟩ := by
          rw [isStart, isAt, ← isFront, ← past_append]
          simp [spelledFrames, past_append]
        have own := Block.placed_close front (spelledRow row ++ after) inner heads
          (by simpa [spelledFrames, Piece.spelled, ← isFront] using placed)
        rw [isSpan] at built
        generalize isInner : block.close frame.head inner _ = closed at built own
        have container : closed.label.kind.isContainer = true := by
          rw [← isInner]
          exact Block.isContainer_of_heads heads
        have inside : closed.label.kind.isRoot = false := by
          rw [← isInner]
          exact isRoot_of_heads heads
        have before : closed.label.before = frame.head.before := by
          rw [← isInner]
          rfl
        have written : closed.written false = frame.head.opening ++ block.spelled ++ inner ++ ['}'] := by
          rw [← isInner]
          exact Block.written_close _ _ heads
        have spelled := Block.spelled_addBlock outerComplete container
        rw [before, written] at spelled
        refine ih frames (frame.outer.addBlock closed) false outside
          (fun _ => Block.complete_addBlock container) laterKnown orderly ?_ ?_ ?_ ?_ built
        · rw [spelled]
          simpa [Piece.spelled] using framesPlaced
        · refine Block.placed_addBlock ?_ outerComplete container inside ?_
          · rw [before, written]
            simpa [Piece.spelled] using outerPlaced
          · rw [before, isFront]
            exact own
        · rw [spelled]
          simpa [spelledFrames, Piece.spelled] using laterPlaced
        · rw [spelled]
          simpa [spelledFrames, Piece.spelled] using isStop

theorem parse_placed {text : Text} {t : Tree Label} (parsed : parse text = .ok t) : t.Placed start.past [] [] false := by
  simp only [parse] at parsed
  cases ended : (pieces .start text).2 with
  | failed error =>
    rw [ended] at parsed
    exact absurd parsed (assemble_failed error [] {} _ t)
  | done after stop =>
    rw [ended] at parsed
    obtain ⟨known, account⟩ := pieces_account .start text
    obtain ⟨placed, isStop⟩ := pieces_placed .start text after stop ended
    have whole := account after stop ended
    exact assemble_placed after stop [] {} _ t false (by simp) (fun _ => rfl) known
      (pieces_orderly .start text false (by simp)) trivial ⟨trivial, fun _ => trivial⟩ placed
      (by rw [isStop, whole]; rfl) parsed

end Source

end NestLint
