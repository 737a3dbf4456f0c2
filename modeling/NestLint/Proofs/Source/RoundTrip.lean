import NestLint.Proofs.Sheet.Planted
import NestLint.Proofs.Source.Accounting

/-!
Reading and printing a stylesheet gives the source back. While the tree is assembled, the text that
the open blocks spell and the texts of the pieces still to come always make up the source; at the
end there are no open blocks and no pieces left, so the finished tree spells the source.
-/

namespace NestLint

namespace Source

namespace Block

def spelled (b : Block) : Text := Tree.writtenAll b.terminated b.children.reverse

/-- The block does not hold an unended statement that another child would cut off. -/
def Complete (b : Block) : Prop :=
  Tree.writtenAll b.terminated b.children.reverse = Tree.writtenAll true b.children.reverse

def Known (b : Block) : Prop := Tree.KnownAll b.children.reverse

theorem written_leaf {l : Label} (semicolon : Bool) (leaf : l.kind.isContainer = false) :
    (Tree.node l []).written semicolon = l.leaf semicolon := by
  cases kind : l.kind with
  | root => simp [kind, Kind.isContainer] at leaf
  | rule selector => simp [kind, Kind.isContainer] at leaf
  | atRule name params hasBlock =>
    cases hasBlock with
    | true => simp [kind, Kind.isContainer] at leaf
    | false => simp [Tree.written, Label.around, kind]
  | decl property value important => simp [Tree.written, Label.around, kind]
  | comment text => simp [Tree.written, Label.around, kind]

theorem leaf_of_isComment {l : Label} (semicolon : Bool) (comment : l.kind.isComment = true) :
    l.leaf semicolon = l.leaf false := by
  cases kind : l.kind with
  | comment text => simp [Label.leaf, kind]
  | _ => simp [kind, Kind.isComment] at comment

theorem known_leaf {l : Label} {comment : Bool} (stands : Stands l comment) :
    Tree.Known (.node l []) := ⟨stands.2.1, Or.inr (by simp [Tree.EndInBlock]), trivial⟩

section add

variable {b : Block} {l : Label}

theorem known_addComment (known : b.Known) (stands : Stands l true) : (b.addComment l).Known := by
  simp only [Known, addComment, List.reverse_cons]
  exact Tree.knownAll_concat _ _ known stands.1 (known_leaf stands)

theorem spelled_addComment (stands : Stands l true) :
    (b.addComment l).spelled = b.spelled ++ (l.before ++ l.leaf false) := by
  simp only [spelled, addComment, List.reverse_cons, Tree.writtenAll_concat, Tree.label,
    stands.2.2.2, Bool.not_true, Bool.or_false]
  rw [written_leaf _ stands.2.2.1, leaf_of_isComment _ stands.2.2.2]

theorem complete_addComment (complete : b.Complete) (stands : Stands l true) :
    (b.addComment l).Complete := by
  simp only [Complete, addComment, List.reverse_cons, Tree.writtenAll_concat, Tree.label,
    stands.2.2.2, Bool.not_true, Bool.or_false] at complete ⊢
  rw [complete, written_leaf _ stands.2.2.1, written_leaf _ stands.2.2.1,
    leaf_of_isComment _ stands.2.2.2, leaf_of_isComment true stands.2.2.2]

theorem known_addStatement (known : b.Known) (terminated : Bool) (stands : Stands l false) :
    (b.addStatement l terminated).Known := by
  simp only [Known, addStatement, List.reverse_cons]
  exact Tree.knownAll_concat _ _ known stands.1 (known_leaf stands)

theorem spelled_addStatement (complete : b.Complete) (terminated : Bool) (stands : Stands l false) :
    (b.addStatement l terminated).spelled = b.spelled ++ (l.before ++ l.leaf terminated) := by
  simp only [spelled, addStatement, List.reverse_cons, Tree.writtenAll_concat, Tree.label,
    stands.2.2.2, Bool.not_false, Bool.or_true]
  rw [written_leaf _ stands.2.2.1, complete]

theorem known_addBlock {inner : Tree Label} (known : b.Known)
    (before : inner.label.raws.before.isSome) (below : inner.Known) : (b.addBlock inner).Known := by
  simp only [Known, addBlock, List.reverse_cons]
  exact Tree.knownAll_concat _ _ known before below

theorem spelled_addBlock {inner : Tree Label} (complete : b.Complete)
    (block : inner.label.kind.isContainer = true) :
    (b.addBlock inner).spelled = b.spelled ++ (inner.label.before ++ inner.written false) := by
  have other := Tree.isComment_of_isContainer block
  simp only [spelled, addBlock, List.reverse_cons, Tree.writtenAll_concat, other, Bool.not_false,
    Bool.or_true]
  rw [complete]

theorem complete_addBlock {inner : Tree Label} (block : inner.label.kind.isContainer = true) :
    (b.addBlock inner).Complete := by
  have other := Tree.isComment_of_isContainer block
  simp only [Complete, addBlock, List.reverse_cons, Tree.writtenAll_concat, other, Bool.not_false,
    Bool.or_true]
  rw [Tree.written_of_isContainer true inner block]

end add

section close

variable {b : Block} {head : Label} (after : Text) (span : Span)

theorem written_close (heads : Heads head) :
    (b.close head after span).written false = head.opening ++ b.spelled ++ after ++ ['}'] := by
  have inside : Tree.writtenAll
      ((if b.children.isEmpty then none else some b.terminated).getD false) b.children.reverse =
        b.spelled := by
    unfold spelled
    cases children : b.children with
    | nil => rfl
    | cons t rest => rfl
  obtain ⟨-, -, kinds⟩ := heads
  cases kind : head.kind with
  | rule selector =>
    simp only [close, Tree.written, Label.around, Label.opening, Label.head, kind, inside,
      Option.getD_some]
  | atRule name params hasBlock =>
    simp only [kind] at kinds
    obtain ⟨rfl, -⟩ := kinds
    simp only [close, Tree.written, Label.around, Label.opening, Label.head, kind, inside,
      Option.getD_some]
  | _ => simp [kind] at kinds

theorem semicolon_close :
    (b.close head after span).label.raws.semicolon.isSome ∨ Tree.EndInBlock b.children.reverse := by
  cases children : b.children with
  | nil => exact Or.inr (by simp [Tree.EndInBlock])
  | cons t rest => exact Or.inl (by simp [close, Tree.label, children])

theorem known_label_close (heads : Heads head) : (b.close head after span).label.Known := by
  obtain ⟨-, between, kinds⟩ := heads
  cases kind : head.kind with
  | rule selector => simpa [Tree.label, close, Label.Known, kind] using between
  | atRule name params hasBlock =>
    simp only [kind] at kinds
    obtain ⟨rfl, afterName⟩ := kinds
    simpa [Tree.label, close, Label.Known, kind] using ⟨afterName, between⟩
  | _ => simp [kind] at kinds

theorem known_close (known : b.Known) (heads : Heads head) : (b.close head after span).Known :=
  ⟨known_label_close after span heads, semicolon_close after span, known⟩

theorem isContainer_of_heads (heads : Heads head) : head.kind.isContainer = true := by
  obtain ⟨-, -, kinds⟩ := heads
  cases kind : head.kind with
  | rule selector => rfl
  | atRule name params hasBlock =>
    simp only [kind] at kinds
    exact kinds.1
  | _ => simp [kind] at kinds

theorem written_close_root :
    (b.close { kind := .root } after span).written false = b.spelled ++ after := by
  unfold spelled
  cases children : b.children with
  | nil => simp [close, Tree.written, Label.around, Tree.writtenAll, children]
  | cons t rest => simp [close, Tree.written, Label.around, children]

theorem known_close_root (known : b.Known) : (b.close { kind := .root } after span).Known :=
  ⟨trivial, semicolon_close after span, known⟩

end close

end Block

def spelledFrames : List Frame → Text
  | [] => []
  | frame :: frames =>
    spelledFrames frames ++ (frame.outer.spelled ++ (frame.head.before ++ frame.head.opening))

def Frame.Known (frame : Frame) : Prop :=
  Heads frame.head ∧ frame.outer.Known ∧ frame.outer.Complete

/-- The tree spells what the open blocks hold, then the row, then the last gap. Along the row the
open blocks take over the text of each piece. -/
theorem assemble_spelled (after : Text) (stop : Position) (frames : List Frame) (block : Block)
    (row : List Piece) (t : Tree Label) (opened : Bool)
    (framesKnown : ∀ frame ∈ frames, frame.Known) (known : block.Known)
    (complete : opened = false → block.Complete) (rowKnown : ∀ piece ∈ row, piece.Known)
    (orderly : Orderly opened row) (built : assemble (.done after stop) frames block row = .ok t) :
    t.Known ∧
      t.written false = spelledFrames frames ++ (block.spelled ++ (spelledRow row ++ after)) := by
  induction row generalizing frames block opened with
  | nil =>
    cases frames with
    | nil =>
      simp only [assemble, Except.ok.injEq] at built
      subst built
      exact ⟨Block.known_close_root _ _ known, Block.written_close_root _ _⟩
    | cons frame frames => simp [assemble] at built
  | cons piece row ih =>
    have pieceKnown := rowKnown piece List.mem_cons_self
    have laterKnown : ∀ other ∈ row, other.Known :=
      fun other member => rowKnown other (List.mem_cons_of_mem piece member)
    cases piece with
    | comment label =>
      obtain ⟨rfl, later⟩ := orderly
      simp only [assemble] at built
      obtain ⟨whole, spelled⟩ := ih frames (block.addComment label) false framesKnown
        (Block.known_addComment known pieceKnown)
        (fun _ => Block.complete_addComment (complete rfl) pieceKnown) laterKnown later built
      refine ⟨whole, ?_⟩
      rw [spelled, Block.spelled_addComment pieceKnown]
      simp [spelledRow, Piece.spelled]
    | statement label terminated =>
      obtain ⟨rfl, later⟩ := orderly
      simp only [assemble] at built
      have settled : (!terminated) = false → (block.addStatement label terminated).Complete := by
        intro ends
        simp only [Bool.not_eq_false'] at ends
        subst ends
        rfl
      obtain ⟨whole, spelled⟩ := ih frames (block.addStatement label terminated) (!terminated)
        framesKnown (Block.known_addStatement known terminated pieceKnown) settled laterKnown later
        built
      refine ⟨whole, ?_⟩
      rw [spelled, Block.spelled_addStatement (complete rfl) terminated pieceKnown]
      simp [spelledRow, Piece.spelled]
    | opening head start brace =>
      obtain ⟨rfl, later⟩ := orderly
      simp only [assemble] at built
      have deeper : ∀ frame ∈ (⟨head, start, brace, block⟩ : Frame) :: frames, frame.Known := by
        intro frame member
        rcases List.mem_cons.mp member with rfl | outer
        · exact ⟨pieceKnown, known, complete rfl⟩
        · exact framesKnown frame outer
      obtain ⟨whole, spelled⟩ := ih (⟨head, start, brace, block⟩ :: frames) {} false deeper trivial
        (fun _ => rfl) laterKnown later built
      refine ⟨whole, ?_⟩
      rw [spelled]
      simp [spelledFrames, spelledRow, Piece.spelled, Block.spelled, Tree.writtenAll]
    | closing inner brace =>
      cases frames with
      | nil => simp [assemble] at built
      | cons frame frames =>
        simp only [assemble] at built
        obtain ⟨heads, outerKnown, outerComplete⟩ := framesKnown frame List.mem_cons_self
        have outside : ∀ other ∈ frames, other.Known :=
          fun other member => framesKnown other (List.mem_cons_of_mem frame member)
        have container : (block.close frame.head inner
            ⟨frame.start, brace.advance '}'⟩).label.kind.isContainer = true :=
          Block.isContainer_of_heads heads
        obtain ⟨whole, spelled⟩ := ih frames
          (frame.outer.addBlock (block.close frame.head inner ⟨frame.start, brace.advance '}'⟩)) false
          outside
          (Block.known_addBlock outerKnown heads.1 (Block.known_close inner _ known heads))
          (fun _ => Block.complete_addBlock container) laterKnown orderly built
        refine ⟨whole, ?_⟩
        rw [spelled, Block.spelled_addBlock outerComplete container, Block.written_close _ _ heads]
        simp [spelledFrames, spelledRow, Piece.spelled, Block.close, Tree.label, Label.before]

theorem assemble_failed (error : ParseError) (frames : List Frame) (block : Block)
    (row : List Piece) (t : Tree Label) : assemble (.failed error) frames block row ≠ .ok t := by
  induction row generalizing frames block with
  | nil => cases frames <;> simp [assemble]
  | cons piece row ih =>
    cases piece with
    | comment label => simpa only [assemble] using ih frames _
    | statement label terminated => simpa only [assemble] using ih frames _
    | opening head start brace => simpa only [assemble] using ih _ _
    | closing after brace =>
      cases frames with
      | nil => simp [assemble]
      | cons frame frames => simpa only [assemble] using ih frames _

theorem parse_written {text : Text} {t : Tree Label} (parsed : parse text = .ok t) :
    t.Known ∧ t.written false = text := by
  simp only [parse] at parsed
  cases ended : (pieces .start text).2 with
  | failed error =>
    rw [ended] at parsed
    exact absurd parsed (assemble_failed error [] {} _ t)
  | done after stop =>
    rw [ended] at parsed
    obtain ⟨known, spelled⟩ := pieces_account .start text
    obtain ⟨whole, same⟩ := assemble_spelled after stop [] {} _ t false (by simp) trivial
      (fun _ => rfl) known (pieces_orderly .start text false (by simp)) parsed
    refine ⟨whole, ?_⟩
    rw [same, spelled after stop ended]
    rfl

theorem assemble_root (ending : Ending) (frames : List Frame) (block : Block) (row : List Piece)
    (t : Tree Label) (built : assemble ending frames block row = .ok t) :
    t.label.kind = .root ∧ t.label.raws.after.isSome := by
  induction row generalizing frames block with
  | nil =>
    cases frames with
    | nil =>
      cases ending with
      | done after stop =>
        simp only [assemble, Except.ok.injEq] at built
        subst built
        exact ⟨rfl, rfl⟩
      | failed e => simp [assemble] at built
    | cons frame frames => cases ending <;> simp [assemble] at built
  | cons piece row ih =>
    cases piece with
    | comment label => exact ih _ _ (by simpa only [assemble] using built)
    | statement label terminated => exact ih _ _ (by simpa only [assemble] using built)
    | opening head start brace => exact ih _ _ (by simpa only [assemble] using built)
    | closing after brace =>
      cases frames with
      | nil => simp [assemble] at built
      | cons frame frames => exact ih _ _ (by simpa only [assemble] using built)

theorem parse_root {text : Text} {t : Tree Label} (parsed : parse text = .ok t) :
    t.label.kind = .root ∧ t.label.raws.after.isSome := assemble_root _ [] {} _ t parsed

end Source

namespace Sheet

theorem exists_tree_of_parse {source : String} {s : Sheet} (parsed : Sheet.parse source = .ok s) :
    ∃ t, Source.parse source.toList = .ok t ∧ s = ofTree (t.map (Label.moved .kept)) := by
  rw [Sheet.parse] at parsed
  cases read : Source.parse source.toList with
  | error e =>
    rw [read] at parsed
    cases parsed
  | ok t =>
    rw [read] at parsed
    exact ⟨t, rfl, (Except.ok.inj parsed).symm⟩

theorem parse_of_tree {source : String} {t : Tree Label} (read : Source.parse source.toList = .ok t) :
    Sheet.parse source = .ok (ofTree (t.map (Label.moved .kept))) := by
  rw [Sheet.parse, read]
  rfl

theorem exists_error_of_parse {source : String} {error : ParseError} (refused : Sheet.parse source = .error error) :
    ∃ e, Source.parse source.toList = .error e ∧ error = e.moved .kept := by
  rw [Sheet.parse] at refused
  cases read : Source.parse source.toList with
  | ok t =>
    rw [read] at refused
    cases refused
  | error e =>
    rw [read] at refused
    exact ⟨e, rfl, (Except.error.inj refused).symm⟩

theorem exists_sheet_of_accepted (source : String)
    (accepted : (Sheet.parse source).toOption.isSome = true) : ∃ s, Sheet.parse source = .ok s := by
  cases parsed : Sheet.parse source with
  | error e => simp [parsed, Except.toOption] at accepted
  | ok s => exact ⟨s, rfl⟩

theorem nodeCss_of_tree_eq {source : String} {s s' : Sheet} (parsed : Sheet.parse source = .ok s)
    (same : s'.tree root = s.tree root) : s'.nodeCss root = source.toList := by
  obtain ⟨t, read, rfl⟩ := exists_tree_of_parse parsed
  obtain ⟨known, spelled⟩ := Source.parse_written read
  have tree : (s'.shape root).map s'.label = t.map (Label.moved .kept) := same.trans (tree_ofTree _)
  rw [nodeCss, printTree_eq _ _ _ (tree.symm ▸ Tree.known_moved _ t known), tree, Tree.written_moved, spelled]

/-- Printing what has been read gives the source, character by character. -/
theorem css_of_parse {source : String} {s : Sheet} (parsed : Sheet.parse source = .ok s) :
    s.css = source := by
  rw [css, nodeCss_of_tree_eq parsed rfl, String.ofList_toList]

/-- Stray semicolons, a comment behind the last declaration, a mark of importance, an at-rule
without parameters, and a last declaration without a semicolon. -/
theorem css_of_parse_stray_semicolons :
    ∃ s, Sheet.parse "a\x7b;b: c ! Important;;/* d */\x7d@e ;@media\x7bf\x7bg:h\x7d\x7d\n" = .ok s ∧
      s.css = "a\x7b;b: c ! Important;;/* d */\x7d@e ;@media\x7bf\x7bg:h\x7d\x7d\n" := by
  obtain ⟨s, parsed⟩ := exists_sheet_of_accepted
    "a\x7b;b: c ! Important;;/* d */\x7d@e ;@media\x7bf\x7bg:h\x7d\x7d\n" (by decide +kernel)
  exact ⟨s, parsed, css_of_parse parsed⟩

end Sheet

end NestLint
