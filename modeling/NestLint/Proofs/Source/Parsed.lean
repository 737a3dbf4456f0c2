import NestLint.Proofs.Source.Tidy

/-!
A tree that has been read from a text without escapes is tidy. Along the row of pieces the open blocks
stay tidy as far as they have been read; the one statement that may still wait for its end is the last
of the innermost block, and then nothing but the end of that block follows.
-/

namespace NestLint

namespace Source

/-- Every piece of the row is read again wherever its text stands, and nothing but gaps stands between
the pieces and behind the last. -/
def SoundRow (final : Text) : List Piece → Prop
  | [] => ∀ c ∈ final, Text.isGap c = true
  | piece :: row =>
    piece.Sound (spelledRow row ++ final) ∧ (∀ c ∈ piece.before, Text.isGap c = true) ∧ SoundRow final row

theorem gap_of_takeWhile (text : Text) : ∀ c ∈ text.takeWhile Text.isGap, Text.isGap c = true :=
  List.all_eq_true.mp List.all_takeWhile

theorem pieces_soundRow (pos : Position) (text : Text) (escape : '\\' ∉ text) (after : Text)
    (stop : Position) (ended : (pieces pos text).2 = .done after stop) :
    SoundRow after (pieces pos text).1 := by
  fun_induction pieces pos text with
  | case1 pos text piece next rest read _ row ending later ih =>
    obtain ⟨-, spelled⟩ := step_accounts read
    have behind := (pieces_account next rest).2 after stop
    rw [later] at ih behind
    have escapeRest : '\\' ∉ rest := fun listed => escape (spelled ▸ List.mem_append_right _ listed)
    refine ⟨?_, ?_, ih escapeRest ended⟩
    · rw [behind ended]
      exact step_sound escape read
    · rw [before_of_step read]
      exact gap_of_takeWhile text
  | case2 pos text after' stop' read =>
    simp only [Ending.done.injEq] at ended
    obtain ⟨rfl, rfl⟩ := ended
    rw [SoundRow, (step_done_gap read).1]
    exact gap_of_takeWhile text
  | case3 pos text error read => simp at ended

namespace Block

/-- The block is tidy as far as it has been read, except that a statement may wait for its end. -/
structure Tidy (b : Block) (waiting : Option Label) : Prop where
  below : Tree.EveryAll Label.Tidy b.children.reverse
  apart : ∀ c ∈ b.children.reverse.map Tree.label, c.Apart ∧ c.kind.isRoot = false
  row : Label.Row b.terminated (fun l => waiting = some l) (b.children.reverse.map Tree.label)

theorem tidy_leaf {l : Label} {comment : Bool} (stands : Stands l comment) :
    (Tree.node l []).Every Label.Tidy := by
  have leaf := stands.2.2.1
  refine ⟨⟨stands.2.1, by simp, fun _ => rfl, ?_, ?_, ?_, Or.inr (by simp), trivial⟩, trivial⟩
  · intro block
    rw [leaf] at block
    cases block
  · intro block
    rw [leaf] at block
    cases block
  · intro selector rule
    rw [rule] at leaf
    cases leaf

section add

variable {b : Block} {l : Label}

theorem Tidy.concat {waiting waiting' : Option Label} {t : Tree Label} (tidy : b.Tidy waiting)
    (below : t.Every Label.Tidy) (apart : t.label.Apart) (inner : t.label.kind.isRoot = false)
    (terminated : Bool)
    (row : Label.Row terminated (fun l => waiting' = some l)
      (b.children.reverse.map Tree.label ++ [t.label])) :
    Tidy { children := t :: b.children, terminated := terminated } waiting' where
  below := by
    have inside := Tree.everyAll_iff.mp tidy.below
    refine Tree.everyAll_iff.mpr fun other listed => ?_
    rw [List.reverse_cons, List.mem_append, List.mem_singleton] at listed
    rcases listed with old | rfl
    · exact inside other old
    · exact below
  apart := by
    intro c listed
    rw [List.reverse_cons, List.map_append, List.mem_append, List.map_singleton, List.mem_singleton] at listed
    rcases listed with old | rfl
    · exact tidy.apart c old
    · exact ⟨apart, inner⟩
  row := by simpa using row

theorem Tidy.ends (tidy : b.Tidy none) :
    ∀ l ∈ b.children.reverse.map Tree.label, l.kind.isContainer = false → l.Ends :=
  tidy.row.ends (by simp)

theorem tidy_addComment (tidy : b.Tidy none) (stands : Stands l true) (ends : l.Ends)
    (gap : ∀ c ∈ l.before, Text.isGap c = true) : (b.addComment l).Tidy none := by
  apply tidy.concat (tidy_leaf stands) ⟨stands.1, gap⟩ (isRoot_of_stands stands)
  exact Label.row_concat_of_isComment stands.2.2.2 ends (by simp) tidy.row

theorem tidy_addStatement (tidy : b.Tidy none) (stands : Stands l false) (ends : l.Ends)
    (gap : ∀ c ∈ l.before, Text.isGap c = true) : (b.addStatement l true).Tidy none := by
  apply tidy.concat (tidy_leaf stands) ⟨stands.1, gap⟩ (isRoot_of_stands stands)
  apply Label.row_of_ends
  intro other listed leaf
  rcases List.mem_append.mp listed with old | new
  · exact tidy.ends other old leaf
  · rw [List.mem_singleton.mp new]
    exact ends

theorem tidy_addUnended (tidy : b.Tidy none) (stands : Stands l false)
    (gap : ∀ c ∈ l.before, Text.isGap c = true) : (b.addStatement l false).Tidy (some l) := by
  apply tidy.concat (tidy_leaf stands) ⟨stands.1, gap⟩ (isRoot_of_stands stands)
  have statement : l.kind.isComment = false := stands.2.2.2
  rw [Label.row_append_iff (by simp [Tree.label, statement])]
  exact ⟨tidy.ends, by simp [Label.Row, Tree.label, statement]⟩

theorem tidy_addBlock {inner : Tree Label} (tidy : b.Tidy none) (below : inner.Every Label.Tidy)
    (apart : inner.label.Apart) (inside : inner.label.kind.isRoot = false)
    (block : inner.label.kind.isContainer = true) : (b.addBlock inner).Tidy none := by
  apply tidy.concat below apart inside
  rw [Label.row_append_iff (by simp [Tree.isComment_of_isContainer block])]
  exact ⟨tidy.ends, by simp [Label.Row, block]⟩

end add

theorem Tidy.row_close {b : Block} {waiting : Option Label} (tidy : b.Tidy waiting) (head : Label)
    (after : Text) (span : Span)
    (last : ∀ l, waiting = some l → (b.close head after span).label.Closes l) :
    Label.Row ((b.close head after span).label.raws.semicolon.getD false)
      (b.close head after span).label.Closes (b.children.reverse.map Tree.label) := by
  have row := tidy.row.mono last
  cases children : b.children with
  | nil => trivial
  | cons t rest =>
    rw [children] at row
    simpa [close, Tree.label, children] using row

theorem tidy_close {b : Block} {waiting : Option Label} {head : Label} {after : Text} (tidy : b.Tidy waiting)
    (heads : Heads head) (opens : head.Opens) (trimmed : head.Trimmed)
    (gap : ∀ c ∈ after, Text.isGap c = true)
    (last : ∀ l, waiting = some l → l.Ends ∧ l.StopsBefore after) (span : Span) :
    (b.close head after span).Every Label.Tidy := by
  have block := isContainer_of_heads heads
  have inner := isRoot_of_heads heads
  refine ⟨?_, tidy.below⟩
  exact
    { known := known_label_close after span heads
      apart := tidy.apart
      leaf := fun leaf => absurd (block.symm.trans leaf) (by simp)
      after := fun _ => gap
      opens := fun _ _ => opens
      trimmed := trimmed
      semicolon := (semicolon_close after span).imp id Tree.endInBlock_iff.mp
      row := tidy.row_close head after span fun l waits =>
        ⟨fun rest => by
          have tail : (b.close head after span).label.tail rest = after ++ '}' :: rest := by
            simp [Label.tail, close, Tree.label, inner]
          rw [tail]
          exact (last l waits).2 rest, fun _ => (last l waits).1⟩ }

theorem tidy_close_root {b : Block} {waiting : Option Label} {after : Text} (tidy : b.Tidy waiting)
    (gap : ∀ c ∈ after, Text.isGap c = true)
    (last : ∀ l, waiting = some l → Reads (l.leaf false ++ after) (.leaf l.kind) after) (span : Span) :
    (b.close { kind := .root } after span).Every Label.Tidy := by
  refine ⟨?_, tidy.below⟩
  exact
    { known := trivial
      apart := tidy.apart
      leaf := fun leaf => by cases leaf
      after := fun _ => gap
      opens := fun _ inner => by cases inner
      trimmed := fun selector rule => by cases rule
      semicolon := (semicolon_close after span).imp id Tree.endInBlock_iff.mp
      row := tidy.row_close _ after span fun l waits => ⟨fun _ => last l waits, fun inner => by cases inner⟩ }

end Block

structure Frame.Tidy (frame : Frame) : Prop where
  heads : Heads frame.head
  opens : frame.head.Opens
  trimmed : frame.head.Trimmed
  gap : ∀ c ∈ frame.head.before, Text.isGap c = true
  outer : frame.outer.Tidy none

theorem assemble_tidy (after : Text) (stop : Position) (frames : List Frame) (block : Block)
    (row : List Piece) (t : Tree Label) (waiting : Option Label)
    (framesTidy : ∀ frame ∈ frames, frame.Tidy) (tidy : block.Tidy waiting)
    (waits : ∀ l, waiting = some l → (Piece.statement l false).Sound (spelledRow row ++ after))
    (known : ∀ piece ∈ row, piece.Known) (sound : SoundRow after row)
    (orderly : Orderly waiting.isSome row)
    (built : assemble (.done after stop) frames block row = .ok t) : t.Every Label.Tidy := by
  induction row generalizing frames block waiting with
  | nil =>
    cases frames with
    | nil =>
      simp only [assemble, Except.ok.injEq] at built
      subst built
      exact Block.tidy_close_root tidy sound (fun l isLast => (waits l isLast).1) _
    | cons frame frames => simp [assemble] at built
  | cons piece row ih =>
    rw [List.forall_mem_cons] at known
    obtain ⟨own, gap, soundLater⟩ := sound
    -- Only a closing brace may follow a statement that waits for its end.
    have settled : waiting.isSome = false → waiting = none := by simp
    cases piece with
    | comment label =>
      obtain ⟨nobody, later⟩ := orderly
      obtain rfl := settled nobody
      simp only [assemble] at built
      exact ih frames (block.addComment label) none framesTidy
        (Block.tidy_addComment tidy known.1 own gap) (by simp) known.2 soundLater later built
    | statement label terminated =>
      obtain ⟨nobody, later⟩ := orderly
      obtain rfl := settled nobody
      simp only [assemble] at built
      cases terminated with
      | true =>
        exact ih frames (block.addStatement label true) none framesTidy
          (Block.tidy_addStatement tidy known.1 own gap) (by simp) known.2 soundLater later built
      | false =>
        refine ih frames (block.addStatement label false) (some label) framesTidy
          (Block.tidy_addUnended tidy known.1 gap) ?_ known.2 soundLater later built
        rintro l ⟨⟩
        exact own
    | opening head start brace =>
      obtain ⟨nobody, later⟩ := orderly
      obtain rfl := settled nobody
      simp only [assemble] at built
      have deeper : ∀ frame ∈ (⟨head, start, brace, block⟩ : Frame) :: frames, frame.Tidy :=
        List.forall_mem_cons.mpr ⟨⟨known.1, own.1, own.2, gap, tidy⟩, framesTidy⟩
      exact ih _ {} none deeper ⟨trivial, by simp, trivial⟩ (by simp) known.2 soundLater later built
    | closing inner brace =>
      cases frames with
      | nil => simp [assemble] at built
      | cons frame frames =>
        simp only [assemble] at built
        obtain ⟨here, outside⟩ := List.forall_mem_cons.mp framesTidy
        have absent : '}' ∉ inner := fun listed => absurd (gap '}' listed) (by decide)
        have last : ∀ l, waiting = some l → l.Ends ∧ l.StopsBefore inner := fun l isLast =>
          (waits l isLast).2 inner (spelledRow row ++ after) (by simp [spelledRow, Piece.spelled]) absent
        have closed := Block.tidy_close tidy here.heads here.opens here.trimmed gap last
          ⟨frame.start, brace.advance '}'⟩
        exact ih frames (frame.outer.addBlock (block.close frame.head inner ⟨frame.start, brace.advance '}'⟩))
          none outside
          (Block.tidy_addBlock here.outer closed ⟨here.heads.1, here.gap⟩ (isRoot_of_heads here.heads)
            (Block.isContainer_of_heads here.heads))
          (by simp) known.2 soundLater orderly built

theorem tidy_of_parse {text : Text} {t : Tree Label} (escape : '\\' ∉ text) (parsed : parse text = .ok t) :
    t.Every Label.Tidy := by
  simp only [parse] at parsed
  cases ended : (pieces .start text).2 with
  | failed error =>
    rw [ended] at parsed
    exact absurd parsed (assemble_failed error [] {} _ t)
  | done after stop =>
    rw [ended] at parsed
    exact assemble_tidy after stop [] {} _ t none (by simp) ⟨trivial, by simp, trivial⟩ (by simp)
      (pieces_account .start text).1 (pieces_soundRow .start text escape after stop ended)
      (pieces_orderly .start text false (by simp)) parsed

end Source

end NestLint
