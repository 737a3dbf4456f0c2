import NestLint.Proofs.Source.Reading
import NestLint.Proofs.Source.RoundTrip

/-!
Trees whose text is read as the tree. In a tidy tree every head is read as that head, a gap stands
before every node and every closing brace, and every statement is read as such with the semicolon that
it is printed with, or without one in front of the closing brace of its block. The text of such a tree
is a row of pieces with the marks of its nodes, and from the marks the tree is assembled again.
-/

namespace NestLint

open Source

namespace Tree

mutual
/-- `P` holds of every node and the labels of its children. -/
def Every (P : Label → List Label → Prop) : Tree Label → Prop
  | .node l ts => P l (ts.map label) ∧ EveryAll P ts
def EveryAll (P : Label → List Label → Prop) : List (Tree Label) → Prop
  | [] => True
  | t :: ts => Every P t ∧ EveryAll P ts
end

variable {P Q : Label → List Label → Prop}

theorem everyAll_iff {ts : List (Tree Label)} : EveryAll P ts ↔ ∀ t ∈ ts, Every P t := by
  induction ts with
  | nil => simp [EveryAll]
  | cons t ts ih => rw [EveryAll, ih, List.forall_mem_cons]

theorem labels_mapAll (f : Label → Label) (ts : List (Tree Label)) :
    (mapAll f ts).map label = (ts.map label).map f := by
  induction ts with
  | nil => rfl
  | cons t ts ih => rw [mapAll, List.map_cons, List.map_cons, List.map_cons, ih, label_map]

mutual
theorem every_of_preorder (t : Tree Label) (every : t.Every P)
    (each : ∀ l ∈ t.preorder, ∀ ls, P l ls → Q l ls) : t.Every Q := by
  cases t with
  | node l ts =>
    rw [preorder, List.forall_mem_cons] at each
    exact ⟨each.1 _ every.1, everyAll_of_preorder ts every.2 each.2⟩
theorem everyAll_of_preorder (ts : List (Tree Label)) (every : EveryAll P ts)
    (each : ∀ l ∈ preorderAll ts, ∀ ls, P l ls → Q l ls) : EveryAll Q ts := by
  cases ts with
  | nil => trivial
  | cons t ts =>
    rw [preorderAll, List.forall_mem_append] at each
    exact ⟨every_of_preorder t every.1 each.1, everyAll_of_preorder ts every.2 each.2⟩
end

mutual
theorem every_map (f : Label → Label) (t : Tree Label) :
    (t.map f).Every P ↔ t.Every fun l ls => P (f l) (ls.map f) := by
  cases t with
  | node l ts => rw [map, Every, Every, everyAll_mapAll f ts, labels_mapAll]
theorem everyAll_mapAll (f : Label → Label) (ts : List (Tree Label)) :
    EveryAll P (mapAll f ts) ↔ EveryAll (fun l ls => P (f l) (ls.map f)) ts := by
  cases ts with
  | nil => rfl
  | cons t ts => rw [mapAll, EveryAll, EveryAll, every_map f t, everyAll_mapAll f ts]
end

theorem endInBlock_iff {ts : List (Tree Label)} :
    EndInBlock ts ↔ ∀ c ∈ (ts.map label).getLast?, c.kind.isContainer = true := by
  rw [EndInBlock, List.getLast?_map]
  cases ts.getLast? <;> simp

mutual
def marks : Tree Label → List Mark
  | .node l ts => if l.kind.isContainer then .opened l.kind :: (marksAll ts ++ [.closed]) else [.leaf l.kind]
def marksAll : List (Tree Label) → List Mark
  | [] => []
  | t :: ts => marks t ++ marksAll ts
end

end Tree

namespace Label

def tail (l : Label) (rest : Text) : Text :=
  if l.kind.isRoot then l.raws.after.getD [] else l.raws.after.getD [] ++ '}' :: rest

/-- The statement is read as such at the end of the node, and with a semicolon too wherever the node may
get further children. -/
def Closes (l last : Label) : Prop :=
  (∀ rest, Reads (last.leaf false ++ l.tail rest) (.leaf last.kind) (l.tail rest)) ∧
    (l.kind.isRoot = false → last.Ends)

def Apart (l : Label) : Prop := l.raws.before.isSome ∧ ∀ c ∈ l.before, Text.isGap c = true

/-- Every leaf of a row is read as such: with a semicolon where it is printed with one, else as the
last of the row. -/
def Row (flag : Bool) (last : Label → Prop) : List Label → Prop
  | [] => True
  | l :: ls =>
    (l.kind.isContainer = false →
      if l.kind.isComment || (flag || ls.any fun later => !later.kind.isComment) then l.Ends
      else ls = [] ∧ last l) ∧ Row flag last ls

structure Tidy (l : Label) (ls : List Label) : Prop where
  known : l.Known
  apart : ∀ c ∈ ls, c.Apart ∧ c.kind.isRoot = false
  leaf : l.kind.isContainer = false → ls = []
  after : l.kind.isContainer = true → ∀ c ∈ l.raws.after.getD [], Text.isGap c = true
  opens : l.kind.isContainer = true → l.kind.isRoot = false → l.Opens
  trimmed : l.Trimmed
  semicolon : l.raws.semicolon.isSome ∨ ∀ c ∈ ls.getLast?, c.kind.isContainer = true
  row : Row (l.raws.semicolon.getD false) l.Closes ls

section row

variable {flag : Bool} {last last' : Label → Prop} {ls us : List Label}

theorem Row.mono (row : Row flag last ls) (weaker : ∀ l, last l → last' l) : Row flag last' ls := by
  induction ls with
  | nil => trivial
  | cons l ls ih =>
    refine ⟨fun leaf => ?_, ih row.2⟩
    have own := row.1 leaf
    split at own
    next printed => rwa [if_pos printed]
    next bare =>
      rw [if_neg bare]
      exact own.imp id (weaker l)

theorem Row.ends (row : Row flag last ls) (closed : ∀ l, last l → l.Ends) :
    ∀ l ∈ ls, l.kind.isContainer = false → l.Ends := by
  induction ls with
  | nil => simp
  | cons l ls ih =>
    rw [List.forall_mem_cons]
    refine ⟨fun leaf => ?_, ih row.2⟩
    have own := row.1 leaf
    split at own
    next => exact own
    next => exact closed l own.2

theorem row_append_iff (followed : (us.any fun later => !later.kind.isComment) = true) :
    Row flag last (ls ++ us) ↔ (∀ l ∈ ls, l.kind.isContainer = false → l.Ends) ∧ Row flag last us := by
  induction ls with
  | nil => simp
  | cons l ls ih => simp [Row, ih, List.any_append, followed, and_assoc]

theorem row_append_of_isContainer (blocks : ∀ l ∈ us, l.kind.isContainer = true) :
    Row flag last (us ++ ls) ↔ Row flag last ls := by
  induction us with
  | nil => rfl
  | cons l us ih =>
    rw [List.forall_mem_cons] at blocks
    simp [Row, ih blocks.2, blocks.1]

theorem row_of_ends (ends : ∀ l ∈ ls, l.kind.isContainer = false → l.Ends) : Row true last ls := by
  induction ls with
  | nil => trivial
  | cons l ls ih =>
    rw [List.forall_mem_cons] at ends
    exact ⟨fun leaf => by simpa using ends.1 leaf, ih ends.2⟩

theorem row_concat_of_isComment {c : Label} (comment : c.kind.isComment = true) (ends : c.Ends)
    (settled : ∀ l, ¬ last l) (row : Row flag last ls) : Row flag last (ls ++ [c]) := by
  induction ls with
  | nil => exact ⟨fun _ => by simpa [comment] using ends, trivial⟩
  | cons l ls ih =>
    refine ⟨fun leaf => ?_, ih row.2⟩
    have own := row.1 leaf
    split at own
    next printed =>
      rw [if_pos]
      · exact own
      · simpa [List.any_append, comment] using printed
    next => exact absurd own.2 (settled l)

theorem Row.moved {move : Position → Position} (row : Row flag last ls)
    (same : ∀ l, last l → last' (l.moved move)) : Row flag last' (ls.map (Label.moved move)) := by
  induction ls with
  | nil => trivial
  | cons l ls ih =>
    refine ⟨fun leaf => ?_, ih row.2⟩
    have own := row.1 leaf
    have later : ((ls.map (Label.moved move)).any fun later => !later.kind.isComment) =
        ls.any fun later => !later.kind.isComment := List.any_map
    rw [later]
    split at own
    next printed => exact (if_pos printed).mpr own
    next bare =>
      refine (if_neg bare).mpr ⟨?_, same l own.2⟩
      rw [own.1, List.map_nil]

end row

theorem Tidy.moved (move : Position → Position) {l : Label} {ls : List Label} (tidy : l.Tidy ls) :
    (l.moved move).Tidy (ls.map (Label.moved move)) where
  known := tidy.known
  apart := List.forall_mem_map.mpr tidy.apart
  leaf block := by rw [tidy.leaf block, List.map_nil]
  after := tidy.after
  opens := tidy.opens
  trimmed := tidy.trimmed
  semicolon := tidy.semicolon.imp id fun blocks => by
    rw [List.getLast?_map]
    rintro c isLast
    obtain ⟨last, listed, rfl⟩ := Option.map_eq_some_iff.mp isLast
    exact blocks last listed
  row := tidy.row.moved fun _ closes => closes

theorem around_of_isContainer {l : Label} (block : l.kind.isContainer = true) (inner : l.kind.isRoot = false)
    (semicolon : Bool) (body : Text) :
    l.around semicolon body = l.opening ++ body ++ l.raws.after.getD [] ++ ['}'] := by
  cases kind : l.kind with
  | root => simp [kind, Kind.isRoot] at inner
  | rule selector => simp only [around, kind]
  | atRule name params hasBlock =>
    cases hasBlock with
    | true => simp only [around, kind]
    | false => simp [kind, Kind.isContainer] at block
  | decl property value important => simp [kind, Kind.isContainer] at block
  | comment text => simp [kind, Kind.isContainer] at block

end Label

theorem Tree.tidy_moved (move : Position → Position) {t : Tree Label} (tidy : t.Every Label.Tidy) :
    (t.map (Label.moved move)).Every Label.Tidy :=
  (Tree.every_map _ t).mpr (Tree.every_of_preorder t tidy fun _ _ _ own => own.moved move)

namespace Source

/-- The text is read piece by piece, with these marks, up to the rest. -/
inductive Reading : Text → List Mark → Text → Prop
  | done (rest : Text) : Reading rest [] rest
  | piece {text middle rest : Text} {mark : Mark} {marks : List Mark} (first : Reads text mark middle)
      (later : Reading middle marks rest) : Reading text (mark :: marks) rest

namespace Reading

variable {text middle rest gap : Text} {marks marks' : List Mark} {mark : Mark}

theorem trans (first : Reading text marks middle) (second : Reading middle marks' rest) :
    Reading text (marks ++ marks') rest := by
  induction first with
  | done => exact second
  | piece reads _ ih => exact .piece reads (ih second)

theorem single (reads : Reads text mark rest) : Reading text [mark] rest := .piece reads (.done rest)

theorem gap_append (all : ∀ c ∈ gap, Text.isGap c = true) (reading : Reading text (mark :: marks) rest) :
    Reading (gap ++ text) (mark :: marks) rest := by
  cases reading with
  | piece reads later => exact .piece ((reads_gap_append all).mpr reads) later

end Reading

end Source

namespace Tree

theorem exists_marks_eq (t : Tree Label) : ∃ mark marks, t.marks = mark :: marks := by
  cases t with
  | node l ts =>
    rw [marks]
    split
    · exact ⟨_, _, rfl⟩
    · exact ⟨_, _, rfl⟩

theorem reading_gap_append {gap text rest : Text} (t : Tree Label) (all : ∀ c ∈ gap, Text.isGap c = true)
    (reading : Reading text t.marks rest) : Reading (gap ++ text) t.marks rest := by
  obtain ⟨mark, marks, same⟩ := t.exists_marks_eq
  rw [same] at reading ⊢
  exact reading.gap_append all

theorem reads_leaf {l : Label} {ls : List Label} {flag : Bool} {last : Label → Prop} {rest : Text}
    (row : Label.Row flag last (l :: ls)) (leaf : l.kind.isContainer = false)
    (stops : ls = [] → last l → Reads (l.leaf false ++ rest) (.leaf l.kind) rest) :
    Reads (l.leaf (flag || ls.any fun later => !later.kind.isComment) ++ rest) (.leaf l.kind) rest := by
  have own := row.1 leaf
  split at own
  next printed =>
    rcases Bool.or_eq_true_iff.mp printed with comment | semicolon
    · rw [Block.leaf_of_isComment _ comment, ← Block.leaf_of_isComment true comment]
      exact own rest
    · rw [semicolon]
      exact own rest
  next bare =>
    rw [Bool.not_eq_true, Bool.or_eq_false_iff] at bare
    rw [bare.2]
    exact stops own.1 own.2

mutual
theorem reading_written (t : Tree Label) (tidy : t.Every Label.Tidy) (semicolon : Bool)
    (block : t.label.kind.isContainer = true) (inner : t.label.kind.isRoot = false) (rest : Text) :
    Reading (t.written semicolon ++ rest) t.marks rest := by
  cases t with
  | node l ts =>
    obtain ⟨own, below⟩ := tidy
    rw [label] at block inner
    have closes : l.tail rest = l.raws.after.getD [] ++ '}' :: rest := by
      rw [Label.tail, inner]
      rfl
    have head := own.opens block inner (writtenAll (l.raws.semicolon.getD false) ts ++ l.tail rest)
    have body := reading_writtenAll l ts below own.apart own.row rest
    have brace : Reading (l.tail rest) [.closed] rest := by
      rw [closes]
      exact .single (reads_closed (own.after block) rest)
    have whole : (l.opening ++ writtenAll (l.raws.semicolon.getD false) ts ++ l.raws.after.getD [] ++
        ['}']) ++ rest = l.opening ++ (writtenAll (l.raws.semicolon.getD false) ts ++ l.tail rest) := by
      simp only [closes, List.append_assoc, List.singleton_append]
    rw [written, Label.around_of_isContainer block inner, marks, if_pos block, whole]
    exact .piece head (body.trans brace)
theorem reading_writtenAll (l : Label) (ts : List (Tree Label)) (tidy : EveryAll Label.Tidy ts)
    (apart : ∀ c ∈ ts.map label, c.Apart ∧ c.kind.isRoot = false)
    {flag : Bool} (row : Label.Row flag l.Closes (ts.map label)) (rest : Text) :
    Reading (writtenAll flag ts ++ l.tail rest) (marksAll ts) (l.tail rest) := by
  cases ts with
  | nil => exact .done _
  | cons t ts =>
    obtain ⟨first, later⟩ := tidy
    rw [List.map_cons, List.forall_mem_cons] at apart
    rw [List.map_cons] at row
    have behind := reading_writtenAll l ts later apart.2 row.2 rest
    rw [writtenAll, marksAll, List.append_assoc, List.append_assoc]
    refine Reading.trans (reading_gap_append t apart.1.1.2 ?_) behind
    cases block : t.label.kind.isContainer with
    | true => exact reading_written t first _ block apart.1.2 _
    | false =>
      cases t with
      | node leaf us =>
        rw [label] at block
        obtain rfl : us = [] := List.map_eq_nil_iff.mp (first.1.leaf block)
        rw [Block.written_leaf _ block, marks, if_neg (by rw [block]; exact Bool.false_ne_true)]
        have stops : ts.map label = [] → l.Closes leaf →
            Reads (leaf.leaf false ++ (writtenAll flag ts ++ l.tail rest)) (.leaf leaf.kind)
              (writtenAll flag ts ++ l.tail rest) := by
          intro none closes
          rw [List.map_eq_nil_iff] at none
          rw [none]
          exact closes.1 rest
        have reads := reads_leaf row block stops
        rw [List.any_map] at reads
        exact .single reads
end

end Tree

namespace Source

theorem pieces_of_gap {text : Text} (gap : ∀ c ∈ text, Text.isGap c = true) (pos : Position) :
    ∃ after stop, pieces pos text = ([], .done after stop) := by
  have nothing : text.dropWhile Text.isGap = [] := by
    rw [← List.append_nil text, List.dropWhile_append_of_pos gap]
    rfl
  have ended : step pos text = .done (text.takeWhile Text.isGap) (pos.past (text.takeWhile Text.isGap)) := by
    simp only [step, nothing]
  exact ⟨_, _, pieces_of_done ended⟩

theorem pieces_of_reading {text rest : Text} {marks : List Mark} (reading : Reading text marks rest)
    (gap : ∀ c ∈ rest, Text.isGap c = true) (pos : Position) :
    ∃ row after stop, pieces pos text = (row, .done after stop) ∧ row.map Piece.mark = marks := by
  induction reading generalizing pos with
  | done rest =>
    obtain ⟨after, stop, ended⟩ := pieces_of_gap gap pos
    exact ⟨[], after, stop, ended, rfl⟩
  | @piece text middle rest mark marks reads later ih =>
    have found := reads pos
    cases read : step pos text with
    | done after stop => rw [read] at found; cases found
    | failed e => rw [read] at found; cases found
    | piece piece stop behind =>
      rw [read, Step.mark, Option.some.injEq, Prod.mk.injEq] at found
      obtain ⟨rfl, rfl⟩ := found
      obtain ⟨row, after, last, rest, same⟩ := ih gap stop
      refine ⟨piece :: row, after, last, ?_, by rw [List.map_cons, same]⟩
      rw [pieces_of_piece read, rest]

namespace Block

def kinds (b : Block) : List (Tree Kind) := b.children.reverse.map (Tree.map Label.kind)

theorem kinds_addComment (b : Block) (l : Label) :
    (b.addComment l).kinds = b.kinds ++ [.node l.kind []] := by
  simp [kinds, addComment, Tree.map, Tree.mapAll]

theorem kinds_addStatement (b : Block) (l : Label) (terminated : Bool) :
    (b.addStatement l terminated).kinds = b.kinds ++ [.node l.kind []] := by
  simp [kinds, addStatement, Tree.map, Tree.mapAll]

theorem kinds_addBlock (b : Block) (t : Tree Label) :
    (b.addBlock t).kinds = b.kinds ++ [t.map Label.kind] := by
  simp [kinds, addBlock]

theorem map_close (b : Block) (head : Label) (after : Text) (span : Span) :
    (b.close head after span).map Label.kind = .node head.kind b.kinds := by
  simp [kinds, close, Tree.map, Tree.mapAll_eq_map]

end Block

def Assembles (trees : List (Tree Kind)) (marks : List Mark) : Prop :=
  ∀ (ending : Ending) (frames : List Frame) (block : Block) (row : List Piece) (later : List Mark),
    row.map Piece.mark = marks ++ later →
      ∃ block' row', assemble ending frames block row = assemble ending frames block' row' ∧
        block'.kinds = block.kinds ++ trees ∧ row'.map Piece.mark = later

theorem assembles_nil : Assembles [] [] :=
  fun _ _ block row _ same => ⟨block, row, rfl, (List.append_nil _).symm, same⟩

theorem assembles_leaf (kind : Kind) : Assembles [.node kind []] [.leaf kind] := by
  intro ending frames block row later same
  cases row with
  | nil => cases same
  | cons piece row =>
    obtain ⟨mark, rest⟩ := List.cons.inj same
    cases piece with
    | comment l =>
      cases mark
      refine ⟨block.addComment l, row, ?_, block.kinds_addComment l, rest⟩
      rw [assemble]
    | statement l terminated =>
      cases mark
      refine ⟨block.addStatement l terminated, row, ?_, block.kinds_addStatement l terminated, rest⟩
      rw [assemble]
    | opening l start brace => cases mark
    | closing after brace => cases mark

theorem assembles_append {trees trees' : List (Tree Kind)} {marks marks' : List Mark}
    (first : Assembles trees marks) (second : Assembles trees' marks') :
    Assembles (trees ++ trees') (marks ++ marks') := by
  intro ending frames block row later same
  rw [List.append_assoc] at same
  obtain ⟨block₁, row₁, step₁, kinds₁, same₁⟩ := first ending frames block row _ same
  obtain ⟨block₂, row₂, step₂, kinds₂, same₂⟩ := second ending frames block₁ row₁ _ same₁
  exact ⟨block₂, row₂, step₁.trans step₂, by rw [kinds₂, kinds₁, List.append_assoc], same₂⟩

theorem assembles_block {trees : List (Tree Kind)} {marks : List Mark} (kind : Kind)
    (inside : Assembles trees marks) :
    Assembles [.node kind trees] (.opened kind :: (marks ++ [.closed])) := by
  intro ending frames block row later same
  cases row with
  | nil => cases same
  | cons piece row =>
    rw [List.map_cons, List.cons_append, List.append_assoc] at same
    obtain ⟨mark, rest⟩ := List.cons.inj same
    cases piece with
    | opening head start brace =>
      cases mark
      obtain ⟨inner, row', opened, kinds, same'⟩ :=
        inside ending (⟨head, start, brace, block⟩ :: frames) {} row _ rest
      cases row' with
      | nil => cases same'
      | cons piece' row' =>
        obtain ⟨mark', rest'⟩ := List.cons.inj same'
        cases piece' with
        | closing after close =>
          refine ⟨block.addBlock (inner.close head after ⟨start, close.advance '}'⟩), row', ?_, ?_, rest'⟩
          · rw [assemble, opened, assemble]
          · rw [Block.kinds_addBlock, Block.map_close, kinds]
            rfl
        | comment l => cases mark'
        | statement l terminated => cases mark'
        | opening l start brace => cases mark'
    | comment l => cases mark
    | statement l terminated => cases mark
    | closing after brace => cases mark

end Source

namespace Tree

mutual
theorem assembles_marks (t : Tree Label) (tidy : t.Every Label.Tidy) :
    Assembles [t.map Label.kind] t.marks := by
  cases t with
  | node l ts =>
    rw [map, marks]
    split
    next block => exact assembles_block l.kind (assembles_marksAll ts tidy.2)
    next leaf =>
      rw [Bool.not_eq_true] at leaf
      obtain rfl : ts = [] := List.map_eq_nil_iff.mp (tidy.1.leaf leaf)
      exact assembles_leaf l.kind
theorem assembles_marksAll (ts : List (Tree Label)) (tidy : EveryAll Label.Tidy ts) :
    Assembles (mapAll Label.kind ts) (marksAll ts) := by
  cases ts with
  | nil => exact assembles_nil
  | cons t ts => exact assembles_append (assembles_marks t tidy.1) (assembles_marksAll ts tidy.2)
end

end Tree

namespace Tree

mutual
theorem known_of_tidy (t : Tree Label) (tidy : t.Every Label.Tidy) : t.Known := by
  cases t with
  | node l ts =>
    exact ⟨tidy.1.known, tidy.1.semicolon.imp id endInBlock_iff.mpr, knownAll_of_tidy ts tidy.2 tidy.1.apart⟩
theorem knownAll_of_tidy (ts : List (Tree Label)) (tidy : EveryAll Label.Tidy ts)
    (apart : ∀ c ∈ ts.map label, c.Apart ∧ c.kind.isRoot = false) : KnownAll ts := by
  cases ts with
  | nil => trivial
  | cons t ts =>
    rw [List.map_cons, List.forall_mem_cons] at apart
    exact ⟨apart.1.1.1, known_of_tidy t tidy.1, knownAll_of_tidy ts tidy.2 apart.2⟩
end

end Tree

namespace Source

/-- The text is read up to the rest, and its pieces make up these trees. -/
def Yields (text : Text) (trees : List (Tree Kind)) (rest : Text) : Prop :=
  ∃ marks, Reading text marks rest ∧ Assembles trees marks

theorem parse_of_yields {text rest : Text} {trees : List (Tree Kind)} (yields : Yields text trees rest)
    (gap : ∀ c ∈ rest, Text.isGap c = true) :
    ∃ u, parse text = .ok u ∧ u.map Label.kind = .node .root trees := by
  obtain ⟨marks, reading, assembles⟩ := yields
  obtain ⟨row, after, stop, read, same⟩ := pieces_of_reading reading gap .start
  obtain ⟨block, none, built, kinds, nothing⟩ := assembles (.done after stop) [] {} row []
    (by rw [same, List.append_nil])
  obtain rfl : none = [] := List.map_eq_nil_iff.mp nothing
  refine ⟨block.close { kind := .root } after ⟨.start, stop⟩, ?_, ?_⟩
  · rw [parse, read]
    exact built
  · rw [Block.map_close, kinds]
    rfl

end Source

theorem Source.parse_written_of_tidy {t : Tree Label} (tidy : t.Every Label.Tidy)
    (top : t.label.kind = .root) :
    ∃ u, parse (t.written false) = .ok u ∧ u.map Label.kind = t.map Label.kind := by
  cases t with
  | node l ts =>
    obtain ⟨own, below⟩ := tidy
    rw [Tree.label] at top
    have tail : l.tail [] = l.raws.after.getD [] := by
      rw [Label.tail, top]
      rfl
    have spelled : (Tree.node l ts).written false =
        Tree.writtenAll (l.raws.semicolon.getD false) ts ++ l.tail [] := by
      rw [Tree.written, Label.around, top, tail]
    have reading := Tree.reading_writtenAll l ts below own.apart own.row []
    have gap : ∀ c ∈ l.tail [], Text.isGap c = true := by
      rw [tail]
      exact own.after (by rw [top]; rfl)
    rw [spelled, Tree.map, top]
    exact parse_of_yields ⟨_, reading, Tree.assembles_marksAll ts below⟩ gap

end NestLint
