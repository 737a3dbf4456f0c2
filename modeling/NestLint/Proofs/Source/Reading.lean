import NestLint.Proofs.Source.Locality

/-!
What a text is read as, without layout and places. A piece leaves a `Mark`: a leaf, the head of a block
or a closing brace. The mark and the rest depend neither on the position nor on the gap before the
piece, and a piece that has been read once is read again wherever its own text stands: a head before
anything, a statement before anything once it has its semicolon, and a statement without one before the
closing brace that it was read before.
-/

namespace NestLint

namespace Source

/-- What a piece contributes to the tree. -/
inductive Mark where
  | leaf (kind : Kind)
  | opened (kind : Kind)
  | closed
deriving DecidableEq, Repr

def Piece.mark : Piece → Mark
  | .comment label => .leaf label.kind
  | .statement label _ => .leaf label.kind
  | .opening label _ _ => .opened label.kind
  | .closing _ _ => .closed

def Step.mark : Step → Option (Mark × Text)
  | .piece found _ rest => some (found.mark, rest)
  | _ => none

def Cut.atMark (name : Text) : Cut → Option (Mark × Text)
  | .flawed _ _ => none
  | .block region rest => some (.opened (.atRule name (splitParams region).2.1 true), rest)
  | .ended region rest => some (.leaf (.atRule name (splitParams region).2.1 false), rest)
  | .unended region rest => some (.leaf (.atRule name (splitParams region).2.1 false), rest)

def declKind? (region : Text) : Option Kind :=
  (readDecl [] .start .start region).toOption.map Label.kind

def Cut.plainMark : Cut → Option (Mark × Text)
  | .flawed _ _ => none
  | .block region rest => some (.opened (.rule (Text.trimEnd region)), rest)
  | .ended region rest => (declKind? region).map fun kind => (.leaf kind, rest)
  | .unended region rest => (declKind? region).map fun kind => (.leaf kind, rest)

theorem takeWhile_name {name behind : Text} (named : ∀ c ∈ name, endsName c = false)
    (ends : ∀ c ∈ behind.head?, endsName c = true) :
    ((name ++ behind).takeWhile fun c => !endsName c) = name ∧
      ((name ++ behind).dropWhile fun c => !endsName c) = behind := by
  have inside : ∀ c ∈ name, (!endsName c) = true := fun c listed => by rw [named c listed]; rfl
  rw [List.takeWhile_append_of_pos inside, List.dropWhile_append_of_pos inside]
  cases behind with
  | nil => simp
  | cons c cs => simp [ends c rfl]

theorem exists_name (text : Text) : ∃ name behind, text = name ++ behind ∧
    (∀ c ∈ name, endsName c = false) ∧ ∀ c ∈ behind.head?, endsName c = true := by
  refine ⟨text.takeWhile fun c => !endsName c, text.dropWhile fun c => !endsName c,
    List.takeWhile_append_dropWhile.symm, ?_, ?_⟩
  · intro c listed
    simpa using List.all_eq_true.mp List.all_takeWhile c listed
  · intro c first
    have ends := List.head?_dropWhile_not (fun c => !endsName c) text
    rw [Option.mem_def.mp first] at ends
    simpa using ends

theorem mark_readAtRule (before : Text) (start : Position) (text : Text) :
    (readAtRule before start text).mark =
      (cut (text.dropWhile fun c => !endsName c)).atMark (text.takeWhile fun c => !endsName c) := by
  unfold readAtRule
  cases cut (text.dropWhile fun c => !endsName c) <;> rfl

theorem declKind?_eq (before : Text) (start stop : Position) (region : Text) :
    declKind? region = (readDecl before start stop region).toOption.map Label.kind := by
  unfold declKind? readDecl
  cases region.dropWhile (· != ':') with
  | nil => rfl
  | cons colon tail =>
    dsimp only
    split <;> rfl

theorem mark_readPlain (before : Text) (start : Position) (text : Text) :
    (readPlain before start text).mark = (cut text).plainMark := by
  unfold readPlain
  cases cut text with
  | flawed flaw skipped => rfl
  | block region rest => rfl
  | ended region rest =>
    dsimp only
    rw [Cut.plainMark, declKind?_eq before start ((start.past region).advance ';')]
    cases readDecl before start ((start.past region).advance ';') region <;> rfl
  | unended region rest =>
    dsimp only
    rw [Cut.plainMark, declKind?_eq before start (start.past region)]
    cases readDecl before start (start.past region) region <;> rfl

theorem mark_readComment (before before' : Text) (start start' : Position) (text : Text) :
    (readComment before start text).mark = (readComment before' start' text).mark := by
  unfold readComment
  cases closeComment? text <;> rfl

theorem mark_step (pos pos' : Position) {text text' : Text}
    (same : text.dropWhile Text.isGap = text'.dropWhile Text.isGap) :
    (step pos text).mark = (step pos' text').mark := by
  simp only [step, same]
  split
  · rfl
  · rfl
  · rw [mark_readAtRule, mark_readAtRule]
  · split
    · exact mark_readComment _ _ _ _ _
    · rw [mark_readPlain, mark_readPlain]

/-- The text begins with a piece of that mark, and `rest` follows. -/
def Reads (text : Text) (mark : Mark) (rest : Text) : Prop :=
  ∀ pos, (step pos text).mark = some (mark, rest)

theorem reads_gap_append {gap text rest : Text} {mark : Mark} (all : ∀ c ∈ gap, Text.isGap c = true) :
    Reads (gap ++ text) mark rest ↔ Reads text mark rest := by
  have same : (gap ++ text).dropWhile Text.isGap = text.dropWhile Text.isGap :=
    List.dropWhile_append_of_pos all
  constructor
  · intro reads pos
    rw [← mark_step pos pos same, reads]
  · intro reads pos
    rw [mark_step pos pos same, reads]

theorem reads_closed {after : Text} (gap : ∀ c ∈ after, Text.isGap c = true) (rest : Text) :
    Reads (after ++ '}' :: rest) .closed rest := (reads_gap_append gap).mpr fun _ => rfl

theorem reads_comment {inner : Text} {text rest : Text} (closed : closeComment? text = some (inner, rest))
    (rest' : Text) :
    Reads ('/' :: '*' :: (inner ++ '*' :: '/' :: rest')) (.leaf (.comment (splitComment inner).2.1))
      rest' := by
  intro pos
  have opens : step pos ('/' :: '*' :: (inner ++ '*' :: '/' :: rest')) =
      readComment [] pos (inner ++ '*' :: '/' :: rest') := rfl
  rw [opens, readComment, closeComment?_local closed rest']
  rfl

theorem reads_atRule {name behind rest : Text} {mark : Mark} (named : ∀ c ∈ name, endsName c = false)
    (ends : ∀ c ∈ behind.head?, endsName c = true) :
    Reads ('@' :: (name ++ behind)) mark rest ↔ (cut behind).atMark name = some (mark, rest) := by
  obtain ⟨isName, isBehind⟩ := takeWhile_name named ends
  have marks : ∀ pos, (step pos ('@' :: (name ++ behind))).mark = (cut behind).atMark name := by
    intro pos
    have opens : step pos ('@' :: (name ++ behind)) = readAtRule [] pos (name ++ behind) := rfl
    rw [opens, mark_readAtRule, isName, isBehind]
  exact ⟨fun reads => (marks .start).symm.trans (reads .start), fun same pos => (marks pos).trans same⟩

def Plainly (text : Text) : Prop :=
  ∃ c cs, text = c :: cs ∧ Text.isGap c = false ∧ c ≠ '}' ∧ c ≠ '@' ∧ ¬ (c = '/' ∧ cs.head? = some '*')

theorem reads_plain {text rest : Text} {mark : Mark} (plainly : Plainly text) :
    Reads text mark rest ↔ (cut text).plainMark = some (mark, rest) := by
  obtain ⟨c, cs, rfl, noGap, noClose, noAt, noComment⟩ := plainly
  have marks : ∀ pos, (step pos (c :: cs)).mark = (cut (c :: cs)).plainMark := by
    intro pos
    have opens : step pos (c :: cs) = readPlain [] (pos.past []) (c :: cs) := by
      simp only [step, List.takeWhile_cons, List.dropWhile_cons, noGap, Bool.false_eq_true, ↓reduceIte]
      exact if_neg noComment
    rw [opens, mark_readPlain]
  exact ⟨fun reads => (marks .start).symm.trans (reads .start), fun same pos => (marks pos).trans same⟩

theorem plainly_local {region rest rest' : Text} (plainly : Plainly (region ++ rest))
    (alone : region = [] → Plainly rest') (star : rest'.head? ≠ some '*') : Plainly (region ++ rest') := by
  cases region with
  | nil => exact alone rfl
  | cons b region =>
    obtain ⟨d, ds, whole, noGap, noClose, noAt, noComment⟩ := plainly
    obtain ⟨rfl, rfl⟩ := List.cons.inj whole
    refine ⟨b, region ++ rest', rfl, noGap, noClose, noAt, ?_⟩
    rintro ⟨rfl, second⟩
    cases region with
    | nil => exact star second
    | cons e region => exact noComment ⟨rfl, second⟩

theorem plainly_brace (rest : Text) : Plainly ('{' :: rest) :=
  ⟨'{', rest, rfl, by decide, by decide, by decide, by simp⟩

theorem endsName_local {region rest rest' : Text} (ends : ∀ c ∈ (region ++ rest).head?, endsName c = true)
    (alone : ∀ c ∈ rest'.head?, endsName c = true) : ∀ c ∈ (region ++ rest').head?, endsName c = true := by
  cases region with
  | nil => exact alone
  | cons b region => exact ends

theorem blank_of_trailing {after tail : Text} (trailing : Trailing (after ++ '}' :: tail))
    (absent : '}' ∉ after) : ∀ c ∈ after, Text.isBlank c = true := by
  obtain ⟨blanks, rest, whole, all, rfl | ⟨tail', rfl⟩⟩ := trailing
  · rw [List.append_nil] at whole
    have brace := all '}' (whole ▸ List.mem_append_right after List.mem_cons_self)
    exact absurd brace (by decide)
  · have absent' : '}' ∉ blanks := fun listed => absurd (all '}' listed) (by decide)
    obtain ⟨rfl, -⟩ := Text.append_cons_inj absent absent' whole
    exact all

end Source

namespace Label

open Source

/-- The head of the block is read as such before any text. -/
def Opens (l : Label) : Prop := ∀ rest, Reads (l.opening ++ rest) (.opened l.kind) rest

def Ends (l : Label) : Prop := ∀ rest, Reads (l.leaf true ++ rest) (.leaf l.kind) rest

def StopsBefore (l : Label) (after : Text) : Prop :=
  ∀ rest, Reads (l.leaf false ++ (after ++ '}' :: rest)) (.leaf l.kind) (after ++ '}' :: rest)

/-- The head of a rule is cut between its selector and the blanks before the brace, and a selector that
opens nothing does not hold what ends a head. -/
def Trimmed (l : Label) : Prop :=
  ∀ selector, l.kind = .rule selector →
    Text.trimEnd selector = selector ∧ (∀ c ∈ l.raws.between.getD [], Text.isBlank c = true) ∧
      '\\' ∉ selector ∧ ((∀ c ∈ selector, isSpecial c = false) → ∀ c ∈ selector, isStop c = false)

end Label

namespace Source

/-- The piece is read again wherever its text stands, given that `rest` follows it where it has been
read. -/
def Piece.Sound (rest : Text) : Piece → Prop
  | .comment l => l.Ends
  | .statement l true => l.Ends
  | .statement l false =>
    Reads (l.leaf false ++ rest) (.leaf l.kind) rest ∧
      ∀ after tail, rest = after ++ '}' :: tail → '}' ∉ after → l.Ends ∧ l.StopsBefore after
  | .opening l _ _ => l.Opens ∧ l.Trimmed
  | .closing _ _ => True

theorem sound_of_unended (lead : Text) {behind region rest : Text} {starts : Text → Prop}
    {mark : Cut → Option (Mark × Text)} {l : Label}
    (reading : ∀ {text m r}, starts text → (Reads (lead ++ text) m r ↔ mark (cut text) = some (m, r)))
    (leaf : ∀ semicolon, l.leaf semicolon = lead ++ (region ++ Sheet.ending semicolon))
    (ended : ∀ r, mark (.ended region r) = some (.leaf l.kind, r))
    (unended : ∀ r, mark (.unended region r) = some (.leaf l.kind, r))
    (escape : '\\' ∉ behind) (found : cut behind = .unended region rest) (start : starts behind)
    (semicolon : ∀ r, starts (region ++ ';' :: r))
    (brace : ∀ after tail r, rest = after ++ '}' :: tail → (∀ c ∈ after, Text.isBlank c = true) →
      starts (region ++ (after ++ '}' :: r))) :
    (Piece.statement l false).Sound rest := by
  have trailing := cut_trailing found
  refine ⟨?_, ?_⟩
  · have reads := (reading start).mpr ((congrArg mark found).trans (unended rest))
    rw [cut_unended found] at reads
    simpa [leaf, Sheet.ending] using reads
  · rintro after tail rfl absent
    have blank := blank_of_trailing trailing absent
    have moved := cut_unended_local found escape blank
    refine ⟨fun r => ?_, fun r => ?_⟩
    · have reads := (reading (semicolon r)).mpr ((congrArg mark (moved r).1).trans (ended r))
      simpa [leaf, Sheet.ending] using reads
    · have reads := (reading (brace after tail r rfl blank)).mpr
        ((congrArg mark (moved r).2).trans (unended _))
      simpa [leaf, Sheet.ending] using reads

theorem readComment_sound {before : Text} {start stop : Position} {text rest : Text} {piece : Piece}
    (read : readComment before start text = .piece piece stop rest) : piece.Sound rest := by
  simp only [readComment] at read
  split at read
  · simp at read
  next inner tail closed =>
    simp only [Step.piece.injEq] at read
    obtain ⟨rfl, -, rfl⟩ := read
    intro rest'
    have parts := splitComment_append inner
    have reads := reads_comment closed rest'
    simp only [List.append_assoc] at parts
    simp only [Label.leaf, Option.getD_some, List.cons_append, List.append_assoc, List.nil_append]
    rw [← List.append_assoc (splitComment inner).2.1, ← List.append_assoc (splitComment inner).1, parts]
    exact reads

theorem leaf_atRuleLabel (before name region : Text) (source : Option Span) (semicolon : Bool) :
    ({ atRuleLabel before name region false with source := source } : Label).leaf semicolon =
      '@' :: (name ++ (region ++ Sheet.ending semicolon)) := by
  have parts := splitParams_append region
  simp only [List.append_assoc] at parts
  simp only [Label.leaf, Label.head, atRuleLabel, Option.getD_some, List.cons_append, List.append_assoc]
  rw [← List.append_assoc (splitParams region).2.1, ← List.append_assoc (splitParams region).1, parts]

@[simp] theorem kind_atRuleLabel (before name region : Text) (hasBlock : Bool) :
    (atRuleLabel before name region hasBlock).kind = .atRule name (splitParams region).2.1 hasBlock := rfl

theorem readAtRule_sound {before : Text} {start stop : Position} {text rest : Text} {piece : Piece}
    (escape : '\\' ∉ text) (read : readAtRule before start text = .piece piece stop rest) :
    piece.Sound rest := by
  obtain ⟨name, behind, rfl, named, ends⟩ := exists_name text
  obtain ⟨isName, isBehind⟩ := takeWhile_name named ends
  simp only [readAtRule, isName, isBehind] at read
  have escapeBehind : '\\' ∉ behind := fun listed => escape (List.mem_append_right name listed)
  split at read
  · simp at read
  next region tail found =>
    simp only [Step.piece.injEq] at read
    obtain ⟨rfl, -, rfl⟩ := read
    rw [cut_block found] at ends
    refine ⟨fun rest' => ?_, fun selector rule => by cases rule⟩
    have brace : ∀ c ∈ ('{' :: rest').head?, endsName c = true := by simp [endsName]
    have reads := (reads_atRule named (endsName_local ends brace)).mpr
      (congrArg (Cut.atMark name) (cut_block_local found rest'))
    rw [Label.opening, atRuleLabel_spelled]
    simpa using reads
  next region tail found =>
    simp only [Step.piece.injEq] at read
    obtain ⟨rfl, -, rfl⟩ := read
    rw [cut_ended found] at ends
    intro rest'
    have semicolon : ∀ c ∈ (';' :: rest').head?, endsName c = true := by simp [endsName]
    have reads := (reads_atRule named (endsName_local ends semicolon)).mpr
      (congrArg (Cut.atMark name) (cut_ended_local found rest'))
    rw [leaf_atRuleLabel]
    simpa [Sheet.ending] using reads
  next region tail found =>
    simp only [Step.piece.injEq] at read
    obtain ⟨rfl, -, rfl⟩ := read
    refine sound_of_unended ('@' :: name) (fun start => reads_atRule named start) (fun semicolon => ?_)
      (fun _ => rfl) (fun _ => rfl) escapeBehind found ends (fun r => ?_) fun after tail r same _ => ?_
    · rw [leaf_atRuleLabel]
      rfl
    · rw [cut_unended found] at ends
      exact endsName_local ends (by simp [endsName])
    · rw [cut_unended found, same, ← List.append_assoc] at ends
      rw [← List.append_assoc]
      exact endsName_local ends (by simp [endsName])

theorem plainMark_of_readDecl {before : Text} {start stop : Position} {region : Text} {l : Label}
    (declared : readDecl before start stop region = .ok l) (rest : Text) :
    (Cut.ended region rest).plainMark = some (.leaf l.kind, rest) ∧
      (Cut.unended region rest).plainMark = some (.leaf l.kind, rest) := by
  simp [Cut.plainMark, declKind?_eq before start stop, declared, Except.toOption]

theorem readPlain_sound {before : Text} {start stop : Position} {text rest : Text} {piece : Piece}
    (plainly : Plainly text) (escape : '\\' ∉ text)
    (read : readPlain before start text = .piece piece stop rest) : piece.Sound rest := by
  simp only [readPlain] at read
  split at read
  · simp at read
  next region tail found =>
    simp only [Step.piece.injEq] at read
    obtain ⟨rfl, -, rfl⟩ := read
    rw [cut_block found] at plainly
    refine ⟨fun rest' => ?_, ?_⟩
    · have reads := (reads_plain (plainly_local plainly (fun _ => plainly_brace rest') (by simp))).mpr
        (congrArg Cut.plainMark (cut_block_local found rest'))
      simp only [Label.opening, Label.head, Option.getD_some, Text.splitEnd_append]
      simpa [Text.trimEnd] using reads
    · rintro selector ⟨⟩
      have blank := Text.of_mem_splitEnd Text.isBlank region
      have inside : ∀ c ∈ Text.trimEnd region, c ∈ text := by
        intro c listed
        rw [cut_block found]
        exact List.mem_append_left _ ((Text.isPrefix_trimEnd region).subset listed)
      refine ⟨Text.trimEnd_trimEnd region, blank, fun listed => escape (inside _ listed),
        fun plain c listed => ?_⟩
      have whole : ∀ c ∈ region, isSpecial c = false := by
        intro c listed
        rw [← Text.splitEnd_append Text.isBlank region, List.mem_append] at listed
        exact listed.elim (plain c) fun behind => not_isSpecial_of_isBlank (blank c behind)
      exact not_isStop_of_scan (cut_eq_block_iff.mp found) whole c
        ((Text.isPrefix_trimEnd region).subset listed)
  next region tail found =>
    split at read
    next label declared =>
      simp only [Step.piece.injEq] at read
      obtain ⟨rfl, -, rfl⟩ := read
      rw [cut_ended found] at plainly
      have some := readDecl_ne_nil declared
      intro rest'
      have reads := (reads_plain (plainly_local plainly (fun none => absurd none some) (by simp))).mpr
        ((congrArg Cut.plainMark (cut_ended_local found rest')).trans
          (plainMark_of_readDecl declared rest').1)
      rw [(readDecl_spelled true declared).2.2]
      simpa [Sheet.ending] using reads
    next => simp at read
  next region tail found =>
    split at read
    next label declared =>
      simp only [Step.piece.injEq] at read
      obtain ⟨rfl, -, rfl⟩ := read
      have full := readDecl_ne_nil declared
      have still : ∀ {r : Text}, r.head? ≠ some '*' → Plainly (region ++ r) := by
        rw [cut_unended found] at plainly
        exact fun star => plainly_local plainly (fun none => absurd none full) star
      refine sound_of_unended [] reads_plain (fun semicolon => (readDecl_spelled semicolon declared).2.2)
        (fun r => (plainMark_of_readDecl declared r).1) (fun r => (plainMark_of_readDecl declared r).2)
        escape found plainly (fun r => still (by simp)) fun after tail r _ blank => still ?_
      cases after with
      | nil => simp
      | cons c after =>
        have seen := ne_of_isBlank (blank c List.mem_cons_self) (d := '*') (by decide)
        simpa using seen
    next => simp at read

theorem step_sound {pos stop : Position} {text rest : Text} {piece : Piece} (escape : '\\' ∉ text)
    (read : step pos text = .piece piece stop rest) : piece.Sound rest := by
  have escapeBody : '\\' ∉ text.dropWhile Text.isGap :=
    fun listed => escape ((List.dropWhile_suffix Text.isGap).subset listed)
  have noGap := List.head?_dropWhile_not Text.isGap text
  simp only [step] at read
  generalize text.dropWhile Text.isGap = body at read escapeBody noGap
  split at read
  · simp at read
  next tail =>
    simp only [Step.piece.injEq] at read
    obtain ⟨rfl, -, rfl⟩ := read
    trivial
  next tail => exact readAtRule_sound (fun listed => escapeBody (List.mem_cons_of_mem _ listed)) read
  next c cs noClose noAt =>
    split at read
    next => exact readComment_sound read
    next noComment =>
      have plainly : Plainly (c :: cs) :=
        ⟨c, cs, rfl, noGap, fun close => noClose (by rw [close]), fun sign => noAt (by rw [sign]), noComment⟩
      exact readPlain_sound plainly escapeBody read

def Piece.before : Piece → Text
  | .comment label => label.before
  | .statement label _ => label.before
  | .opening label _ _ => label.before
  | .closing after _ => after

theorem before_of_step {pos stop : Position} {text rest : Text} {piece : Piece}
    (read : step pos text = .piece piece stop rest) : piece.before = text.takeWhile Text.isGap := by
  simp only [step] at read
  split at read
  · simp at read
  · simp only [Step.piece.injEq] at read
    obtain ⟨rfl, -, rfl⟩ := read
    rfl
  · simp only [readAtRule] at read
    split at read <;> simp only [Step.piece.injEq, reduceCtorEq] at read <;>
      · obtain ⟨rfl, -, -⟩ := read
        rfl
  · split at read
    · simp only [readComment] at read
      split at read <;> simp only [Step.piece.injEq, reduceCtorEq] at read
      obtain ⟨rfl, -, -⟩ := read
      rfl
    · simp only [readPlain] at read
      split at read
      · simp at read
      · simp only [Step.piece.injEq] at read
        obtain ⟨rfl, -, -⟩ := read
        rfl
      all_goals
        split at read <;> simp only [Step.piece.injEq, reduceCtorEq] at read
        next declared =>
          obtain ⟨rfl, -, -⟩ := read
          exact (readDecl_spelled true declared).2.1

end Source

end NestLint
