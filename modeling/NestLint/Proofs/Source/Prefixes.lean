import NestLint.Proofs.Source.Reading
import NestLint.Proofs.Source.Spans

/-!
What has been read of a text does not depend on what follows. A piece is read in the same way before any
other text, except that a statement without a semicolon also wants the same blanks and then the closing
brace or the end behind it. The open blocks that a row of pieces leaves take up further pieces no matter
where those come from.
-/

namespace NestLint

namespace Source

section step

variable {gap : Text} (all : ∀ c ∈ gap, Text.isGap c = true) (pos : Position)

include all

theorem step_append (body : Text) (visible : ∀ c ∈ body.head?, Text.isGap c = false) :
    (gap ++ body).takeWhile Text.isGap = gap ∧ (gap ++ body).dropWhile Text.isGap = body := by
  rw [List.takeWhile_append_of_pos all, List.dropWhile_append_of_pos all]
  cases body with
  | nil => simp
  | cons c body =>
    have shown := visible c rfl
    simp [shown]

theorem step_gap : step pos gap = .done gap (pos.past gap) := by
  obtain ⟨taken, dropped⟩ := step_append all [] (by simp)
  rw [List.append_nil] at taken dropped
  simp only [step, taken, dropped]

theorem step_close (rest : Text) : step pos (gap ++ '}' :: rest) =
    .piece (.closing gap (pos.past gap)) ((pos.past gap).advance '}') rest := by
  obtain ⟨taken, dropped⟩ := step_append all ('}' :: rest) (by simp [Text.isGap])
  simp only [step, taken, dropped]

theorem step_atRule (rest : Text) :
    step pos (gap ++ '@' :: rest) = readAtRule gap (pos.past gap) rest := by
  obtain ⟨taken, dropped⟩ := step_append all ('@' :: rest) (by simp [Text.isGap])
  simp only [step, taken, dropped]

theorem step_comment (rest : Text) :
    step pos (gap ++ '/' :: '*' :: rest) = readComment gap (pos.past gap) rest := by
  obtain ⟨taken, dropped⟩ := step_append all ('/' :: '*' :: rest) (by simp [Text.isGap])
  simp only [step, taken, dropped]
  rfl

theorem step_plain {body : Text} (plainly : Plainly body) :
    step pos (gap ++ body) = readPlain gap (pos.past gap) body := by
  obtain ⟨c, cs, rfl, noGap, noClose, noAt, noComment⟩ := plainly
  obtain ⟨taken, dropped⟩ := step_append all (c :: cs) (by simpa using noGap)
  simp only [step, taken, dropped]
  exact if_neg noComment

end step

theorem step_rule {region : Text} (alone : cut (region ++ ['{']) = .block region []) {body : Text}
    (plainly : Plainly (region ++ '{' :: body)) (pos : Position) :
    step pos (region ++ '{' :: body) = .piece (.opening
      { kind := .rule (Text.splitEnd Text.isBlank region).1
        raws := { before := some [], between := some (Text.splitEnd Text.isBlank region).2 } } pos (pos.past region))
      ((pos.past region).advance '{') body := by
  have none : ∀ c ∈ ([] : Text), Text.isGap c = true := by simp
  have read := step_plain none pos plainly
  rw [List.nil_append] at read
  rw [read, readPlain, cut_block_local alone body]
  rfl

/-- The ways in which a text can begin behind its gap. -/
inductive Front : Text → Prop where
  | finished : Front []
  | close (rest : Text) : Front ('}' :: rest)
  | atRule (rest : Text) : Front ('@' :: rest)
  | comment (rest : Text) : Front ('/' :: '*' :: rest)
  | plain {body : Text} (plainly : Plainly body) : Front body

theorem exists_front (text : Text) :
    ∃ gap body, text = gap ++ body ∧ (∀ c ∈ gap, Text.isGap c = true) ∧ Front body := by
  refine ⟨text.takeWhile Text.isGap, text.dropWhile Text.isGap, List.takeWhile_append_dropWhile.symm,
    List.all_eq_true.mp List.all_takeWhile, ?_⟩
  have noGap := List.head?_dropWhile_not Text.isGap text
  cases body : text.dropWhile Text.isGap with
  | nil => exact .finished
  | cons c cs =>
    have visible : Text.isGap c = false := by simpa [body] using noGap
    by_cases close : c = '}'
    · exact close ▸ .close cs
    by_cases sign : c = '@'
    · exact sign ▸ .atRule cs
    by_cases comment : c = '/' ∧ cs.head? = some '*'
    · obtain ⟨rfl, star⟩ := comment
      obtain ⟨rest, rfl⟩ := List.head?_eq_some_iff.mp star
      exact .comment rest
    · exact .plain ⟨c, cs, rfl, visible, close, sign, comment⟩

/-- The same blanks stand in front, and then a closing brace; or, in the second text, nothing more. -/
def SameEnd (rest rest' : Text) : Prop :=
  ∃ blanks tail tail' : Text, rest = blanks ++ '}' :: tail ∧ rest' = blanks ++ tail' ∧
    (∀ c ∈ blanks, Text.isBlank c = true) ∧ (tail' = [] ∨ ∃ more, tail' = '}' :: more)

theorem cut_unended_sameEnd {text region rest rest' : Text} (found : cut text = .unended region rest)
    (same : SameEnd rest rest') : cut (region ++ rest') = .unended region rest' := by
  obtain ⟨blanks, tail, tail', rfl, rfl, blank, ends⟩ := same
  have source := cut_unended found
  obtain ⟨stopped, trimmed⟩ := (cut_eq_unended_iff blank).mp found
  rw [source, ← List.append_assoc] at stopped
  have stops : ∀ d ∈ tail'.head?, isStop d = true := by
    rcases ends with rfl | ⟨more, rfl⟩ <;> simp [isStop]
  have still := scan_local stopped stops
  rw [← List.append_assoc, cut, still]
  rcases ends with rfl | ⟨more, rfl⟩ <;>
    simp [Text.splitEnd_append_of_all trimmed blank]

def Cut.atStep (before : Text) (start : Position) (name : Text) : Cut → Step
  | .flawed flaw skipped => .failed (flaw.error ((start.past ('@' :: name)).past skipped))
  | .block region rest =>
    let brace := (start.past ('@' :: name)).past region
    .piece (.opening (atRuleLabel before name region true) start brace) (brace.advance '{') rest
  | .ended region rest =>
    let stop := ((start.past ('@' :: name)).past region).advance ';'
    .piece (.statement { atRuleLabel before name region false with source := some ⟨start, stop⟩ } true) stop rest
  | .unended region rest =>
    let stop := (start.past ('@' :: name)).past region
    .piece (.statement { atRuleLabel before name region false with source := some ⟨start, stop⟩ } false) stop rest

theorem readAtRule_eq (before : Text) (start : Position) {name behind : Text}
    (named : ∀ c ∈ name, endsName c = false) (ends : ∀ c ∈ behind.head?, endsName c = true) :
    readAtRule before start (name ++ behind) = (cut behind).atStep before start name := by
  obtain ⟨isName, isBehind⟩ := takeWhile_name named ends
  simp only [readAtRule, isName, isBehind]
  cases cut behind <;> rfl

section local'

variable {pos start stop : Position} {before text rest rest' : Text} {piece : Piece}

/-- A reader has taken its text off the front, and takes it off any other text too. -/
def Taken (read : Text → Step) (piece : Piece) (stop : Position) (text rest rest' : Text) : Prop :=
  ∃ consumed, text = consumed ++ rest ∧ read (consumed ++ rest') = .piece piece stop rest'

theorem readComment_local (read : readComment before start text = .piece piece stop rest) :
    Taken (readComment before start) piece stop text rest rest' := by
  simp only [readComment] at read
  split at read
  · simp at read
  next inner tail closed =>
    simp only [Step.piece.injEq] at read
    obtain ⟨rfl, rfl, rfl⟩ := read
    refine ⟨inner ++ ['*', '/'], by simp [closeComment?_eq closed], ?_⟩
    rw [List.append_assoc, readComment]
    simp only [List.cons_append, List.nil_append, closeComment?_local closed rest']

theorem readAtRule_local (read : readAtRule before start text = .piece piece stop rest)
    (ends : ∀ label, piece = .statement label false → SameEnd rest rest') :
    Taken (readAtRule before start) piece stop text rest rest' := by
  obtain ⟨name, behind, rfl, named, ended⟩ := exists_name text
  rw [readAtRule_eq before start named ended] at read
  cases found : cut behind with
  | flawed flaw skipped => simp [found, Cut.atStep] at read
  | block region tail =>
    simp only [found, Cut.atStep, Step.piece.injEq] at read
    obtain ⟨rfl, rfl, rfl⟩ := read
    rw [cut_block found] at ended
    refine ⟨name ++ (region ++ ['{']), by simp [cut_block found], ?_⟩
    simp only [List.append_assoc, List.cons_append, List.nil_append]
    rw [readAtRule_eq before start named (endsName_local ended (by simp [endsName])),
      cut_block_local found rest']
    rfl
  | ended region tail =>
    simp only [found, Cut.atStep, Step.piece.injEq] at read
    obtain ⟨rfl, rfl, rfl⟩ := read
    rw [cut_ended found] at ended
    refine ⟨name ++ (region ++ [';']), by simp [cut_ended found], ?_⟩
    simp only [List.append_assoc, List.cons_append, List.nil_append]
    rw [readAtRule_eq before start named (endsName_local ended (by simp [endsName])),
      cut_ended_local found rest']
    rfl
  | unended region tail =>
    simp only [found, Cut.atStep, Step.piece.injEq] at read
    obtain ⟨rfl, rfl, rfl⟩ := read
    have same := ends _ rfl
    have still : ∀ c ∈ (region ++ rest').head?, endsName c = true := by
      rw [cut_unended found] at ended
      obtain ⟨blanks, tail', tail'', rfl, rfl, -, rfl | ⟨more, rfl⟩⟩ := same
      · rw [← List.append_assoc] at ended ⊢
        exact endsName_local ended (by simp)
      · rw [← List.append_assoc] at ended ⊢
        exact endsName_local ended (by simp [endsName])
    refine ⟨name ++ region, by simp [cut_unended found], ?_⟩
    rw [List.append_assoc, readAtRule_eq before start named still, cut_unended_sameEnd found same]
    rfl

theorem readPlain_local (plainly : Plainly text)
    (read : readPlain before start text = .piece piece stop rest)
    (ends : ∀ label, piece = .statement label false → SameEnd rest rest') :
    ∃ consumed, text = consumed ++ rest ∧ Plainly (consumed ++ rest') ∧
      readPlain before start (consumed ++ rest') = .piece piece stop rest' := by
  simp only [readPlain] at read
  split at read
  · simp at read
  next region tail found =>
    simp only [Step.piece.injEq] at read
    obtain ⟨rfl, rfl, rfl⟩ := read
    rw [cut_block found] at plainly
    refine ⟨region ++ ['{'], by simp [cut_block found], ?_, ?_⟩
    · rw [List.append_assoc]
      exact plainly_local plainly (fun _ => plainly_brace rest') (by simp)
    · simp only [readPlain, List.append_assoc, List.cons_append, List.nil_append, cut_block_local found rest']
  next region tail found =>
    split at read
    next label declared =>
      simp only [Step.piece.injEq] at read
      obtain ⟨rfl, rfl, rfl⟩ := read
      rw [cut_ended found] at plainly
      have full := readDecl_ne_nil declared
      refine ⟨region ++ [';'], by simp [cut_ended found], ?_, ?_⟩
      · rw [List.append_assoc]
        exact plainly_local plainly (fun none => absurd none full) (by simp)
      · simp only [readPlain, List.append_assoc, List.cons_append, List.nil_append,
          cut_ended_local found rest', declared]
    next => simp at read
  next region tail found =>
    split at read
    next label declared =>
      simp only [Step.piece.injEq] at read
      obtain ⟨rfl, rfl, rfl⟩ := read
      have same := ends _ rfl
      rw [cut_unended found] at plainly
      have full := readDecl_ne_nil declared
      refine ⟨region, cut_unended found, plainly_local plainly (fun none => absurd none full) ?_, ?_⟩
      · obtain ⟨blanks, tail', tail'', rfl, rfl, blank, close⟩ := same
        cases blanks with
        | nil => rcases close with rfl | ⟨more, rfl⟩ <;> simp
        | cons c blanks =>
          have seen := ne_of_isBlank (blank c List.mem_cons_self) (d := '*') (by decide)
          simpa using seen
      · simp only [readPlain, cut_unended_sameEnd found same, declared]
    next => simp at read

theorem step_local (read : step pos text = .piece piece stop rest)
    (ends : ∀ label, piece = .statement label false → SameEnd rest rest') :
    step pos (piece.spelled ++ rest') = .piece piece stop rest' := by
  obtain ⟨gap, body, rfl, all, front⟩ := exists_front text
  obtain ⟨-, spelled⟩ := step_accounts read
  -- What the reader has taken off, with the gap before it, is the text of the piece.
  have taken : ∀ consumed : Text, body = consumed ++ rest → piece.spelled = gap ++ consumed := by
    rintro consumed rfl
    rw [← List.append_assoc] at spelled
    exact List.append_cancel_right spelled
  cases front with
  | finished =>
    rw [List.append_nil, step_gap all] at read
    cases read
  | close tail =>
    rw [step_close all] at read
    simp only [Step.piece.injEq] at read
    obtain ⟨rfl, rfl, rfl⟩ := read
    rw [Piece.spelled, List.append_assoc]
    exact step_close all pos rest'
  | atRule tail =>
    rw [step_atRule all] at read
    obtain ⟨consumed, rfl, again⟩ := readAtRule_local read ends
    rw [taken ('@' :: consumed) rfl, List.append_assoc, List.cons_append, step_atRule all, again]
  | comment tail =>
    rw [step_comment all] at read
    obtain ⟨consumed, rfl, again⟩ : Taken (readComment gap (pos.past gap)) piece stop tail rest rest' :=
      readComment_local read
    rw [taken ('/' :: '*' :: consumed) rfl, List.append_assoc, List.cons_append,
      List.cons_append, step_comment all, again]
  | plain plainly =>
    rw [step_plain all pos plainly] at read
    obtain ⟨consumed, rfl, still, again⟩ := readPlain_local plainly read ends
    rw [taken consumed rfl, List.append_assoc, step_plain all pos still, again]

end local'

section pieces

variable {pos stop : Position} {text rest : Text}

theorem step_of_pieces {piece : Piece} {row : List Piece} (isRow : (pieces pos text).1 = piece :: row) :
    ∃ stop rest, step pos text = .piece piece stop rest ∧ (pieces stop rest).1 = row ∧
      (pieces stop rest).2 = (pieces pos text).2 := by
  cases read : step pos text with
  | piece other stop rest =>
    rw [pieces_of_piece read] at isRow ⊢
    obtain ⟨rfl, rfl⟩ := List.cons.inj isRow
    exact ⟨stop, rest, rfl, rfl, rfl⟩
  | done after stop =>
    rw [pieces_of_done read] at isRow
    cases isRow
  | failed error =>
    rw [pieces_of_failed read] at isRow
    cases isRow

theorem close_not_mem_of_step {after : Text} {brace : Position}
    (read : step pos text = .piece (.closing after brace) stop rest) : '}' ∉ after := by
  have isGap : after = text.takeWhile Text.isGap := before_of_step read
  rw [isGap]
  exact fun listed => absurd (List.all_eq_true.mp List.all_takeWhile '}' listed) (by decide)

theorem pieces_local {first later : List Piece} (row : (pieces pos text).1 = first ++ later) :
    ∃ rest, text = spelledRow first ++ rest ∧
      pieces (pos.past (spelledRow first)) rest = (later, (pieces pos text).2) ∧
      ∀ rest', (∀ label, first.getLast? = some (.statement label false) → SameEnd rest rest') →
        pieces pos (spelledRow first ++ rest') =
          (first ++ (pieces (pos.past (spelledRow first)) rest').1,
            (pieces (pos.past (spelledRow first)) rest').2) := by
  induction first generalizing pos text with
  | nil => exact ⟨text, rfl, Prod.ext row rfl, fun rest' _ => rfl⟩
  | cons piece first ih =>
    obtain ⟨stop, tail, read, isRow, isEnding⟩ := step_of_pieces row
    obtain ⟨-, rfl⟩ := step_at read
    obtain ⟨-, spelled⟩ := step_accounts read
    obtain ⟨rest, isTail, behind, again⟩ := ih isRow
    have grows : pos.past (spelledRow (piece :: first)) = (pos.past piece.spelled).past (spelledRow first) :=
      Position.past_append pos piece.spelled (spelledRow first)
    refine ⟨rest, ?_, ?_, fun rest' ends => ?_⟩
    · rw [← spelled, isTail]
      exact (List.append_assoc _ _ _).symm
    · rw [grows, behind, isEnding]
    have still : step pos (piece.spelled ++ (spelledRow first ++ rest')) =
        .piece piece (pos.past piece.spelled) (spelledRow first ++ rest') := by
      apply step_local read
      rintro label rfl
      cases first with
      | nil => exact isTail ▸ ends label rfl
      | cons next first =>
        -- A closing brace comes next, in both texts behind the same blanks.
        have trailing := step_trailing read
        obtain ⟨_, _, nextRead, -, -⟩ := step_of_pieces isRow
        obtain ⟨after, brace, rfl⟩ := step_of_trailing trailing nextRead
        have isSpelled : ∀ r, spelledRow (.closing after brace :: first) ++ r =
            after ++ '}' :: (spelledRow first ++ r) := by
          intro r
          simp [spelledRow, Piece.spelled]
        rw [isTail, isSpelled] at trailing
        rw [isTail, isSpelled, isSpelled]
        exact ⟨after, _, _, rfl, rfl, blank_of_trailing trailing (close_not_mem_of_step nextRead),
          Or.inr ⟨_, rfl⟩⟩
    have isText : spelledRow (piece :: first) ++ rest' = piece.spelled ++ (spelledRow first ++ rest') :=
      List.append_assoc _ _ _
    rw [isText, pieces_of_piece still, grows, again rest']
    · rfl
    · intro label isLast
      apply ends label
      cases first with
      | nil => cases isLast
      | cons next first => exact isLast

end pieces

def build : List Frame → Block → List Piece → Except ParseError (List Frame × Block)
  | frames, block, [] => .ok (frames, block)
  | frames, block, .comment label :: row => build frames (block.addComment label) row
  | frames, block, .statement label terminated :: row => build frames (block.addStatement label terminated) row
  | frames, block, .opening head start brace :: row => build (⟨head, start, brace, block⟩ :: frames) {} row
  | [], _, .closing _ brace :: _ => .error (.unexpectedClose brace)
  | frame :: frames, block, .closing after brace :: row =>
    build frames (frame.outer.addBlock (block.close frame.head after ⟨frame.start, brace.advance '}'⟩)) row

section build

variable {ending : Ending} {frames : List Frame} {block : Block} {first row : List Piece}

theorem assemble_eq_build : assemble ending frames block row =
    (build frames block row).bind fun state => assemble ending state.1 state.2 [] := by
  induction row generalizing frames block with
  | nil => rfl
  | cons piece row ih =>
    cases piece with
    | comment label => rw [assemble, ih, build]
    | statement label terminated => rw [assemble, ih, build]
    | opening head start brace => rw [assemble, ih, build]
    | closing after brace =>
      cases frames with
      | nil =>
        rw [assemble]
        rfl
      | cons frame frames => rw [assemble, ih, build]

theorem build_error {error : ParseError} (wrong : build frames block row = .error error) :
    ∃ first after brace later last, row = first ++ .closing after brace :: later ∧
      error = .unexpectedClose brace ∧ build frames block first = .ok ([], last) := by
  induction row generalizing frames block with
  | nil => cases wrong
  | cons piece row ih =>
    -- A piece that does not fail only stands in front.
    have further : ∀ {frames' block'}, (∀ r, build frames block (piece :: r) = build frames' block' r) →
        build frames' block' row = .error error →
        ∃ first after brace later last, piece :: row = first ++ .closing after brace :: later ∧
          error = .unexpectedClose brace ∧ build frames block first = .ok ([], last) := by
      intro frames' block' passes wrong
      obtain ⟨first, after, brace, later, last, rfl, isError, built⟩ := ih wrong
      exact ⟨piece :: first, after, brace, later, last, rfl, isError, (passes first).trans built⟩
    cases piece with
    | comment label => exact further (fun _ => rfl) wrong
    | statement label terminated => exact further (fun _ => rfl) wrong
    | opening head start brace => exact further (fun _ => rfl) wrong
    | closing after brace =>
      cases frames with
      | nil => exact ⟨[], after, brace, row, block, rfl, (Except.error.inj wrong).symm, rfl⟩
      | cons frame frames => exact further (fun _ => rfl) wrong

end build

section parse

variable {text : Text}

theorem parse_eq_ok_iff {t : Tree Label} : parse text = .ok t ↔
    ∃ row after stop block, pieces .start text = (row, .done after stop) ∧
      build [] {} row = .ok ([], block) ∧ t = block.close { kind := .root } after ⟨.start, stop⟩ := by
  have whole : parse text = assemble (pieces .start text).2 [] {} (pieces .start text).1 := rfl
  rw [whole, assemble_eq_build]
  constructor
  · intro parsed
    cases built : build [] {} (pieces .start text).1 with
    | error error => rw [built] at parsed; cases parsed
    | ok state =>
      obtain ⟨frames, block⟩ := state
      rw [built] at parsed
      cases ended : (pieces .start text).2 with
      | failed error => rw [ended] at parsed; cases frames <;> cases parsed
      | done after stop =>
        rw [ended] at parsed
        cases frames with
        | cons frame frames => cases parsed
        | nil => exact ⟨_, after, stop, block, Prod.ext rfl ended, built, (Except.ok.inj parsed).symm⟩
  · rintro ⟨row, after, stop, block, read, built, rfl⟩
    rw [read, built]
    rfl

/-- What a text is refused for: the error of its last step, the innermost block that is still open at its
end, or a brace that closes nothing. -/
theorem parse_error {error : ParseError} (wrong : parse text = .error error) :
    (pieces .start text).2 = .failed error ∨
    (∃ frame frames block, build [] {} (pieces .start text).1 = .ok (frame :: frames, block) ∧
      error = .unclosedBlock frame.brace) ∨
    ∃ first after brace later last, (pieces .start text).1 = first ++ .closing after brace :: later ∧
      error = .unexpectedClose brace ∧ build [] {} first = .ok ([], last) := by
  have whole : parse text = assemble (pieces .start text).2 [] {} (pieces .start text).1 := rfl
  rw [whole, assemble_eq_build] at wrong
  cases built : build [] {} (pieces .start text).1 with
  | error error' =>
    rw [built] at wrong
    obtain rfl := Except.error.inj wrong
    exact Or.inr (Or.inr (build_error built))
  | ok state =>
    obtain ⟨frames, block⟩ := state
    rw [built] at wrong
    cases ended : (pieces .start text).2 with
    | failed error' =>
      rw [ended] at wrong
      cases frames <;> exact Or.inl (congrArg Ending.failed (Except.error.inj wrong))
    | done after stop =>
      rw [ended] at wrong
      cases frames with
      | nil => cases wrong
      | cons frame frames => exact Or.inr (Or.inl ⟨frame, frames, block, rfl, (Except.error.inj wrong).symm⟩)

end parse

end Source

end NestLint
