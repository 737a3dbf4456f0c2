import NestLint.Proofs.Source.Prefixes
import NestLint.Proofs.Text.Slice

/-!
Where a refused text is wrong. Every error stands at a character of the text that is its cause: a comment or
a quote is open there and never closed, a brace is open there at the end, a brace there closes nothing, or
a statement there is no declaration. All that stands before a brace that closes nothing is a stylesheet by
itself, so such a brace never hides an earlier error.
-/

namespace NestLint

namespace Source

open Position

theorem closeComment?_eq_none {text : Text} (never : closeComment? text = none) :
    ¬ ['*', '/'] <:+: text := by
  fun_induction closeComment? text with
  | case1 => simp
  | case2 => cases never
  | case3 c cs other ih =>
    rw [Option.map_eq_none_iff] at never
    rw [List.infix_cons_iff, not_or]
    refine ⟨?_, ih never⟩
    rintro ⟨tail, same⟩
    obtain ⟨rfl, rfl⟩ := List.cons.inj same
    exact other tail rfl rfl

theorem closeQuote?_eq_none {quote : Char} (noEscape : quote ≠ '\\') {text : Text}
    (never : closeQuote? quote text = none) {inner after : Text} (same : text = inner ++ quote :: after) :
    Text.backslashes inner % 2 = 1 := by
  fun_induction closeQuote? quote text generalizing inner with
  | case1 => simp at same
  | case2 =>
    cases inner with
    | nil => exact absurd (List.cons.inj same).1.symm noEscape
    | cons c inner => simp at same
  | case3 d ds ih =>
    rw [Option.map_eq_none_iff] at never
    cases inner with
    | nil => exact absurd (List.cons.inj same).1.symm noEscape
    | cons c inner =>
      obtain ⟨rfl, same⟩ := List.cons.inj same
      cases inner with
      | nil => rfl
      | cons e inner =>
        rw [Text.backslashes_escape]
        exact ih never (List.cons.inj (List.cons.inj same).2).2
  | case4 => cases never
  | case5 c cs plain other ih =>
    rw [Option.map_eq_none_iff] at never
    cases inner with
    | nil => exact absurd (List.cons.inj same).1 other
    | cons e inner =>
      obtain ⟨rfl, rfl⟩ := List.cons.inj same
      rw [Text.backslashes_cons plain]
      exact ih never rfl

def Spoilt (text : Text) : Flaw → Prop
  | .comment => ∃ tail, text = '/' :: '*' :: tail ∧ ¬ ['*', '/'] <:+: tail
  | .quote => ∃ quote tail, (quote = '"' ∨ quote = '\'') ∧ text = quote :: tail ∧
      ∀ inner after, tail = inner ++ quote :: after → Text.backslashes inner % 2 = 1

theorem spoilt_of_lexeme {text : Text} {flaw : Flaw} (found : lexeme text = .flawed flaw) :
    Spoilt text flaw := by
  cases text with
  | nil => cases found
  | cons c cs =>
    simp only [lexeme] at found
    split at found
    · cases found
    next noEscape =>
      split at found
      next isQuote =>
        split at found
        · cases found
        next never =>
          obtain rfl := Lexeme.flawed.inj found
          exact ⟨c, cs, isQuote, rfl, fun inner after same => closeQuote?_eq_none noEscape never same⟩
      next =>
        split at found
        next opens =>
          split at found
          · cases found
          next never =>
            obtain rfl := Lexeme.flawed.inj found
            obtain ⟨rfl, star⟩ := opens
            obtain ⟨tail, rfl⟩ := List.head?_eq_some_iff.mp star
            exact ⟨tail, rfl, closeComment?_eq_none never⟩
        next => cases found

theorem spoilt_of_scan {depth : Depth} {text before : Text} {flaw : Flaw}
    (found : scan depth text = .flawed flaw before) : ∃ rest, text = before ++ rest ∧ Spoilt rest flaw := by
  fun_induction scan depth text generalizing before with
  | case1 => cases found
  | case2 depth text flaw' flawed =>
    obtain ⟨rfl, rfl⟩ := Scan.flawed.inj found
    exact ⟨text, rfl, spoilt_of_lexeme flawed⟩
  | case3 => cases found
  | case4 depth text unit tail taken _ _ ih =>
    cases deeper : scan (depth.past unit) tail with
    | stopped => rw [deeper] at found; cases found
    | flawed flaw' before' =>
      rw [deeper] at found
      obtain ⟨rfl, rfl⟩ := Scan.flawed.inj found
      obtain ⟨rest, rfl, spoilt⟩ := ih deeper
      exact ⟨rest, by rw [(lexeme_eq taken).1, List.append_assoc], spoilt⟩

theorem spoilt_of_cut {text before : Text} {flaw : Flaw} (found : cut text = .flawed flaw before) :
    ∃ rest, text = before ++ rest ∧ Spoilt rest flaw := by
  unfold cut at found
  split at found
  next flawed =>
    obtain ⟨rfl, rfl⟩ := Cut.flawed.inj found
    exact spoilt_of_scan flawed
  all_goals cases found

/-- The text is no declaration: up to where it stops it holds no colon, or only blanks come before the
colon. The place, given where the text begins, is its beginning or that of the colon. -/
def Undeclared (start : Position) (text : Text) (p : Position) : Prop :=
  (p = start ∧ ∃ region rest, scan {} text = .stopped region rest ∧ ':' ∉ region ∧
    ∀ c ∈ rest.head?, c = ';' ∨ c = '}') ∨
  ∃ blanks rest, text = blanks ++ ':' :: rest ∧ (∀ c ∈ blanks, Text.isBlank c = true) ∧ p = start.past blanks

/-- The error stands in the text that begins at `pos`: behind a part of it stands what is spoilt, or a plain
statement that is no declaration. -/
def Fault (pos : Position) (text : Text) : ParseError → Prop
  | .unclosedComment p => ∃ front rest, text = front ++ rest ∧ p = pos.past front ∧ Spoilt rest .comment
  | .unclosedString p => ∃ front rest, text = front ++ rest ∧ p = pos.past front ∧ Spoilt rest .quote
  | .unknownWord _ p => ∃ gap body, text = gap ++ body ∧ (∀ c ∈ gap, Text.isGap c = true) ∧ Plainly body ∧
      Undeclared (pos.past gap) body p
  | .unclosedBlock _ | .unexpectedClose _ => False

section fault

variable {pos start : Position} {before text : Text} {error : ParseError}

theorem fault_of_spoilt {front rest : Text} (flaw : Flaw) (same : text = front ++ rest)
    (spoilt : Spoilt rest flaw) : Fault pos text (flaw.error (pos.past front)) := by
  cases flaw with
  | comment => exact ⟨front, rest, same, rfl, spoilt⟩
  | quote => exact ⟨front, rest, same, rfl, spoilt⟩

theorem of_readDecl_error {stop : Position} {region : Text}
    (refused : readDecl before start stop region = .error error) :
    ∃ word p, error = .unknownWord word p ∧ ((p = start ∧ ':' ∉ region) ∨
      ∃ blanks rest, region = blanks ++ ':' :: rest ∧ (∀ c ∈ blanks, Text.isBlank c = true) ∧
        p = start.past blanks) := by
  have halves : region.takeWhile (· != ':') ++ region.dropWhile (· != ':') = region :=
    List.takeWhile_append_dropWhile
  have absent : ':' ∉ region.takeWhile (· != ':') := fun listed =>
    absurd (List.all_eq_true.mp List.all_takeWhile ':' listed) (by decide)
  have first := List.head?_dropWhile_not (· != ':') region
  simp only [readDecl] at refused
  split at refused
  next nothing =>
    rw [nothing, List.append_nil] at halves
    exact ⟨_, _, (Except.error.inj refused).symm, Or.inl ⟨rfl, halves ▸ absent⟩⟩
  next colon tail found =>
    obtain rfl : colon = ':' := by simpa [found] using first
    split at refused
    next none =>
      refine ⟨_, _, (Except.error.inj refused).symm, Or.inr ⟨_, tail, ?_, ?_, rfl⟩⟩
      · rw [← found, halves]
      · have parts := Text.splitEnd_append Text.isBlank (region.takeWhile (· != ':'))
        rw [List.isEmpty_iff.mp none, List.nil_append] at parts
        rw [← parts]
        exact Text.of_mem_splitEnd Text.isBlank _
    next => cases refused

theorem readComment_fault (refused : readComment before (pos.past before) text = .failed error) :
    Fault pos (before ++ '/' :: '*' :: text) error := by
  simp only [readComment] at refused
  split at refused
  next never =>
    obtain rfl := Step.failed.inj refused
    exact fault_of_spoilt .comment rfl ⟨text, rfl, closeComment?_eq_none never⟩
  next => cases refused

theorem readAtRule_fault (refused : readAtRule before (pos.past before) text = .failed error) :
    Fault pos (before ++ '@' :: text) error := by
  obtain ⟨name, behind, rfl, named, ends⟩ := exists_name text
  rw [readAtRule_eq before _ named ends] at refused
  cases found : cut behind with
  | flawed flaw skipped =>
    rw [found] at refused
    obtain rfl := Step.failed.inj refused
    obtain ⟨rest, rfl, spoilt⟩ := spoilt_of_cut found
    rw [← past_append, ← past_append]
    exact fault_of_spoilt flaw (by simp) spoilt
  | block => rw [found] at refused; cases refused
  | ended => rw [found] at refused; cases refused
  | unended => rw [found] at refused; cases refused

theorem scan_of_readDecl_error {region rest : Text}
    (stops : cut text = .ended region rest ∨ cut text = .unended region rest) :
    ∃ whole tail, scan {} text = .stopped whole tail ∧ region <+: whole ∧
      (':' ∉ region → ':' ∉ whole) ∧ ∀ c ∈ tail.head?, c = ';' ∨ c = '}' := by
  rcases stops with found | found
  · exact ⟨region, _, cut_eq_ended_iff.mp found, List.prefix_rfl, id, by simp⟩
  · unfold cut at found
    split at found <;> simp only [Cut.unended.injEq, reduceCtorEq] at found
    next whole tail noBrace noSemicolon stopped =>
      obtain ⟨rfl, -⟩ := found
      have parts := Text.splitEnd_append Text.isBlank whole
      refine ⟨whole, tail, stopped, ⟨_, parts⟩, ?_, ?_⟩
      · intro absent listed
        rw [← parts, List.mem_append] at listed
        rcases listed with inside | blank
        · exact absent inside
        · exact absurd (Text.of_mem_splitEnd Text.isBlank whole ':' blank) (by decide)
      · rcases scan_stop stopped with rfl | ⟨c, later, rfl, rfl | rfl | rfl⟩
        · simp
        · exact absurd rfl (noBrace later)
        · exact absurd rfl (noSemicolon later)
        · simp

theorem undeclared_of_readDecl {stop : Position} {region rest : Text}
    (stops : cut text = .ended region rest ∨ cut text = .unended region rest)
    (refused : readDecl before start stop region = .error error) :
    ∃ word p, error = .unknownWord word p ∧ Undeclared start text p := by
  obtain ⟨whole, tail, stopped, ⟨behind, rfl⟩, free, ends⟩ := scan_of_readDecl_error stops
  obtain ⟨word, p, rfl, ⟨isStart, absent⟩ | ⟨blanks, inner, rfl, blank, isPlace⟩⟩ := of_readDecl_error refused
  · exact ⟨word, p, rfl, Or.inl ⟨isStart, _, tail, stopped, free absent, ends⟩⟩
  · refine ⟨word, p, rfl, Or.inr ⟨blanks, inner ++ (behind ++ tail), ?_, blank, isPlace⟩⟩
    rw [scan_eq stopped]
    simp only [List.append_assoc, List.cons_append]

theorem readPlain_fault (all : ∀ c ∈ before, Text.isGap c = true) (plainly : Plainly text)
    (refused : readPlain before (pos.past before) text = .failed error) : Fault pos (before ++ text) error := by
  have undeclared : ∀ {stop region rest},
      cut text = .ended region rest ∨ cut text = .unended region rest →
      readDecl before (pos.past before) stop region = .error error → Fault pos (before ++ text) error := by
    intro stop region rest stops refused
    obtain ⟨word, p, rfl, wrong⟩ := undeclared_of_readDecl stops refused
    exact ⟨before, text, rfl, all, plainly, wrong⟩
  cases found : cut text with
  | flawed flaw skipped =>
    simp only [readPlain, found, Step.failed.injEq] at refused
    subst refused
    obtain ⟨rest, rfl, spoilt⟩ := spoilt_of_cut found
    rw [← past_append]
    exact fault_of_spoilt flaw (by rw [List.append_assoc]) spoilt
  | block region rest =>
    simp only [readPlain, found] at refused
    cases refused
  | ended region rest =>
    simp only [readPlain, found] at refused
    split at refused
    next => cases refused
    next declined =>
      obtain rfl := Step.failed.inj refused
      exact undeclared (Or.inl found) declined
  | unended region rest =>
    simp only [readPlain, found] at refused
    split at refused
    next => cases refused
    next declined =>
      obtain rfl := Step.failed.inj refused
      exact undeclared (Or.inr found) declined

theorem step_fault (refused : step pos text = .failed error) : Fault pos text error := by
  obtain ⟨gap, body, rfl, all, front⟩ := exists_front text
  cases front with
  | finished =>
    rw [List.append_nil, step_gap all] at refused
    cases refused
  | close tail =>
    rw [step_close all] at refused
    cases refused
  | atRule tail =>
    rw [step_atRule all] at refused
    exact readAtRule_fault refused
  | comment tail =>
    rw [step_comment all] at refused
    exact readComment_fault refused
  | plain plainly =>
    rw [step_plain all pos plainly] at refused
    exact readPlain_fault all plainly refused

end fault

theorem step_opening {pos start brace stop : Position} {text rest : Text} {head : Label}
    (read : step pos text = .piece (.opening head start brace) stop rest) :
    ∃ inside, text = inside ++ '{' :: rest ∧ brace = pos.past inside := by
  obtain ⟨gap, body, rfl, all, front⟩ := exists_front text
  cases front with
  | finished =>
    rw [List.append_nil, step_gap all] at read
    cases read
  | close tail =>
    rw [step_close all] at read
    cases read
  | comment tail =>
    rw [step_comment all, readComment] at read
    split at read <;> cases read
  | atRule tail =>
    obtain ⟨name, behind, rfl, named, ends⟩ := exists_name tail
    rw [step_atRule all, readAtRule_eq gap _ named ends] at read
    cases found : cut behind with
    | block region rest' =>
      rw [found] at read
      cases read
      refine ⟨gap ++ '@' :: name ++ region, ?_, ?_⟩
      · rw [cut_block found]
        simp
      · rw [past_append, past_append]
    | flawed flaw skipped => rw [found] at read; cases read
    | ended region rest' => rw [found] at read; cases read
    | unended region rest' => rw [found] at read; cases read
  | plain plainly =>
    rw [step_plain all pos plainly] at read
    simp only [readPlain] at read
    split at read
    next => cases read
    next region rest' found =>
      cases read
      exact ⟨gap ++ region, by rw [cut_block found, List.append_assoc], (past_append pos gap region).symm⟩
    next => split at read <;> cases read
    next => split at read <;> cases read

theorem frame_of_build {frames opened : List Frame} {block last : Block} {row : List Piece} {frame : Frame}
    (built : build frames block row = .ok (opened, last)) (isOpen : frame ∈ opened) :
    frame ∈ frames ∨ .opening frame.head frame.start frame.brace ∈ row := by
  induction row generalizing frames block with
  | nil =>
    cases built
    exact Or.inl isOpen
  | cons piece row ih =>
    cases piece with
    | comment label => exact (ih built).imp_right (List.mem_cons_of_mem _)
    | statement label terminated => exact (ih built).imp_right (List.mem_cons_of_mem _)
    | opening head start brace =>
      rcases ih built with listed | listed
      · rcases List.mem_cons.mp listed with rfl | before
        · exact Or.inr List.mem_cons_self
        · exact Or.inl before
      · exact Or.inr (List.mem_cons_of_mem _ listed)
    | closing after brace =>
      cases frames with
      | nil => cases built
      | cons outer frames =>
        exact (ih built).imp (List.mem_cons_of_mem _) (List.mem_cons_of_mem _)

section blame

variable {text : Text} {error : ParseError}

theorem trailing_of_row {first later : List Piece} {label : Label} {rest : Text}
    (row : (pieces .start text).1 = first ++ later) (isText : text = spelledRow first ++ rest)
    (unended : first.getLast? = some (.statement label false)) : Trailing rest := by
  obtain ⟨init, rfl⟩ := List.getLast?_eq_some_iff.mp unended
  rw [List.append_assoc] at row
  obtain ⟨behind, whole, later, -⟩ := pieces_local row
  obtain ⟨stop, rest', read, -, -⟩ := step_of_pieces (congrArg Prod.fst later)
  obtain ⟨-, spelled⟩ := step_accounts read
  have same : rest' = rest := by
    have whole' : spelledRow (init ++ [.statement label false]) ++ rest' =
        spelledRow (init ++ [.statement label false]) ++ rest := by
      rw [← isText, whole, ← spelled]
      simp [spelledRow]
    exact List.append_cancel_left whole'
  exact same ▸ step_trailing read

theorem pieces_front {first later : List Piece} {after : Text} {brace : Position}
    (row : (pieces .start text).1 = first ++ .closing after brace :: later) :
    ∃ rest stop, text = spelledRow first ++ after ++ '}' :: rest ∧
      brace = Position.start.past (spelledRow first ++ after) ∧
      pieces .start (spelledRow first ++ after) = (first, .done after stop) := by
  obtain ⟨behind, whole, later, again⟩ := pieces_local row
  obtain ⟨stop, rest, read, -, -⟩ := step_of_pieces (congrArg Prod.fst later)
  obtain ⟨-, spelled⟩ := step_accounts read
  obtain ⟨isBrace, -⟩ := step_at read
  have isBehind : behind = after ++ '}' :: rest := by
    rw [← spelled, Piece.spelled, List.append_assoc]
    rfl
  have gap : ∀ c ∈ after, Text.isGap c = true := by
    have same : after = behind.takeWhile Text.isGap := before_of_step read
    rw [same]
    exact List.all_eq_true.mp List.all_takeWhile
  refine ⟨rest, (Position.start.past (spelledRow first)).past after, ?_, ?_, ?_⟩
  · rw [whole, isBehind, List.append_assoc]
  · rw [past_append]
    exact isBrace
  · rw [again after, pieces_of_done (step_gap gap _), List.append_nil]
    intro label unended
    have trailing := trailing_of_row row whole unended
    rw [isBehind] at trailing
    exact ⟨after, rest, [], isBehind, (List.append_nil after).symm,
      blank_of_trailing trailing (close_not_mem_of_step read), Or.inl rfl⟩

/-- A statement that is neither an at-rule nor a comment begins behind the text in front: that consists of
pieces and a gap. -/
def Begins (front body : Text) : Prop :=
  ∃ row gap later, (pieces .start (front ++ body)).1 = row ++ later ∧ front = spelledRow row ++ gap ∧
    (∀ c ∈ gap, Text.isGap c = true) ∧ Plainly body

/-- The text up to `front` is right, and what follows is to blame for the error. -/
def Blames (front rest : Text) : ParseError → Prop
  | .unclosedBlock _ => ∃ tail, rest = '{' :: tail
  | .unclosedComment _ => Spoilt rest .comment
  | .unclosedString _ => Spoilt rest .quote
  | .unexpectedClose _ => (∃ tail, rest = '}' :: tail) ∧ ∃ s, Sheet.parse (String.ofList front) = .ok s
  | .unknownWord _ _ =>
    (Begins front rest ∧ ∃ region tail, scan {} rest = .stopped region tail ∧ ':' ∉ region ∧
      ∀ c ∈ tail.head?, c = ';' ∨ c = '}') ∨
    (∃ tail, rest = ':' :: tail) ∧ ∃ earlier blanks, front = earlier ++ blanks ∧
      Begins earlier (blanks ++ rest) ∧ ∀ c ∈ blanks, Text.isBlank c = true

theorem step_of_failed {pos : Position} (failed : pieces pos text = ([], .failed error)) :
    step pos text = .failed error := by
  cases read : step pos text with
  | piece piece stop rest => rw [pieces_of_piece read] at failed; cases failed
  | done after stop => rw [pieces_of_done read] at failed; cases failed
  | failed other =>
    rw [pieces_of_failed read] at failed
    cases failed
    rfl

theorem blames_of_failed (failed : (pieces .start text).2 = .failed error) :
    ∃ front rest, text = front ++ rest ∧ rest ≠ [] ∧ error.position = Position.start.past front ∧
      Blames front rest error := by
  obtain ⟨behind, whole, isLater, -⟩ := pieces_local (List.append_nil (pieces .start text).1).symm
  have fault := step_fault (step_of_failed (isLater.trans (congrArg (Prod.mk []) failed)))
  generalize isRow : (pieces .start text).1 = row at whole fault
  cases error with
  | unclosedBlock p => exact fault.elim
  | unexpectedClose p => exact fault.elim
  | unclosedComment p =>
    obtain ⟨front, rest, rfl, rfl, spoilt⟩ := fault
    have isText : text = spelledRow row ++ front ++ rest := by rw [whole, List.append_assoc]
    refine ⟨_, rest, isText, ?_, (past_append _ _ _).symm, spoilt⟩
    obtain ⟨tail, rfl, -⟩ := spoilt
    simp
  | unclosedString p =>
    obtain ⟨front, rest, rfl, rfl, spoilt⟩ := fault
    have isText : text = spelledRow row ++ front ++ rest := by rw [whole, List.append_assoc]
    refine ⟨_, rest, isText, ?_, (past_append _ _ _).symm, spoilt⟩
    obtain ⟨quote, tail, -, rfl, -⟩ := spoilt
    simp
  | unknownWord word p =>
    obtain ⟨gap, body, rfl, all, plainly, wrong⟩ := fault
    have isText : text = spelledRow row ++ gap ++ body := by rw [whole, List.append_assoc]
    have begins : Begins (spelledRow row ++ gap) body :=
      ⟨row, gap, [], by rw [← isText, isRow, List.append_nil], rfl, all, plainly⟩
    have isPlace : Position.start.past (spelledRow row ++ gap) = (Position.start.past (spelledRow row)).past gap :=
      past_append _ _ _
    rcases wrong with ⟨rfl, region, tail, stopped, absent, ends⟩ | ⟨blanks, rest, rfl, blank, rfl⟩
    · refine ⟨_, body, isText, ?_, isPlace.symm, Or.inl ⟨begins, region, tail, stopped, absent, ends⟩⟩
      obtain ⟨c, cs, rfl, -⟩ := plainly
      simp
    · refine ⟨spelledRow row ++ gap ++ blanks, ':' :: rest, ?_, by simp, ?_,
        Or.inr ⟨⟨rest, rfl⟩, _, blanks, rfl, begins, blank⟩⟩
      · rw [whole]
        simp only [List.append_assoc]
      · rw [past_append, isPlace]
        rfl

theorem blames_of_parse (refused : parse text = .error error) :
    ∃ front rest, text = front ++ rest ∧ rest ≠ [] ∧ error.position = Position.start.past front ∧
      Blames front rest error := by
  rcases parse_error refused with failed | ⟨frame, frames, block, built, rfl⟩ |
    ⟨first, after, brace, later, last, row, rfl, built⟩
  · exact blames_of_failed failed
  · have listed := (frame_of_build built List.mem_cons_self).resolve_left (by simp)
    obtain ⟨first, later, row⟩ := List.append_of_mem listed
    obtain ⟨behind, whole, isLater, -⟩ := pieces_local row
    obtain ⟨stop, rest, read, -, -⟩ := step_of_pieces (congrArg Prod.fst isLater)
    obtain ⟨inside, isBehind, isBrace⟩ := step_opening read
    refine ⟨spelledRow first ++ inside, '{' :: rest, ?_, by simp, ?_, rest, rfl⟩
    · rw [whole, isBehind, List.append_assoc]
    · rw [past_append]
      exact isBrace
  · obtain ⟨rest, stop, whole, isBrace, read⟩ := pieces_front row
    have accepted := parse_eq_ok_iff.mpr ⟨first, after, stop, last, read, built, rfl⟩
    rw [← String.toList_ofList (l := spelledRow first ++ after)] at accepted
    exact ⟨_, '}' :: rest, whole, by simp, isBrace, ⟨rest, rfl⟩, _, Sheet.parse_of_tree accepted⟩

theorem kept_of_error (refused : parse text = .error error) (short : Text.byteSize text < 0x100000000) :
    error.moved .kept = error := by
  obtain ⟨front, rest, rfl, more, isPlace, -⟩ := blames_of_parse refused
  have positive : 0 < Text.byteSize rest := Text.byteSize_pos more
  rw [Text.byteSize_append] at short
  have same : error.position.kept = error.position := by
    rw [isPlace, Position.kept_past (by omega)]
  cases error
  all_goals exact congrArg _ same

end blame

end Source

/-- The error of a refused stylesheet stands inside the text, at the line and the column of its offset, and
what begins there is its cause. -/
theorem Sheet.cause_of_parse {source : String} {error : ParseError}
    (refused : Sheet.parse source = .error error) (short : Text.byteSize source.toList < 0x100000000) :
    error.position.offset < Text.byteSize source.toList ∧ error.position.Marks source.toList ∧
      ∃ front rest, source.toList = front ++ rest ∧ Text.byteSize front = error.position.offset ∧
        Source.Blames front rest error := by
  obtain ⟨e, wrong, rfl⟩ := exists_error_of_parse refused
  rw [Source.kept_of_error wrong short]
  obtain ⟨front, rest, whole, more, isPlace, blames⟩ := Source.blames_of_parse wrong
  have isOffset : Text.byteSize front = e.position.offset := by
    rw [isPlace, Position.offset_past, Position.start, Nat.zero_add]
  refine ⟨?_, ?_, front, rest, whole, isOffset, blames⟩
  · have positive : 0 < Text.byteSize rest := Text.byteSize_pos more
    rw [whole, Text.byteSize_append, ← isOffset]
    omega
  · rw [isPlace, whole]
    exact Position.marks_past front rest

/-- A brace too many behind a block and a line break; the quote that is never closed stands further on. -/
theorem Sheet.cause_of_parse_stray_brace :
    ∃ error, Sheet.parse "a\x7bé:'\\''\x7d\n\x7d '" = .error error ∧ error.reason = "Unexpected \x7d" ∧
      error.position = ⟨11, 2, 1⟩ ∧ error.position.offset < Text.byteSize "a\x7bé:'\\''\x7d\n\x7d '".toList ∧
      error.position.Marks "a\x7bé:'\\''\x7d\n\x7d '".toList ∧
      ∃ front rest, "a\x7bé:'\\''\x7d\n\x7d '".toList = front ++ rest ∧
        Text.byteSize front = error.position.offset ∧ Source.Blames front rest error := by
  have wrong : (Sheet.parse "a\x7bé:'\\''\x7d\n\x7d '").map (fun _ => ()) = .error (.unexpectedClose ⟨11, 2, 1⟩) := by
    decide +kernel
  cases refused : Sheet.parse "a\x7bé:'\\''\x7d\n\x7d '" with
  | ok s =>
    rw [refused] at wrong
    cases wrong
  | error error =>
    rw [refused] at wrong
    obtain rfl := Except.error.inj wrong
    exact ⟨_, rfl, rfl, rfl, cause_of_parse refused (by decide +kernel)⟩

end NestLint
