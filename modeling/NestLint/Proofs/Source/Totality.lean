import NestLint.Proofs.Source.Blame
import NestLint.Proofs.Source.Turns

/-!
Every turn takes the next piece off the text, so the loops over the bodies come to an end, and what they build is
the tree of the row of pieces. That the cursor stands at the beginning of a character is kept by every turn,
whatever an escape has jumped into in between.
-/

namespace NestLint

namespace Source

namespace Bytewise

open Text Position

section body

def treeFrom (frames : List Frame) (block : Block) (pos : Position) (rest : Text) : Except ParseError (Tree Label) :=
  assemble (pieces pos rest).2 frames block (pieces pos rest).1

variable {frames : List Frame} {block : Block} {pos stop : Position} {rest rest' : Text}

theorem treeFrom_piece {piece : Piece} (read : step pos rest = .piece piece stop rest') :
    treeFrom frames block pos rest = assemble (pieces stop rest').2 frames block (piece :: (pieces stop rest').1) := by
  rw [treeFrom, pieces_of_piece read]

theorem treeFrom_failed {error : ParseError} (read : step pos rest = .failed error) :
    treeFrom frames block pos rest = .error error := by
  rw [treeFrom, pieces_of_failed read]
  cases frames <;> rfl

theorem treeFrom_done {after : Text} (read : step pos rest = .done after stop) :
    treeFrom frames block pos rest = match frames with
      | [] => .ok (block.close { kind := .root } after ⟨.start, stop⟩)
      | frame :: _ => .error (.unclosedBlock frame.brace) := by
  rw [treeFrom, pieces_of_done read]
  cases frames <;> rfl

def Passed (text : Text) (size : Nat) (tree : Except ParseError (Tree Label)) : List Frame → Block × Text × Nat → Prop
  | [], (block, after, stop) =>
    stop = byteSize text ∧ tree = .ok (block.close { kind := .root } after ⟨.start, start.past text⟩)
  | frame :: frames, (block, after, stop) =>
    ∃ front rest, text = front ++ rest ∧ stop = byteSize front ∧ rest.length < size ∧
      tree = treeFrom frames (frame.outer.addBlock (block.close frame.head after ⟨frame.start, start.past front⟩))
        (start.past front) rest

/-- The reading of a body comes to an end, with the error or the block that the tree asks for. -/
def Builds (text : Text) (size : Nat) (tree : Except ParseError (Tree Label)) (frames : List Frame)
    (attempt : Attempt (Block × Text × Nat)) : Prop :=
  ∃ outcome, attempt.run = some outcome ∧ match outcome with
    | .error error => tree = .error error
    | .ok result => Passed text size tree frames result

theorem Passed.longer {text : Text} {size size' : Nat} {tree : Except ParseError (Tree Label)}
    {result : Block × Text × Nat} (passed : Passed text size tree frames result) (less : size ≤ size') :
    Passed text size' tree frames result := by
  obtain ⟨block, after, stop⟩ := result
  cases frames with
  | nil => exact passed
  | cons frame frames =>
    obtain ⟨front, rest, isText, isStop, short, isTree⟩ := passed
    exact ⟨front, rest, isText, isStop, Nat.lt_of_lt_of_le short less, isTree⟩

theorem Builds.longer {text : Text} {size size' : Nat} {tree : Except ParseError (Tree Label)}
    {attempt : Attempt (Block × Text × Nat)} (builds : Builds text size tree frames attempt) (less : size ≤ size') :
    Builds text size' tree frames attempt := by
  obtain ⟨outcome, run, agrees⟩ := builds
  refine ⟨outcome, run, ?_⟩
  cases outcome with
  | error error => exact agrees
  | ok result => exact Passed.longer agrees less

theorem Builds.outside {text before : Text} {size : Nat} {tree : Except ParseError (Tree Label)} {head : Label}
    {begins brace : Position} {attempt : Attempt (Block × Text × Nat)}
    {next : Nat → Block → Attempt (Block × Text × Nat)}
    (isStart : begins = start.past before) (starts : before <+: text)
    (inner : Builds text size tree (⟨head, begins, brace, block⟩ :: frames) attempt)
    (further : ∀ behind rest grown, text = behind ++ rest → rest.length < size →
      Builds text rest.length (treeFrom frames grown (start.past behind) rest) frames (next (byteSize behind) grown)) :
    Builds text size tree frames (do
      let (inner, after, stop) ← attempt
      let span ← span? text begins.offset stop
      next stop (block.addBlock (inner.close head after span))) := by
  obtain ⟨outcome, run, agrees⟩ := inner
  cases outcome with
  | error error => exact ⟨.error error, run_bind_error run _, agrees⟩
  | ok result =>
    obtain ⟨inner, after, stop⟩ := result
    obtain ⟨behind, rest, isText, rfl, short, goesOn⟩ := agrees
    have span := span?_fronts starts ⟨rest, isText.symm⟩
    obtain ⟨outcome, run', agrees⟩ := (further behind rest
      (block.addBlock (inner.close head after ⟨begins, start.past behind⟩)) isText short).longer (Nat.le_of_lt short)
    rw [goesOn]
    refine ⟨outcome, ?_, agrees⟩
    rw [run_bind_ok run, isStart, offset_place, ← run']
    simp only [span, lift_some, pure_bind, isStart]

theorem opening_places {front : Text} {head : Label} {begins brace : Position}
    (read : step (start.past front) rest = .piece (.opening head begins brace) stop rest') :
    ∃ inside, front ++ rest = front ++ inside ++ '{' :: rest' ∧ brace = start.past (front ++ inside) ∧
      stop = start.past (front ++ inside ++ ['{']) ∧
      begins = start.past (front ++ head.before) ∧ front ++ head.before <+: front ++ rest := by
  obtain ⟨inside, rfl, isBrace⟩ := step_opening read
  obtain ⟨here, isStop⟩ := step_at read
  obtain ⟨-, spelled⟩ := step_accounts read
  have consumed : Piece.spelled (.opening head begins brace) = inside ++ ['{'] :=
    List.append_cancel_right (spelled.trans (List.append_cons inside '{' rest'))
  refine ⟨inside, (List.append_assoc _ _ _).symm, ?_, ?_, ?_, ?_⟩
  · rw [isBrace, past_append]
  · rw [isStop, consumed, List.append_assoc, past_append _ front]
  · rw [past_append]
    exact here
  · rw [← spelled, Piece.spelled, List.append_assoc, ← List.append_assoc front]
    exact List.prefix_append _ _

/-- The loop over a body, entered at the beginning of a character, builds the tree of the text. Each turn takes
something off the text that is left, so one turn more than it has characters is enough. -/
theorem body_builds {text : Text} {turns : Nat} (frames : List Frame) (block : Block) (front rest : Text)
    (isText : text = front ++ rest) (enough : rest.length < turns)
    (known : ∀ frame ∈ frames, positionAt? text frame.brace.offset = some frame.brace) :
    Builds text rest.length (treeFrom frames block (start.past front) rest) frames
      (body text turns (frames.head?.map fun frame => frame.brace.offset) (byteSize front) block) := by
  obtain ⟨turns, rfl⟩ := Nat.exists_eq_add_one_of_ne_zero (Nat.ne_zero_of_lt enough)
  have isTurn : turn text (frames.head?.map fun frame => frame.brace.offset) (byteSize front) =
      atStep (frames.head?.map Frame.brace) (step (start.past front) rest) := by
    have found : ∀ p ∈ frames.head?.map Frame.brace, positionAt? (front ++ rest) p.offset = some p := by
      intro p isBrace
      obtain ⟨frame, first, rfl⟩ := Option.map_eq_some_iff.mp isBrace
      exact isText ▸ known frame (List.mem_of_mem_head? first)
    rw [← turn_eq _ front rest found, Option.map_map, ← isText]
    rfl
  rw [body, isTurn]
  cases read : step (start.past front) rest with
  | failed error => exact ⟨.error error, rfl, treeFrom_failed read⟩
  | done after stop =>
    rw [treeFrom_done read]
    cases frames with
    | cons frame frames => exact ⟨.error (.unclosedBlock frame.brace), rfl, rfl⟩
    | nil =>
      have isStop := (pieces_placed (start.past front) rest after stop (by rw [pieces_of_done read])).2
      rw [isStop, ← past_append, ← isText]
      exact ⟨.ok (block, after, _), rfl, offset_place text, rfl⟩
  | piece piece stop rest' =>
    obtain ⟨here, isStop⟩ := step_at read
    obtain ⟨-, spelled⟩ := step_accounts read
    have shorter := length_lt_of_step read
    have enough' : rest'.length < turns := by omega
    rw [← past_append] at isStop
    have isText' : text = front ++ piece.spelled ++ rest' := by rw [isText, ← spelled, List.append_assoc]
    rw [treeFrom_piece read]
    cases piece with
    | comment label =>
      have builds := body_builds frames (block.addComment label) _ rest' isText' enough' known
      rw [assemble, isStop]
      simp only [atStep, pure_bind, offset_place]
      exact builds.longer (Nat.le_of_lt shorter)
    | statement label terminated =>
      have builds := body_builds frames (block.addStatement label terminated) _ rest' isText' enough' known
      rw [assemble, isStop]
      simp only [atStep, pure_bind, offset_place]
      exact builds.longer (Nat.le_of_lt shorter)
    | opening head begins brace =>
      obtain ⟨inside, whole, isBrace, isBody, isStart, starts⟩ := opening_places read
      rw [← isText] at whole starts
      have known' : ∀ frame ∈ ⟨head, begins, brace, block⟩ :: frames,
          positionAt? text frame.brace.offset = some frame.brace := by
        intro frame listed
        rcases List.mem_cons.mp listed with rfl | listed
        · rw [whole, isBrace, offset_place]
          exact positionAt?_front _ _
        · exact known frame listed
      have cursor : byteSize (front ++ inside ++ ['{']) = brace.offset + 1 := by
        rw [isBrace, offset_place, byteSize_concat]
        rfl
      have inner := body_builds (⟨head, begins, brace, block⟩ :: frames) {} (front ++ inside ++ ['{']) rest'
        (by rw [whole, List.append_cons]) enough' known'
      rw [cursor] at inner
      rw [assemble, isBody]
      simp only [atStep, pure_bind]
      refine (Builds.outside isStart starts inner ?_).longer (Nat.le_of_lt shorter)
      intro behind rest'' grown isBehind short
      exact body_builds frames grown behind rest'' isBehind (Nat.lt_trans short enough') known
    | closing after brace =>
      cases frames with
      | nil => exact ⟨.error (.unexpectedClose brace), rfl, by rw [assemble]⟩
      | cons frame frames =>
        have isBrace : brace.advance '}' = start.past (front ++ (after ++ ['}'])) := by
          rw [here, past_append, past_append]
          rfl
        rw [assemble, isBrace, isStop]
        exact ⟨.ok (block, after, _), rfl, front ++ (after ++ ['}']), rest', isText', offset_place _, shorter, rfl⟩
termination_by rest.length

theorem parse_eq {text : Text} {turns : Nat} (enough : text.length < turns) :
    (parse turns text).run = some (Source.parse text) := by
  have same : Source.parse text = treeFrom [] {} .start text := rfl
  obtain ⟨outcome, run, agrees⟩ := body_builds [] {} [] text rfl enough (by simp)
  cases outcome with
  | error error =>
    rw [same]
    exact (run_bind_error run _).trans (congrArg some agrees.symm)
  | ok result =>
    obtain ⟨block, after, stop⟩ := result
    obtain ⟨-, isTree⟩ := agrees
    have span : span? text 0 (bytes text).length = some ⟨.start, start.past text⟩ := by
      rw [length_bytes]
      exact span?_fronts List.nil_prefix (List.prefix_refl text)
    rw [same]
    refine (run_bind_ok run _).trans (Eq.trans ?_ (congrArg some isTree.symm))
    simp only [span]
    rfl

end body

section progress

def Boundary (text : Text) (i : Nat) : Prop := ∃ front, front <+: text ∧ i = byteSize front

def Turn.Advances (text : Text) (i : Nat) : Turn → Prop
  | .returned _ stop => i ≤ stop ∧ Boundary text stop
  | .comment _ stop => i < stop ∧ Boundary text stop
  | .statement _ _ stop => i < stop ∧ Boundary text stop
  | .block _ _ brace => i ≤ brace ∧ byte? text brace = some (ascii '{') ∧ Boundary text (brace + 1)

theorem boundary_front (front rest : Text) : Boundary (front ++ rest) (byteSize front) :=
  ⟨front, List.prefix_append front rest, rfl⟩

theorem boundary_le {text : Text} {i : Nat} (boundary : Boundary text i) : i ≤ byteSize text := by
  obtain ⟨front, ⟨rest, rfl⟩, rfl⟩ := boundary
  rw [byteSize_append]
  omega

theorem slice?_isSome_iff {text : Text} {i j : Nat} :
    (text.slice? i j).isSome ↔ i ≤ j ∧ Boundary text i ∧ Boundary text j := by
  constructor
  · intro found
    obtain ⟨piece, found⟩ := Option.isSome_iff_exists.mp found
    obtain ⟨front, back, rfl, rfl, rfl⟩ := eq_of_slice? found
    refine ⟨by rw [byteSize_append]; omega, ?_, boundary_front _ _⟩
    rw [List.append_assoc]
    exact boundary_front _ _
  · rintro ⟨less, ⟨front, ⟨rest, rfl⟩, rfl⟩, longer, isLonger, rfl⟩
    have further : front <+: longer := by
      rcases List.prefix_or_prefix_of_prefix (List.prefix_append front rest) isLonger with known | ⟨more, rfl⟩
      · exact known
      · have none : more = [] := by
          have long := length_le_byteSize more
          rw [byteSize_append] at less
          exact List.length_eq_zero_iff.mp (by omega)
        simp only [none, List.append_nil, List.prefix_refl]
    obtain ⟨piece, rfl⟩ := further
    obtain ⟨back, whole⟩ := isLonger
    rw [← whole, slice?_append]
    rfl

theorem exists_brace (text : Text) (brace? : Option Nat) :
    ∃ place? : Option Position, place?.map Position.offset = brace? ∧
      ∀ p ∈ place?, positionAt? text p.offset = some p := by
  cases brace? with
  | none => exact ⟨none, rfl, by simp⟩
  | some brace =>
    obtain ⟨p, found, isOffset⟩ := exists_position text brace
    refine ⟨some p, congrArg some isOffset, ?_⟩
    rintro q ⟨⟩
    rw [isOffset, found]

theorem byteSize_lt_of_shorter {front rest behind rest' : Text} (same : front ++ rest = behind ++ rest')
    (shorter : rest'.length < rest.length) : byteSize front < byteSize behind := by
  rcases List.append_eq_append_iff.mp same with ⟨more, rfl, rfl⟩ | ⟨more, -, rfl⟩
  · have long := length_le_byteSize more
    rw [List.length_append] at shorter
    rw [byteSize_append]
    omega
  · rw [List.length_append] at shorter
    omega

theorem step_advances {front rest rest' : Text} {piece : Piece} {stop : Position}
    (read : step (start.past front) rest = .piece piece stop rest') :
    byteSize front < stop.offset ∧ Boundary (front ++ rest) stop.offset := by
  obtain ⟨-, isStop⟩ := step_at read
  obtain ⟨-, rfl⟩ := step_accounts read
  have shorter := length_lt_of_step read
  have long := length_le_byteSize piece.spelled
  rw [List.length_append] at shorter
  rw [isStop, ← past_append, offset_place]
  refine ⟨by rw [byteSize_append]; omega, ?_⟩
  rw [← List.append_assoc]
  exact boundary_front _ _

theorem turn_returns (text : Text) (brace? : Option Nat) {i : Nat} (boundary : Boundary text i) :
    Returns (turn text brace? i) (Turn.Advances text i) := by
  obtain ⟨front, ⟨rest, rfl⟩, rfl⟩ := boundary
  obtain ⟨place?, rfl, known⟩ := exists_brace (front ++ rest) brace?
  rw [turn_eq place? front rest known]
  cases read : step (start.past front) rest with
  | failed error => exact returns_throw error
  | done after stop =>
    have isStop := (pieces_placed (start.past front) rest after stop (by rw [pieces_of_done read])).2
    cases place? with
    | some brace => exact returns_throw _
    | none =>
      refine returns_pure ?_
      rw [isStop, ← past_append, offset_place]
      exact ⟨boundary_le (boundary_front front rest), ⟨front ++ rest, List.prefix_refl _, rfl⟩⟩
  | piece piece stop rest' =>
    obtain ⟨further, stands⟩ := step_advances read
    cases piece with
    | comment label => exact returns_pure ⟨further, stands⟩
    | statement label terminated => exact returns_pure ⟨further, stands⟩
    | opening head begins brace =>
      obtain ⟨inside, whole, isBrace, -⟩ := opening_places read
      have behind : byteSize (front ++ inside) + 1 = byteSize (front ++ inside ++ ['{']) :=
        (byteSize_concat (front ++ inside) '{').symm
      refine returns_pure ?_
      rw [Turn.Advances, isBrace, offset_place, whole, byte?_front, byte?_narrow rest' (by decide), behind]
      refine ⟨by rw [byteSize_append]; omega, rfl, ?_⟩
      rw [List.append_cons]
      exact boundary_front _ _
    | closing after brace =>
      cases place? with
      | none => exact returns_throw _
      | some brace => exact returns_pure ⟨Nat.le_of_lt further, stands⟩

theorem body_returns {text : Text} {turns : Nat} (enough : text.length < turns) (brace? : Option Nat) {i : Nat}
    (boundary : Boundary text i) (block : Block) :
    Returns (body text turns brace? i block) fun (_, _, stop) =>
      i ≤ stop ∧ (brace?.isSome → i < stop) ∧ Boundary text stop := by
  obtain ⟨front, ⟨rest, isText⟩, rfl⟩ := boundary
  obtain ⟨place?, rfl, known⟩ := exists_brace text brace?
  have enough' : rest.length < turns := by
    rw [← isText, List.length_append] at enough
    omega
  cases place? with
  | none =>
    obtain ⟨outcome, run, agrees⟩ := body_builds [] block front rest isText.symm enough' (by simp)
    refine ⟨outcome, run, ?_⟩
    rintro ⟨inner, after, stop⟩ rfl
    obtain ⟨rfl, -⟩ := agrees
    exact ⟨boundary_le ⟨front, ⟨rest, isText⟩, rfl⟩, by simp, ⟨text, List.prefix_refl text, rfl⟩⟩
  | some brace =>
    obtain ⟨outcome, run, agrees⟩ := body_builds [⟨{ kind := .root }, brace, brace, {}⟩] block front rest isText.symm
      enough' (by simpa using known)
    refine ⟨outcome, run, ?_⟩
    rintro ⟨inner, after, stop⟩ rfl
    obtain ⟨behind, rest', isBehind, rfl, shorter, -⟩ := agrees
    have further := byteSize_lt_of_shorter (isText.trans isBehind) shorter
    exact ⟨Nat.le_of_lt further, fun _ => further, behind, ⟨rest', isBehind.symm⟩, rfl⟩

theorem scanStatement_returns (text : Text) (i : Nat) : Returns (scanStatement text i) fun (stop, _) =>
    ((i ≤ byteSize text → i ≤ stop) ∧ stop ≤ byteSize text) ∧ (Boundary text i → Boundary text stop) := by
  have forwards : Returns (scanStatement text i) fun (stop, _) =>
      (i ≤ byteSize text → i ≤ stop) ∧ stop ≤ byteSize text := by
    refine (statementEnd_returns i 0 0).mono ?_
    rintro ⟨stop, terminator⟩ (⟨further, ended, found⟩ | found)
    · obtain ⟨b, rfl⟩ := Option.ne_none_iff_exists'.mp ended
      exact ⟨fun _ => further, Nat.le_of_lt (lt_of_byte? found)⟩
    · cases found
      exact ⟨id, Nat.le_refl _⟩
  refine forwards.and_of ?_
  rintro ⟨front, ⟨rest, rfl⟩, rfl⟩
  rw [scanStatement_eq]
  cases found : scan {} rest with
  | flawed flaw before => exact returns_throw _
  | stopped region rest' =>
    refine returns_pure ?_
    rw [scan_eq found, ← List.append_assoc]
    exact boundary_front _ _

theorem skipString_boundary {text : Text} {opening : Nat} {quote : Char} (narrow : quote.utf8Size = 1)
    (boundary : Boundary text (opening + 1)) : Returns (skipString text opening (ascii quote)) (Boundary text) := by
  obtain ⟨front, ⟨rest, rfl⟩, isCursor⟩ := boundary
  obtain ⟨p, isOpening, -⟩ := exists_position (front ++ rest) opening
  rw [skipString, isCursor, quoteEnd_eq narrow isOpening front rest rfl]
  cases closed : closeQuote? quote rest with
  | none => exact returns_throw _
  | some halves =>
    obtain ⟨inner, rest'⟩ := halves
    refine returns_pure ?_
    rw [closeQuote?_eq closed, ← List.append_assoc]
    exact boundary_front _ _

end progress

end Bytewise

end Source

open Source Bytewise Text

/-- The reading of any text comes to an end without asking for a slice, an entry or a difference that does not
exist, and comes to the sheet or the error that the text is given; one turn more than the text has characters is
enough for every body. A turn that does not return moves the cursor forwards, and the body of a block begins behind
its brace. Neither scan moves the cursor backwards, wherever it stands, and from the beginning of a character both
get to one. There is a slice only between two of these. -/
theorem Sheet.parse_progress (source : String) :
    (∀ turns, source.length < turns →
      (Bytewise.parse turns source.toList).run.map Sheet.ofReading = some (Sheet.parse source)) ∧
      (∀ brace? i, Boundary source.toList i →
        Returns (turn source.toList brace? i) (Turn.Advances source.toList i)) ∧
      (∀ turns brace? i block, source.length < turns → Boundary source.toList i →
        Returns (body source.toList turns brace? i block) fun (_, _, stop) =>
          i ≤ stop ∧ (brace?.isSome → i < stop) ∧ Boundary source.toList stop) ∧
      (∀ i, Returns (scanStatement source.toList i) fun (stop, _) =>
        ((i ≤ byteSize source.toList → i ≤ stop) ∧ stop ≤ byteSize source.toList) ∧
          (Boundary source.toList i → Boundary source.toList stop)) ∧
      (∀ opening, ∀ quote ∈ ['"', '\''],
        Returns (skipString source.toList opening (ascii quote)) fun stop =>
          (opening + 1 < stop ∧ stop ≤ byteSize source.toList) ∧
            (Boundary source.toList (opening + 1) → Boundary source.toList stop)) ∧
      ∀ i j, (slice? source.toList i j).isSome ↔
        i ≤ j ∧ Boundary source.toList i ∧ Boundary source.toList j := by
  have sizes : source.toList.length = source.length := String.length_toList
  refine ⟨fun turns enough => ?_, fun brace? i => turn_returns _ brace?,
    fun turns brace? i block enough boundary => body_returns (sizes ▸ enough) brace? boundary block,
    scanStatement_returns _, ?_, fun i j => slice?_isSome_iff⟩
  · rw [parse_eq (sizes ▸ enough)]
    rfl
  · intro opening quote isQuote
    have narrow : ∀ c ∈ ['"', '\''], c.utf8Size = 1 := narrow_of_all (by decide)
    exact (skipString_returns opening _).and_of fun boundary => skipString_boundary (narrow quote isQuote) boundary

/-- The escape takes the scan of the declaration from byte 4 to byte 6, into the middle of a character. -/
theorem Sheet.parse_progress_wide_escape :
    "a\x7bb:\\é\x7d".length < 8 ∧
      (Bytewise.parse 8 "a\x7bb:\\é\x7d".toList).run.map Sheet.ofReading =
        some (Sheet.parse "a\x7bb:\\é\x7d") ∧
      Boundary "a\x7bb:\\é\x7d".toList 2 ∧
      Returns (turn "a\x7bb:\\é\x7d".toList (some 1) 2) (Turn.Advances "a\x7bb:\\é\x7d".toList 2) ∧
      slice? "a\x7bb:\\é\x7d".toList 4 6 = none ∧ ¬ Boundary "a\x7bb:\\é\x7d".toList 6 ∧
      Returns (scanStatement "a\x7bb:\\é\x7d".toList 6) fun (stop, _) => 6 ≤ stop ∧ stop ≤ 8 := by
  obtain ⟨reads, turns, -, scans, -, slices⟩ := Sheet.parse_progress "a\x7bb:\\é\x7d"
  have short : "a\x7bb:\\é\x7d".length < 8 := by decide
  have begins : Boundary "a\x7bb:\\é\x7d".toList 2 := ⟨['a', '\x7b'], ⟨['b', ':', '\\', 'é', '\x7d'], rfl⟩, rfl⟩
  have opens : Boundary "a\x7bb:\\é\x7d".toList 4 := ⟨['a', '\x7b', 'b', ':'], ⟨['\\', 'é', '\x7d'], rfl⟩, rfl⟩
  have noSlice : slice? "a\x7bb:\\é\x7d".toList 4 6 = none := by decide
  have inside : ¬ Boundary "a\x7bb:\\é\x7d".toList 6 := fun boundary => by
    have found := (slices 4 6).mpr ⟨by decide, opens, boundary⟩
    rw [noSlice] at found
    cases found
  refine ⟨short, reads 8 short, begins, turns (some 1) 2 begins, noSlice, inside, (scans 6).mono ?_⟩
  rintro ⟨stop, terminator⟩ ⟨⟨further, less⟩, -⟩
  exact ⟨further (by decide), less⟩

end NestLint
