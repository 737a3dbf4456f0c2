import NestLint.Proofs.Source.Prefixes
import NestLint.Proofs.Source.Tidy
import NestLint.Proofs.Sheet.Planted

/-!
The semicolon behind the last declaration of a block. Whether it is there or not, the block is read as the
same declaration, but for the blanks at the end of its value: without the semicolon they are no part of the
value. Two things are asked of the text of the block. It does not end with a backslash that takes the
character behind it, be that the semicolon or the brace, and the blanks at its end are such as may stand
between statements.
-/

namespace NestLint

namespace Text

theorem dropWhile_trimEnd (text : Text) : (trimEnd text).dropWhile isBlank = trimEnd (text.dropWhile isBlank) := by
  induction text with
  | nil => rfl
  | cons c cs ih =>
    by_cases blank : isBlank c = true
    · rw [List.dropWhile_cons_of_pos blank, ← ih]
      rw [trimEnd, splitEnd_cons]
      by_cases nothing : (splitEnd isBlank cs).1 = []
      · rw [if_pos nothing, if_pos blank]
        simp [trimEnd, nothing]
      · rw [if_neg nothing]
        exact List.dropWhile_cons_of_pos blank
    · have visible : isBlank c = false := by simpa using blank
      rw [trimEnd_cons cs visible, List.dropWhile_cons_of_neg blank, List.dropWhile_cons_of_neg blank,
        trimEnd_cons cs visible]

theorem splitEnd_append_left {p : Char → Bool} (front : Text) {text : Text} (some : (splitEnd p text).1 ≠ []) :
    splitEnd p (front ++ text) = (front ++ (splitEnd p text).1, (splitEnd p text).2) := by
  induction front with
  | nil => rfl
  | cons c front ih =>
    have full : (splitEnd p (front ++ text)).1 ≠ [] := by simp [ih, some]
    rw [List.cons_append, splitEnd_cons, if_neg full, ih]
    rfl

end Text

namespace Tree

theorem marksAll_concat (ts : List (Tree Label)) (t : Tree Label) :
    marksAll (ts ++ [t]) = marksAll ts ++ marks t := by
  induction ts with
  | nil => simp [marksAll]
  | cons u ts ih => simp [marksAll, ih]

end Tree

namespace Source

def marksSoFar : List Frame → Block → List Mark
  | [], block => Tree.marksAll block.children.reverse
  | frame :: frames, block =>
    marksSoFar frames frame.outer ++ .opened frame.head.kind :: Tree.marksAll block.children.reverse

theorem marksSoFar_concat (frames : List Frame) (t : Tree Label) {block block' : Block}
    (same : block'.children = t :: block.children) :
    marksSoFar frames block' = marksSoFar frames block ++ t.marks := by
  cases frames with
  | nil => simp [marksSoFar, same, Tree.marksAll_concat]
  | cons frame frames => simp [marksSoFar, same, Tree.marksAll_concat]

theorem build_marks {frames opened : List Frame} {block last : Block} {row : List Piece}
    (known : ∀ piece ∈ row, piece.Known) (heads : ∀ frame ∈ frames, frame.head.kind.isContainer = true)
    (built : build frames block row = .ok (opened, last)) :
    marksSoFar opened last = marksSoFar frames block ++ row.map Piece.mark := by
  induction row generalizing frames block with
  | nil =>
    cases built
    simp
  | cons piece row ih =>
    have own := known piece List.mem_cons_self
    have later := fun {frames block} => @ih frames block fun p listed => known p (List.mem_cons_of_mem _ listed)
    rw [List.map_cons]
    cases piece with
    | comment label =>
      rw [later heads built, marksSoFar_concat frames (.node label []) rfl]
      simp [Tree.marks, own.2.2.1, Piece.mark]
    | statement label terminated =>
      rw [later heads built, marksSoFar_concat frames (.node label []) rfl]
      simp [Tree.marks, own.2.2.1, Piece.mark]
    | opening head start brace =>
      have isHead : head.kind.isContainer = true := by
        obtain ⟨-, -, kinds⟩ := own
        cases kind : head.kind <;> simp_all [Kind.isContainer]
      rw [later (List.forall_mem_cons.mpr ⟨isHead, heads⟩) built]
      simp [marksSoFar, Tree.marksAll, Piece.mark]
    | closing after brace =>
      cases frames with
      | nil => cases built
      | cons frame frames =>
        obtain ⟨isHead, heads⟩ := List.forall_mem_cons.mp heads
        rw [later heads built, marksSoFar_concat frames _ rfl]
        simp [marksSoFar, Tree.marks, Block.close, isHead, Piece.mark]

theorem reads_of_step {pos stop : Position} {text rest : Text} {piece : Piece}
    (read : step pos text = .piece piece stop rest) : Reads text piece.mark rest := fun other => by
  rw [mark_step other pos rfl, read]
  rfl

theorem reading_of_pieces {pos stop : Position} {text after : Text}
    (ended : (pieces pos text).2 = .done after stop) :
    Reading text ((pieces pos text).1.map Piece.mark) after ∧ ∀ c ∈ after, Text.isGap c = true := by
  fun_induction pieces pos text with
  | case1 pos text piece stop rest read _ row ending later ih =>
    rw [later] at ih
    obtain ⟨reading, gap⟩ := ih ended
    exact ⟨.piece (reads_of_step read) reading, gap⟩
  | case2 pos text after' stop' read =>
    cases ended
    obtain rfl := step_done read
    refine ⟨.done _, ?_⟩
    rw [(step_done_gap read).1]
    exact List.all_eq_true.mp List.all_takeWhile
  | case3 pos text error read => cases ended

theorem reading_of_parse {text : Text} {t : Tree Label} (parsed : parse text = .ok t) :
    ∃ after, Reading text (Tree.marksAll t.children) after ∧ ∀ c ∈ after, Text.isGap c = true := by
  obtain ⟨row, after, stop, block, read, built, rfl⟩ := parse_eq_ok_iff.mp parsed
  have isRow : (pieces .start text).1 = row := congrArg Prod.fst read
  have marks := build_marks (fun piece listed => (pieces_account .start text).1 piece (isRow ▸ listed))
    (by simp) built
  obtain ⟨reading, gap⟩ := reading_of_pieces (congrArg Prod.snd read)
  rw [isRow] at reading
  refine ⟨after, ?_, gap⟩
  have same : Tree.marksAll block.children.reverse = row.map Piece.mark := marks
  exact same ▸ reading

section escape

variable {depth : Depth} {text unit rest front : Text} {c : Char}

theorem length_of_lexeme_escape {d : Text} (taken : lexeme text = .taken ('\\' :: d) rest) : d.length ≤ 1 := by
  obtain ⟨rfl, -⟩ := lexeme_eq taken
  rw [List.cons_append, lexeme, if_pos rfl, Lexeme.taken.injEq, List.cons.injEq] at taken
  rw [← taken.1.2, List.length_take]
  omega

/-- A lexeme with more text behind it does not change whether a run of backslashes is even. -/
theorem backslashes_lexeme (taken : lexeme text = .taken unit rest) (more : rest ≠ []) (front : Text) :
    Text.backslashes (unit ++ front) % 2 = Text.backslashes front % 2 := by
  rcases lexeme_cases taken with ⟨d, rfl⟩ | ⟨quote, body, isQuote, rfl⟩ | ⟨body, rfl⟩ | ⟨c, rfl, noEscape, -⟩
  · have short := length_of_lexeme_escape taken
    rcases d with - | ⟨d, - | ⟨e, ds⟩⟩
    · exact absurd (eq_nil_of_lexeme_escape taken) more
    · exact Text.backslashes_escape d front
    · simp at short
  · have other : quote ≠ '\\' := by
      rcases isQuote with rfl | rfl <;> decide
    have same : quote :: (body ++ [quote]) ++ front = (quote :: body) ++ quote :: front := by simp
    rw [same, Text.backslashes_append_cons other]
  · have same : '/' :: '*' :: body ++ ['*', '/'] ++ front = ('/' :: '*' :: body ++ ['*']) ++ '/' :: front := by simp
    rw [same, Text.backslashes_append_cons (by decide)]
  · rw [List.singleton_append, Text.backslashes_cons noEscape]

theorem eq_of_lexeme_isStop (stop : isStop c = true) (taken : lexeme text = .taken (front ++ [c]) rest) :
    front = [] ∨ front = ['\\'] := by
  have last : ∀ (d : Char) (body : Text), front ++ [c] = body ++ [d] → isStop d = false → False := by
    intro d body same other
    rw [(List.append_inj' same rfl).2 |> List.cons.inj |>.1] at stop
    rw [stop] at other
    cases other
  rcases lexeme_cases taken with ⟨d, same⟩ | ⟨quote, body, isQuote, same⟩ | ⟨body, same⟩ | ⟨e, same, -⟩
  · rw [same] at taken
    have short := length_of_lexeme_escape taken
    cases front with
    | nil => exact Or.inl rfl
    | cons e front =>
      obtain ⟨rfl, isEnd⟩ := List.cons.inj same
      cases front with
      | nil => exact Or.inr rfl
      | cons e front => simp [← isEnd] at short
  · exact (last quote (quote :: body) same (by rcases isQuote with rfl | rfl <;> decide)).elim
  · exact (last '/' ('/' :: '*' :: body ++ ['*']) (by rw [same]; simp) (by decide)).elim
  · cases front with
    | nil => exact Or.inl rfl
    | cons d front => simp at same

/-- A statement that goes on behind a stop outside all brackets has escaped it. -/
theorem escaped_of_scan {depth : Depth} {text front rest : Text} {c : Char} (stop : isStop c = true)
    (found : scan depth text = .stopped (front ++ [c]) rest)
    (more : rest ≠ []) : Text.backslashes front % 2 = 1 := by
  rcases scan_cases found with ⟨none, -⟩ | ⟨unit, tail, inner, taken, passes, whole, deeper⟩
  · simp at none
  have behind : tail ≠ [] := by
    rw [scan_eq deeper]
    simp [more]
  rcases List.eq_nil_or_concat inner with rfl | ⟨inner, e, rfl⟩
  · rw [List.append_nil] at whole
    subst whole
    rcases eq_of_lexeme_isStop stop taken with rfl | rfl
    · -- The brackets are as they were, and behind the stop the scan stops outside all of them.
      have same : depth.past [c] = depth := by
        simp only [isStop, Bool.or_eq_true, beq_iff_eq] at stop
        rcases stop with (rfl | rfl) | rfl <;> rfl
      rcases scan_cases deeper with ⟨-, nothing | ⟨unit, tail', -, stops⟩⟩ | ⟨unit, tail', inner, taken', -, none, -⟩
      · exact absurd nothing behind
      · have outside : depth = {} := same ▸ (eq_of_stops stops).1
        rw [List.nil_append, (stops_of_isStop stop).mpr outside] at passes
        cases passes
      · exact absurd (List.append_eq_nil_iff.mp none.symm).1 (lexeme_eq taken').2
    · rfl
  · rw [List.concat_eq_append, ← List.append_assoc] at whole
    obtain ⟨isFront, same⟩ := List.append_inj' whole rfl
    rw [List.concat_eq_append, ← same] at deeper
    rw [isFront, backslashes_lexeme taken behind]
    exact escaped_of_scan stop deeper more
termination_by front.length
decreasing_by
  have := List.length_pos_iff.mpr (lexeme_eq taken).2
  rw [isFront, List.length_append]
  omega

end escape

section decl

variable {property value region : Text} {important : Bool}

theorem declKind?_append_colon {front : Text} (absent : ':' ∉ front) (tail : Text) :
    declKind? (front ++ ':' :: tail) = if (Text.trimEnd front).isEmpty then none else
      some (.decl (Text.trimEnd front) (splitImportant (tail.dropWhile Text.isBlank)).1
        (splitImportant (tail.dropWhile Text.isBlank)).2.isSome) := by
  have inside : ∀ c ∈ front, (c != ':') = true := fun c listed => by
    simpa using fun same : c = ':' => absent (same ▸ listed)
  have isFront : (front ++ ':' :: tail).takeWhile (· != ':') = front := by
    rw [List.takeWhile_append_of_pos inside]
    simp
  have isTail : (front ++ ':' :: tail).dropWhile (· != ':') = ':' :: tail := by
    rw [List.dropWhile_append_of_pos inside]
    simp
  have isFirst : (Text.splitEnd Text.isBlank front).1 = Text.trimEnd front := rfl
  simp only [declKind?, readDecl, isFront, isTail, isFirst, Text.splitBlanks]
  split <;> rfl

theorem exists_colon_of_declKind? {kind : Kind} (declared : declKind? region = some kind) :
    ∃ front tail, ':' ∉ front ∧ region = front ++ ':' :: tail := by
  by_cases listed : ':' ∈ region
  · obtain ⟨front, tail, rfl, absent⟩ := List.eq_append_cons_of_mem listed
    exact ⟨front, tail, absent, rfl⟩
  · have inside : ∀ c ∈ region, (c != ':') = true := fun c member => by
      simpa using fun same : c = ':' => listed (same ▸ member)
    have none : region.dropWhile (· != ':') = [] := by
      rw [← List.append_nil region, List.dropWhile_append_of_pos inside]
      rfl
    simp [declKind?, readDecl, none, Except.toOption] at declared

theorem splitImportant_trimEnd (value : Text) :
    (splitImportant (Text.trimEnd value)).2.isSome = (splitImportant value).2.isSome ∧
      Text.trimEnd (splitImportant (Text.trimEnd value)).1 = Text.trimEnd (splitImportant value).1 := by
  simp only [splitImportant, Text.trimEnd_trimEnd]
  split
  · exact ⟨rfl, Text.trimEnd_trimEnd value⟩
  · split
    · exact ⟨rfl, rfl⟩
    · exact ⟨rfl, Text.trimEnd_trimEnd value⟩

theorem declKind?_trimEnd (declared : declKind? region = some (.decl property value important)) :
    Text.trimEnd region ≠ [] ∧ ∃ value', declKind? (Text.trimEnd region) = some (.decl property value' important) ∧
      Text.trimEnd value' = Text.trimEnd value := by
  obtain ⟨front, tail, absent, rfl⟩ := exists_colon_of_declKind? declared
  have trimmed : Text.trimEnd (front ++ ':' :: tail) = front ++ ':' :: Text.trimEnd tail :=
    Text.trimEnd_append_cons front tail (by decide)
  obtain ⟨sameMark, sameValue⟩ := splitImportant_trimEnd (tail.dropWhile Text.isBlank)
  rw [declKind?_append_colon absent] at declared
  rw [trimmed, declKind?_append_colon absent, Text.dropWhile_trimEnd]
  refine ⟨by simp, ?_⟩
  split at declared
  · cases declared
  next full =>
    simp only [Option.some.injEq, Kind.decl.injEq] at declared
    obtain ⟨rfl, rfl, rfl⟩ := declared
    rw [if_neg full, sameMark]
    exact ⟨_, rfl, sameValue⟩

end decl

section reading

variable {text rest : Text}

theorem exists_of_reads_closed (reads : Reads text .closed rest) :
    ∃ gap, text = gap ++ '}' :: rest ∧ ∀ c ∈ gap, Text.isGap c = true := by
  have found := reads .start
  cases read : step .start text with
  | done after stop => rw [read] at found; cases found
  | failed error => rw [read] at found; cases found
  | piece piece stop rest' =>
    rw [read] at found
    obtain ⟨isClosed, rfl⟩ := Prod.mk.inj (Option.some.inj found)
    cases piece with
    | comment label => cases isClosed
    | statement label terminated => cases isClosed
    | opening head start brace => cases isClosed
    | closing after brace =>
      have isGap : after = text.takeWhile Text.isGap := before_of_step read
      obtain ⟨-, spelled⟩ := step_accounts read
      refine ⟨after, ?_, ?_⟩
      · rw [← spelled, Piece.spelled, List.append_assoc]
        rfl
      · rw [isGap]
        exact List.all_eq_true.mp List.all_takeWhile

theorem exists_of_reads_decl {property value : Text} {important : Bool}
    (reads : Reads text (.leaf (.decl property value important)) rest) :
    ∃ gap body region, text = gap ++ body ∧ (∀ c ∈ gap, Text.isGap c = true) ∧ Plainly body ∧
      declKind? region = some (.decl property value important) ∧
      (cut body = .ended region rest ∨ cut body = .unended region rest) := by
  obtain ⟨gap, body, rfl, all, front⟩ := exists_front text
  have found := reads .start
  cases front with
  | finished => rw [List.append_nil, step_gap all] at found; cases found
  | close tail => rw [step_close all] at found; cases found
  | atRule tail =>
    rw [step_atRule all, mark_readAtRule] at found
    cases isCut : cut (tail.dropWhile fun c => !endsName c) <;> rw [isCut] at found <;> cases found
  | comment tail =>
    rw [step_comment all, readComment] at found
    cases closed : closeComment? tail <;> rw [closed] at found <;> cases found
  | plain plainly =>
    rw [step_plain all _ plainly, mark_readPlain] at found
    cases isCut : cut body with
    | flawed flaw skipped => rw [isCut] at found; cases found
    | block region rest' => rw [isCut] at found; cases found
    | ended region rest' =>
      rw [isCut] at found
      obtain ⟨kind, declared, same⟩ := Option.map_eq_some_iff.mp found
      cases same
      exact ⟨gap, body, region, rfl, all, plainly, declared, Or.inl isCut⟩
    | unended region rest' =>
      rw [isCut] at found
      obtain ⟨kind, declared, same⟩ := Option.map_eq_some_iff.mp found
      cases same
      exact ⟨gap, body, region, rfl, all, plainly, declared, Or.inr isCut⟩

end reading

section semicolon

variable {property value : Text} {important : Bool}

def Redeclares (property value : Text) (important : Bool) (mark : Mark) : Prop :=
  ∃ value', mark = .leaf (.decl property value' important) ∧ Text.trimEnd value' = Text.trimEnd value

theorem reading_of_ended {gap region : Text} (all : ∀ c ∈ gap, Text.isGap c = true)
    (declared : declKind? region = some (.decl property value important))
    (plainly : Plainly (region ++ ';' :: ['}'])) (found : cut (region ++ ';' :: ['}']) = .ended region ['}'])
    (narrow : ∀ c ∈ (Text.splitEnd Text.isBlank (gap ++ region)).2, Text.isGap c = true) :
    ∃ mark, Redeclares property value important mark ∧ Reading (gap ++ (region ++ ['}'])) [mark, .closed] [] := by
  obtain ⟨full, value', declared', same⟩ := declKind?_trimEnd declared
  have stopped : scan {} (region ++ ['}']) = .stopped region ['}'] :=
    scan_local (cut_eq_ended_iff.mp found) (by simp [isStop])
  have isCut : cut (region ++ ['}']) =
      .unended (Text.trimEnd region) ((Text.splitEnd Text.isBlank region).2 ++ ['}']) := by
    simp [cut, stopped, Text.trimEnd]
  have still : Plainly (region ++ ['}']) := by
    refine plainly_local plainly (fun none => absurd ?_ full) (by simp)
    rw [none]
    rfl
  rw [Text.splitEnd_append_left gap full] at narrow
  refine ⟨_, ⟨value', rfl, same⟩, .gap_append all (.piece ((reads_plain still).mpr ?_)
    (.single (reads_closed narrow [])))⟩
  rw [isCut, Cut.plainMark, declared']
  rfl

/-- Without its last semicolon the body of a block that declares one thing declares it still. -/
theorem reading_without_semicolon {d rest : Text}
    (reading : Reading (d ++ [';', '}']) [.leaf (.decl property value important), .closed] rest)
    (gap : ∀ c ∈ rest, Text.isGap c = true) (even : Text.backslashes d % 2 = 0)
    (narrow : ∀ c ∈ (Text.splitEnd Text.isBlank d).2, Text.isGap c = true) :
    ∃ mark, Redeclares property value important mark ∧ Reading (d ++ ['}']) [mark, .closed] [] := by
  cases reading with | piece first later =>
  cases later with | piece second last =>
  cases last
  obtain ⟨after, rfl, allAfter⟩ := exists_of_reads_closed second
  obtain ⟨lead, body, region, whole, allLead, plainly, declared, isCut⟩ := exists_of_reads_decl first
  have full : region ≠ [] := by
    rintro rfl
    cases declared
  -- The brace at the end is the one that closes the block, so nothing follows it.
  have isRest : rest = [] := by
    obtain ⟨front, inside⟩ : ∃ front, body = front ++ (after ++ '}' :: rest) := by
      rcases isCut with found | found
      · exact ⟨region ++ [';'], by rw [cut_ended found, List.append_assoc]; rfl⟩
      · exact ⟨region, cut_unended found⟩
    rcases List.eq_nil_or_concat rest with rfl | ⟨before, c, rfl⟩
    · rfl
    · have ends : (d ++ [';']) ++ ['}'] = (lead ++ front ++ after ++ '}' :: before) ++ [c] := by
        simpa [inside] using whole
      have isLast : '}' = c := (List.cons.inj (List.append_inj' ends rfl).2).1
      exact absurd (gap c (by simp)) (by rw [← isLast]; decide)
  subst isRest
  rcases isCut with found | found
  · have inside := cut_ended found
    subst inside
    rcases List.eq_nil_or_concat after with rfl | ⟨before, c, rfl⟩
    · -- This very semicolon ends the statement.
      have ends : d ++ [';', '}'] = (lead ++ region) ++ [';', '}'] := by simpa using whole
      obtain rfl := (List.append_inj' ends rfl).1
      rw [List.append_assoc]
      exact reading_of_ended allLead declared plainly found narrow
    · -- The statement has a semicolon of its own, and this one is part of the gap behind it.
      have ends : d ++ [';', '}'] = (lead ++ (region ++ ';' :: before)) ++ [c, '}'] := by simpa using whole
      obtain rfl := (List.append_inj' ends rfl).1
      have still : Plainly (region ++ ';' :: (before ++ ['}'])) :=
        plainly_local plainly (fun none => absurd none full) (by simp)
      have isCut : cut (region ++ ';' :: (before ++ ['}'])) = .ended region (before ++ ['}']) :=
        cut_ended_local found _
      have gapBefore : ∀ c ∈ before, Text.isGap c = true := fun c listed => allAfter c (by simp [listed])
      have reads : Reads (region ++ ';' :: (before ++ ['}'])) (.leaf (.decl property value important))
          (before ++ ['}']) := by
        rw [reads_plain still, isCut, Cut.plainMark, declared]
        rfl
      have whole : lead ++ (region ++ ';' :: before) ++ ['}'] = lead ++ (region ++ ';' :: (before ++ ['}'])) := by
        simp
      exact ⟨_, ⟨value, rfl, rfl⟩, whole ▸ .gap_append allLead (.piece reads (.single (reads_closed gapBefore [])))⟩
  · -- The semicolon is part of the statement, so it is escaped.
    have inside := cut_unended found
    have absent : '}' ∉ after := fun listed => absurd (allAfter '}' listed) (by decide)
    have blank := blank_of_trailing (cut_trailing found) absent
    have stopped := ((cut_eq_unended_iff blank).mp found).1
    rcases List.eq_nil_or_concat after with rfl | ⟨before, c, rfl⟩
    · obtain ⟨front, e, rfl⟩ := (List.eq_nil_or_concat region).resolve_left full
      rw [List.concat_eq_append] at *
      have ends : d ++ [';', '}'] = (lead ++ front) ++ [e, '}'] := by simpa [inside] using whole
      obtain ⟨rfl, same⟩ := List.append_inj' ends rfl
      obtain rfl := (List.cons.inj same).1
      rw [List.append_nil] at stopped
      have odd := escaped_of_scan (by decide) stopped (by simp)
      have clean : Text.backslashes (lead ++ front) = Text.backslashes front := by
        rcases List.eq_nil_or_concat lead with rfl | ⟨before, c, rfl⟩
        · rfl
        · have other : c ≠ '\\' := by
            rintro rfl
            exact absurd (allLead '\\' (by simp)) (by decide)
          rw [List.concat_eq_append, List.append_assoc]
          exact Text.backslashes_append_cons other before front
      rw [clean, odd] at even
      cases even
    · have ends : d ++ [';', '}'] = (lead ++ region ++ before) ++ [c, '}'] := by simpa [inside] using whole
      have isLast : ';' = c := (List.cons.inj (List.append_inj' ends rfl).2).1
      exact absurd (blank c (by simp)) (by rw [← isLast]; decide)

end semicolon

def single (selector : Text) (kind : Kind) : Tree Kind := .node .root [.node (.rule selector) [.node kind []]]

theorem reading_of_single {text : Text} {t : Tree Label} {selector : Text} {kind : Kind}
    (leaf : kind.isContainer = false) (parsed : parse text = .ok t)
    (isSingle : t.map Label.kind = single selector kind) :
    ∃ after, Reading text [.opened (.rule selector), .leaf kind, .closed] after ∧
      ∀ c ∈ after, Text.isGap c = true := by
  obtain ⟨after, reading, gap⟩ := reading_of_parse parsed
  refine ⟨after, ?_, gap⟩
  obtain ⟨root, ts⟩ := t
  simp only [Tree.map, Tree.mapAll_eq_map, single, Tree.node.injEq, List.map_eq_singleton_iff] at isSingle
  obtain ⟨-, ⟨rule, us⟩, rfl, isRule⟩ := isSingle
  simp only [Tree.map, Tree.mapAll_eq_map, Tree.node.injEq, List.map_eq_singleton_iff] at isRule
  obtain ⟨ruleKind, ⟨inner, vs⟩, rfl, isInner⟩ := isRule
  simp only [Tree.map, Tree.mapAll_eq_map, Tree.node.injEq, List.map_eq_nil_iff] at isInner
  obtain ⟨innerKind, rfl⟩ := isInner
  have block : (Kind.rule selector).isContainer = true := rfl
  simpa [Tree.children, Tree.marksAll, Tree.marks, ruleKind, innerKind, leaf, block] using reading

theorem parse_of_reading {text rest selector : Text} {kind : Kind}
    (reading : Reading text [.opened (.rule selector), .leaf kind, .closed] rest)
    (gap : ∀ c ∈ rest, Text.isGap c = true) :
    ∃ t, parse text = .ok t ∧ t.map Label.kind = single selector kind := by
  obtain ⟨row, after, stop, read, marks⟩ := pieces_of_reading reading gap .start
  obtain ⟨first, row, rfl, isFirst, marks⟩ := List.map_eq_cons_iff.mp marks
  obtain ⟨second, row, rfl, isSecond, marks⟩ := List.map_eq_cons_iff.mp marks
  obtain ⟨third, row, rfl, isThird, marks⟩ := List.map_eq_cons_iff.mp marks
  obtain rfl := List.map_eq_nil_iff.mp marks
  have parsed : ∀ {last}, build [] {} [first, second, third] = .ok ([], last) →
      parse text = .ok (last.close { kind := .root } after ⟨.start, stop⟩) := fun built =>
    parse_eq_ok_iff.mpr ⟨_, after, stop, _, read, built, rfl⟩
  cases first with
  | comment label => cases isFirst
  | statement label terminated => cases isFirst
  | closing after brace => cases isFirst
  | opening head start brace =>
    cases third with
    | comment label => cases isThird
    | statement label terminated => cases isThird
    | opening head start brace => cases isThird
    | closing after' brace' =>
      have isRule := Mark.opened.inj isFirst
      cases second with
      | opening head start brace => cases isSecond
      | closing after brace => cases isSecond
      | comment label =>
        have isLeaf := Mark.leaf.inj isSecond
        exact ⟨_, parsed rfl, by simp [Block.close, Block.addBlock, Block.addComment, Tree.map, Tree.mapAll, single,
          isRule, isLeaf]⟩
      | statement label terminated =>
        have isLeaf := Mark.leaf.inj isSecond
        exact ⟨_, parsed rfl, by simp [Block.close, Block.addBlock, Block.addStatement, Tree.map, Tree.mapAll, single,
          isRule, isLeaf]⟩

theorem reads_head (body : Text) : Reads ('a' :: '{' :: body) (.opened (.rule ['a'])) body := by
  have plainly : Plainly ('a' :: '{' :: body) :=
    ⟨'a', '{' :: body, rfl, by decide, by decide, by decide, by simp⟩
  have alone : cut ['a', '{'] = .block ['a'] [] := by decide +kernel
  have isCut : cut (['a'] ++ '{' :: body) = .block ['a'] body := cut_block_local alone body
  rw [List.singleton_append] at isCut
  rw [reads_plain plainly, isCut]
  rfl

end Source

namespace Sheet

open Source

/-- The last semicolon of a block with one declaration may go, unless it is escaped or blanks stand before it
that are no gap. The declaration stays as it is, but for the blanks at the end of its value. -/
theorem parse_without_last_semicolon {d : String} {s : Sheet} {selector property value : Text} {important : Bool}
    (parsed : Sheet.parse ("a\x7b" ++ d ++ ";\x7d") = .ok s)
    (isSingle : (s.tree root).map Label.kind = single selector (.decl property value important))
    (even : Text.backslashes d.toList % 2 = 0)
    (narrow : ∀ c ∈ (Text.splitEnd Text.isBlank d.toList).2, Text.isGap c = true) :
    ∃ s' value', Sheet.parse ("a\x7b" ++ d ++ "\x7d") = .ok s' ∧
      (s'.tree root).map Label.kind = single selector (.decl property value' important) ∧
      Text.trimEnd value' = Text.trimEnd value := by
  obtain ⟨t, read, rfl⟩ := exists_tree_of_parse parsed
  rw [tree_ofTree, Tree.kinds_moved] at isSingle
  obtain ⟨after, reading, gap⟩ := reading_of_single rfl read isSingle
  have source : ("a\x7b" ++ d ++ ";\x7d").toList = 'a' :: '{' :: (d.toList ++ [';', '}']) := by simp
  rw [source] at reading
  cases reading with | piece head inside =>
  obtain ⟨isHead, rfl⟩ := Prod.mk.inj (Option.some.inj ((head .start).symm.trans (reads_head _ .start)))
  obtain ⟨_, ⟨value', rfl, same⟩, again⟩ := reading_without_semicolon inside gap even narrow
  have source' : ("a\x7b" ++ d ++ "\x7d").toList = 'a' :: '{' :: (d.toList ++ ['}']) := by simp
  have whole := Reading.piece (isHead ▸ reads_head (d.toList ++ ['}'])) again
  obtain ⟨t', read', isSingle'⟩ := parse_of_reading whole (by simp)
  exact ⟨_, value', parse_of_tree (source' ▸ read'), by rw [tree_ofTree, Tree.kinds_moved, isSingle'], same⟩

theorem exists_single_of_pieces {source : String} {selector : Text} {kind : Kind} (stop : Position)
    (marks : (pieces .start source.toList).1.map Piece.mark = [.opened (.rule selector), .leaf kind, .closed])
    (ended : (pieces .start source.toList).2 = .done [] stop) :
    ∃ s, Sheet.parse source = .ok s ∧ (s.tree root).map Label.kind = single selector kind := by
  obtain ⟨reading, gap⟩ := reading_of_pieces ended
  rw [marks] at reading
  obtain ⟨t, read, isSingle⟩ := parse_of_reading reading gap
  exact ⟨_, parse_of_tree read, by rw [tree_ofTree, Tree.kinds_moved, isSingle]⟩

/-- Semicolons before the declaration and in brackets, a mark of importance, and blanks behind it. -/
theorem parse_without_last_semicolon_important :
    ∃ s, Sheet.parse ("a\x7b" ++ ";b:\\\\(\x7d)!Important\n" ++ ";\x7d") = .ok s ∧
      (s.tree root).map Label.kind = single ['a'] (.decl ['b'] ['\\', '\\', '(', '}', ')'] true) ∧
      Text.backslashes ";b:\\\\(\x7d)!Important\n".toList % 2 = 0 ∧
      (∀ c ∈ (Text.splitEnd Text.isBlank ";b:\\\\(\x7d)!Important\n".toList).2, Text.isGap c = true) ∧
      ∃ s' value', Sheet.parse ("a\x7b" ++ ";b:\\\\(\x7d)!Important\n" ++ "\x7d") = .ok s' ∧
        (s'.tree root).map Label.kind = single ['a'] (.decl ['b'] value' true) ∧
        Text.trimEnd value' = Text.trimEnd ['\\', '\\', '(', '}', ')'] := by
  have even : Text.backslashes ";b:\\\\(\x7d)!Important\n".toList % 2 = 0 := by decide +kernel
  have narrow : ∀ c ∈ (Text.splitEnd Text.isBlank ";b:\\\\(\x7d)!Important\n".toList).2,
      Text.isGap c = true := by
    have ends : (Text.splitEnd Text.isBlank ";b:\\\\(\x7d)!Important\n".toList).2 = ['\n'] := by decide +kernel
    rw [ends]
    simp [Text.isGap]
  obtain ⟨s, parsed, isSingle⟩ : ∃ s, Sheet.parse ("a\x7b" ++ ";b:\\\\(\x7d)!Important\n" ++ ";\x7d") = .ok s ∧
      (s.tree root).map Label.kind = single ['a'] (.decl ['b'] ['\\', '\\', '(', '}', ')'] true) :=
    exists_single_of_pieces ⟨23, 2, 3⟩ (by decide +kernel) (by decide +kernel)
  exact ⟨s, parsed, isSingle, even, narrow, parse_without_last_semicolon parsed isSingle even narrow⟩

/-- A backslash before the last semicolon takes the brace once the semicolon is gone, and the block is never
closed. A blank before it that is no gap, such as a no-break space, is then read as a statement of its own. -/
theorem last_semicolon_needed :
    (∃ s, Sheet.parse ("a\x7b" ++ "b:c\\" ++ ";\x7d") = .ok s ∧
      (s.tree root).map Label.kind = single ['a'] (.decl ['b'] ['c', '\\', ';'] false)) ∧
    (∀ s', Sheet.parse ("a\x7b" ++ "b:c\\" ++ "\x7d") ≠ .ok s') ∧
    (∃ s, Sheet.parse ("a\x7b" ++ "b:c\u00a0" ++ ";\x7d") = .ok s ∧
      (s.tree root).map Label.kind = single ['a'] (.decl ['b'] ['c', '\u00a0'] false)) ∧
    ∀ s', Sheet.parse ("a\x7b" ++ "b:c\u00a0" ++ "\x7d") ≠ .ok s' := by
  have refused : ∀ {source}, (Sheet.parse source).toOption.isNone = true → ∀ s', Sheet.parse source ≠ .ok s' := by
    intro source none s' parsed
    simp [parsed, Except.toOption] at none
  refine ⟨?_, refused (by decide +kernel), ?_, refused (by decide +kernel)⟩
  · exact exists_single_of_pieces ⟨8, 1, 9⟩ (by decide +kernel) (by decide +kernel)
  · exact exists_single_of_pieces ⟨9, 1, 10⟩ (by decide +kernel) (by decide +kernel)

end Sheet

end NestLint
