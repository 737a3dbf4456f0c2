import Mathlib.Data.Prod.Lex
import NestLint.Proofs.Lint.Runs
import NestLint.Proofs.Nesting.Completeness
import NestLint.Proofs.Source.Blame
import NestLint.Report.Document

/-!
The places in a report. A place is found by walking over the text and counting, and the counts are always
those of the text that has been walked over, so the place of a cut between two characters is the number of
line breaks before it and the units since the last one. Of two such cuts the later one has the later place.
Everything that a linter reports begins and ends at such cuts: problems with options at the beginning,
errors where the reader stopped, and the rest where a node begins and ends.
-/

namespace NestLint

namespace Text

def unitSize (text : Text) : Nat := (text.map units16).sum

/-- The line and the column at the end of a text, both from one, the column in units of UTF-16. -/
def endPlace (text : Text) : Nat × Nat := (1 + text.count '\n', 1 + unitSize text.lastLine)

theorem unitSize_append (first second : Text) : unitSize (first ++ second) = unitSize first + unitSize second := by
  rw [unitSize, List.map_append, List.sum_append, unitSize, unitSize]

theorem units16_pos (c : Char) : 0 < units16 c := by
  unfold units16
  split <;> decide

theorem eq_nil_of_unitSize {text : Text} (none : unitSize text = 0) : text = [] := by
  cases text with
  | nil => rfl
  | cons c text =>
    have positive := units16_pos c
    rw [unitSize, List.map_cons, List.sum_cons] at none
    omega

theorem placeFrom_append (seen front rest : Text) :
    placeFrom (byteSize front) (seen.count '\n') (byteSize seen.lastLine) (unitSize seen.lastLine)
        (front ++ rest) =
      ((seen ++ front).count '\n', unitSize (seen ++ front).lastLine) := by
  induction front generalizing seen with
  | nil => cases rest <;> simp [placeFrom, byteSize]
  | cons c front ih =>
    have positive := c.utf8Size_pos
    have step := ih (seen ++ [c])
    rw [List.append_assoc, List.singleton_append] at step
    rw [← step, byteSize, List.cons_append, placeFrom, if_neg (by omega), if_neg (by omega), lastLine_concat,
      List.count_append, List.count_singleton]
    split
    next newline =>
      subst newline
      have single : '\n'.utf8Size + byteSize front - 1 = byteSize front := Nat.add_sub_cancel_left _ _
      rw [single]
      rfl
    next other =>
      have remains : c.utf8Size + byteSize front - c.utf8Size = byteSize front := Nat.add_sub_cancel_left _ _
      rw [remains, byteSize_append, unitSize_append]
      simp [byteSize, unitSize, other]

theorem place_append (front rest : Text) :
    place (front ++ rest) (byteSize front) = (front.count '\n', unitSize front.lastLine) :=
  placeFrom_append [] front rest

theorem lastLine_append {middle : Text} (front : Text) (single : '\n' ∉ middle) :
    (front ++ middle).lastLine = front.lastLine ++ middle := by
  induction middle using List.reverseRecOn with
  | nil => simp
  | append_singleton middle c ih =>
    rw [List.mem_append, not_or, List.mem_singleton] at single
    rw [← List.append_assoc, lastLine_concat, if_neg (Ne.symm single.2), ih single.1, List.append_assoc]

theorem endPlace_append (front middle : Text) :
    toLex (endPlace front) ≤ toLex (endPlace (front ++ middle)) ∧
      (endPlace front = endPlace (front ++ middle) → middle = []) := by
  rw [Prod.Lex.toLex_le_toLex, endPlace, endPlace, List.count_append]
  by_cases single : '\n' ∈ middle
  · have more := List.count_pos_iff.mpr single
    refine ⟨Or.inl (by simp only; omega), fun same => ?_⟩
    have lines := congrArg Prod.fst same
    simp only at lines
    omega
  · rw [List.count_eq_zero.mpr single, lastLine_append front single, unitSize_append]
    refine ⟨Or.inr ⟨rfl, by simp only; omega⟩, fun same => eq_nil_of_unitSize ?_⟩
    have columns := congrArg Prod.snd same
    simp only at columns
    omega

theorem units16_le_utf8Size (c : Char) : units16 c ≤ c.utf8Size := by
  unfold units16
  split
  next => exact c.utf8Size_pos
  next wide =>
    have wide : 65536 ≤ c.val.toNat := Nat.le_of_not_lt wide
    simp only [Char.utf8Size, UInt32.le_iff_toNat_le]
    rw [if_neg, if_neg, if_neg]
    · decide
    all_goals exact Nat.not_le_of_lt (Nat.lt_of_lt_of_le (by decide) wide)

theorem unitSize_le_byteSize (text : Text) : unitSize text ≤ byteSize text := by
  induction text with
  | nil => exact Nat.le_refl 0
  | cons c text ih => exact Nat.add_le_add (units16_le_utf8Size c) ih

theorem fromOne_eq (text : Text) (short : byteSize text + 1 < 0x100000000) :
    Report.fromOne (text.count '\n') = text.endPlace.1 ∧
      Report.fromOne (unitSize text.lastLine) = text.endPlace.2 := by
  have breaks := count_le_byteSize '\n' text
  have units := Nat.le_trans (unitSize_le_byteSize text.lastLine) (byteSize_lastLine_le text)
  constructor
  · rw [Report.fromOne, Nat.add_comm, endPlace, Nat.mod_eq_of_lt (by omega)]
  · rw [Report.fromOne, Nat.add_comm, endPlace, Nat.mod_eq_of_lt (by omega)]

end Text

/-- The diagnostic is about the text between two cuts of the source. -/
def Diagnostic.Within (d : Diagnostic) (source : Text) : Prop :=
  ∃ front middle back, source = front ++ middle ++ back ∧ d.start = Text.byteSize front ∧
    d.stop = Text.byteSize (front ++ middle)

theorem Linter.within_unreadable {source : String} {e : ParseError} (refused : Sheet.parse source = .error e)
    (short : Text.byteSize source.toList < 0x100000000) : (unreadable e).Within source.toList := by
  obtain ⟨e, wrong, rfl⟩ := Sheet.exists_error_of_parse refused
  rw [Source.kept_of_error wrong short]
  obtain ⟨front, rest, whole, -, isPlace, -⟩ := Source.blames_of_parse wrong
  have bytes : e.position.offset = Text.byteSize front := by
    rw [isPlace, Position.offset_past, Position.start, Nat.zero_add]
  refine ⟨front, [], rest, ?_, bytes, ?_⟩
  · rw [List.append_nil]
    exact whole
  · rw [List.append_nil]
    exact bytes

theorem Nesting.Match.within_diagnostic {source : String} {s : Sheet} (parsed : Sheet.parse source = .ok s)
    (short : Text.byteSize source.toList < 0x100000000) (m : Match) (session : Session) :
    (m.diagnostic s session).Within source.toList := by
  by_cases stored : m.rule1 < s.nodes.size
  · obtain ⟨front, back, semicolon, standing⟩ :=
      Sheet.exists_standing parsed (Sheet.under_root_of_parse parsed stored)
    exact ⟨front, _, back, standing.whole, standing.startOf_eq short, standing.stopOf_eq short⟩
  · have nowhere : s.source m.rule1 = none := by
      rw [Sheet.source, Sheet.node, Array.getD, dif_neg stored]
      rfl
    refine ⟨[], [], source.toList, rfl, ?_, ?_⟩ <;> rw [diagnostic, nowhere] <;> rfl

namespace Linter

variable {linter : Linter} {source filename : String} {d : Diagnostic}

theorem within_of_mem_lint (short : Text.byteSize source.toList < 0x100000000)
    (reported : d ∈ (linter.lint source filename).diagnostics) : d.Within source.toList := by
  change d ∈ (linter.run source false).2.diagnostics at reported
  rw [(counted_of_adds (linter.adds_run_of_report source)).1, List.mem_append] at reported
  rcases reported with problems | said
  · obtain ⟨message, -, rfl⟩ := List.mem_map.mp problems
    exact ⟨[], [], source.toList, rfl, rfl, rfl⟩
  · unfold verdict at said
    split at said
    next e refused =>
      obtain rfl := List.mem_singleton.mp said
      exact within_unreadable refused short
    next s parsed =>
      obtain ⟨rule, -, said⟩ := List.mem_flatMap.mp said
      rw [rule.report_eq (Sheet.laid_of_parse parsed).toWellFormed] at said
      split at said
      next =>
        rw [Nesting.findings_eq_map] at said
        obtain ⟨m, -, rfl⟩ := List.mem_map.mp said
        exact m.within_diagnostic parsed short _
      next => cases said

/-- Everything that a linter reports begins and ends between two characters of the source, the end not before
the beginning. In the report on that source, unless its numbers go round, the lines are counted by the line
breaks in front of the two cuts, the columns by the units of UTF-16 behind the last of them, and the two places
come in order, the same only if nothing is in between. -/
theorem message_of_mem_lint (short : Text.byteSize source.toList < 0x100000000)
    (reported : d ∈ (linter.lint source filename).diagnostics) :
    d.start ≤ d.stop ∧ d.stop ≤ Text.byteSize source.toList ∧
      ∃ front upTo, Text.slice? source.toList 0 d.start = some front ∧
        Text.slice? source.toList 0 d.stop = some upTo ∧
        (Text.byteSize source.toList + 1 < 0x100000000 →
          Report.message source.toList d = .object [
            ("ruleId", .string d.rule),
            ("severity", .ofNat (Report.severityCode d.severity)),
            ("message", .string d.message),
            ("line", .ofNat front.endPlace.1),
            ("column", .ofNat front.endPlace.2),
            ("endLine", .ofNat upTo.endPlace.1),
            ("endColumn", .ofNat upTo.endPlace.2)] ∧
          toLex front.endPlace ≤ toLex upTo.endPlace ∧
          (front.endPlace = upTo.endPlace → d.start = d.stop)) := by
  obtain ⟨front, middle, back, whole, isStart, isStop⟩ := within_of_mem_lint short reported
  obtain ⟨ordered, strict⟩ := Text.endPlace_append front middle
  have cut : source.toList = front ++ (middle ++ back) := by rw [whole, List.append_assoc]
  refine ⟨?_, ?_, front, front ++ middle, ?_, ?_, fun shorter => ⟨?_, ordered, fun same => ?_⟩⟩
  · rw [isStart, isStop, Text.byteSize_append]
    exact Nat.le_add_right _ _
  · rw [isStop, whole, Text.byteSize_append (front ++ middle)]
    exact Nat.le_add_right _ _
  · rw [cut, isStart]
    exact Text.slice?_append [] front (middle ++ back)
  · rw [whole, isStop]
    exact Text.slice?_append [] (front ++ middle) back
  · have first : Text.place source.toList d.start = (front.count '\n', Text.unitSize front.lastLine) := by
      rw [cut, isStart, Text.place_append]
    have last : Text.place source.toList d.stop =
        ((front ++ middle).count '\n', Text.unitSize (front ++ middle).lastLine) := by
      rw [whole, isStop, Text.place_append]
    rw [whole, Text.byteSize_append (front ++ middle)] at shorter
    obtain ⟨endLine, endColumn⟩ := Text.fromOne_eq (front ++ middle) (by omega)
    rw [Text.byteSize_append front] at shorter
    obtain ⟨line, column⟩ := Text.fromOne_eq front (by omega)
    simp only [Report.message, first, last, line, column, endLine, endColumn]
  · rw [isStart, isStop, strict same, List.append_nil]

/-- The second of two rules on the second line, behind a character that takes two units of UTF-16. -/
theorem message_of_mem_lint_surrogates :
    ∃ d ∈ (default.lint "a\x7b\x7d\n𝒳\x7b\x7d𝒳 b\x7b\x7d" "sheet.css").diagnostics,
      (d.start = 10 ∧ d.stop = 18) ∧
      ∃ front upTo, Text.slice? "a\x7b\x7d\n𝒳\x7b\x7d𝒳 b\x7b\x7d".toList 0 10 = some front ∧
        Text.slice? "a\x7b\x7d\n𝒳\x7b\x7d𝒳 b\x7b\x7d".toList 0 18 = some upTo ∧
        front.endPlace = (2, 5) ∧ upTo.endPlace = (2, 11) ∧
        Report.message "a\x7b\x7d\n𝒳\x7b\x7d𝒳 b\x7b\x7d".toList d = .object [
          ("ruleId", .string d.rule),
          ("severity", .ofNat (Report.severityCode d.severity)),
          ("message", .string d.message),
          ("line", .ofNat front.endPlace.1),
          ("column", .ofNat front.endPlace.2),
          ("endLine", .ofNat upTo.endPlace.1),
          ("endColumn", .ofNat upTo.endPlace.2)] := by
  have reports : ((default.lint "a\x7b\x7d\n𝒳\x7b\x7d𝒳 b\x7b\x7d" "sheet.css").diagnostics.map
      fun d => (d.start, d.stop)) = [(10, 18)] := by decide +kernel
  obtain ⟨d, reported, offsets⟩ := List.mem_map.mp (by rw [reports]; exact List.mem_singleton_self (10, 18))
  obtain ⟨start, stop⟩ := Prod.mk.inj offsets
  have bytes : Text.byteSize "a\x7b\x7d\n𝒳\x7b\x7d𝒳 b\x7b\x7d".toList = 18 := by decide +kernel
  obtain ⟨-, -, front, upTo, isFront, isUpTo, exact⟩ := message_of_mem_lint (by rw [bytes]; decide) reported
  obtain ⟨isMessage, -⟩ := exact (by rw [bytes]; decide)
  rw [start] at isFront
  rw [stop] at isUpTo
  refine ⟨d, reported, ⟨start, stop⟩, front, upTo, isFront, isUpTo, ?_, ?_, isMessage⟩
  · have known : (Text.slice? "a\x7b\x7d\n𝒳\x7b\x7d𝒳 b\x7b\x7d".toList 0 10).map Text.endPlace = some (2, 5) := by
      decide +kernel
    rw [isFront] at known
    exact Option.some.inj known
  · have known : (Text.slice? "a\x7b\x7d\n𝒳\x7b\x7d𝒳 b\x7b\x7d".toList 0 18).map Text.endPlace = some (2, 11) := by
      decide +kernel
    rw [isUpTo] at known
    exact Option.some.inj known

end Linter

theorem Position.past_blanks (n : Nat) (p : Position) :
    p.past (List.replicate n ' ') = ⟨n + p.offset, p.line, n + p.column⟩ := by
  induction n generalizing p with
  | zero => simp
  | succ n ih =>
    have one : ' '.utf8Size = 1 := rfl
    rw [List.replicate_succ, past_cons, ih, advance, if_neg (by decide), one]
    simp only [mk.injEq, true_and]
    omega

namespace Source

open Position

/-- Two rules on one line, the second of them full of blanks. -/
def blankLine (n : Nat) : Text :=
  'a' :: '{' :: '}' :: 'a' :: ' ' :: 'b' :: '{' :: (List.replicate n ' ' ++ ['}'])

def blankTree (blanks : Text) (stop : Position) : Tree Label :=
  .node
    { kind := .root, raws := { after := some [], semicolon := some false }, source := some ⟨start, stop⟩ }
    [.node
      { kind := .rule ['a'], raws := { before := some [], after := some [], between := some [] }
        source := some ⟨start, ⟨3, 1, 4⟩⟩ } [],
    .node
      { kind := .rule ['a', ' ', 'b'], raws := { before := some [], after := some blanks, between := some [] }
        source := some ⟨⟨3, 1, 4⟩, stop⟩ } []]

theorem parse_blankLine (n : Nat) :
    parse (blankLine n) = .ok (blankTree (List.replicate n ' ') ⟨n + 8, 1, n + 9⟩) := by
  have gap : ∀ c ∈ List.replicate n ' ', Text.isGap c = true := by
    intro c listed
    rw [List.eq_of_mem_replicate listed]
    rfl
  have noGap : ∀ c ∈ ([] : Text), Text.isGap c = true := by simp
  have first : cut (['a'] ++ ['{']) = .block ['a'] [] := by decide +kernel
  have second : cut (['a', ' ', 'b'] ++ ['{']) = .block ['a', ' ', 'b'] [] := by decide +kernel
  have opensFirst : step start (blankLine n) =
      .piece (.opening { kind := .rule ['a'], raws := { before := some [], between := some [] } } start ⟨1, 1, 2⟩)
        ⟨2, 1, 3⟩ ('}' :: 'a' :: ' ' :: 'b' :: '{' :: (List.replicate n ' ' ++ ['}'])) :=
    step_rule first ⟨'a', _, rfl, by decide, by decide, by decide, by simp⟩ _
  have closesFirst : step ⟨2, 1, 3⟩ ('}' :: 'a' :: ' ' :: 'b' :: '{' :: (List.replicate n ' ' ++ ['}'])) =
      .piece (.closing [] ⟨2, 1, 3⟩) ⟨3, 1, 4⟩ ('a' :: ' ' :: 'b' :: '{' :: (List.replicate n ' ' ++ ['}'])) :=
    step_close noGap _ _
  have opensSecond : step ⟨3, 1, 4⟩ ('a' :: ' ' :: 'b' :: '{' :: (List.replicate n ' ' ++ ['}'])) =
      .piece (.opening { kind := .rule ['a', ' ', 'b'], raws := { before := some [], between := some [] } }
        ⟨3, 1, 4⟩ ⟨6, 1, 7⟩) ⟨7, 1, 8⟩ (List.replicate n ' ' ++ ['}']) :=
    step_rule second ⟨'a', _, rfl, by decide, by decide, by decide, by simp⟩ _
  have closesSecond : step ⟨7, 1, 8⟩ (List.replicate n ' ' ++ ['}']) =
      .piece (.closing (List.replicate n ' ') ⟨n + 7, 1, n + 8⟩) ⟨n + 8, 1, n + 9⟩ [] := by
    rw [step_close gap, past_blanks]
    rfl
  have ends : step ⟨n + 8, 1, n + 9⟩ [] = .done [] ⟨n + 8, 1, n + 9⟩ := step_gap (by simp) _
  rw [parse, pieces_of_piece opensFirst, pieces_of_piece closesFirst, pieces_of_piece opensSecond,
    pieces_of_piece closesSecond, pieces_of_done ends]
  rfl

end Source

namespace Linter

open Source

theorem lint_blankLine (n : Nat) (filename : String) :
    ∃ d ∈ (default.lint (String.ofList (blankLine n)) filename).diagnostics,
      d.start = 3 ∧ d.stop = (n + 8) % 0x100000000 := by
  have read : parse (String.ofList (blankLine n)).toList =
      .ok (blankTree (List.replicate n ' ') ⟨n + 8, 1, n + 9⟩) := by
    rw [String.toList_ofList, parse_blankLine]
  have parsed := Sheet.parse_of_tree read
  have rules : List.filter (default : Linter).mayRun (default : Linter).rules = [{}] := rfl
  change ∃ d ∈ (default.run _ false).2.diagnostics, _
  rw [(counted_of_adds (default.adds_run_of_report _)).1, verdict, parsed]
  simp only [rules]
  rw [List.flatMap_singleton, Rule.report_eq {} (Sheet.laid_of_parse parsed).toWellFormed]
  exact ⟨_, List.mem_singleton_self _, rfl, rfl⟩

theorem blankLine_eq (n : Nat) :
    blankLine n = ['a', '{', '}', 'a', ' ', 'b', '{'] ++ List.replicate n ' ' ++ ['}'] := rfl

theorem byteSize_blankLine (n : Nat) : Text.byteSize (blankLine n) = n + 8 := by
  have blanks : Text.byteSize (List.replicate n ' ') = n := by
    have counted := congrArg Position.offset (Position.past_blanks n .start)
    rwa [Position.offset_past, Position.start, Nat.zero_add] at counted
  rw [blankLine_eq, Text.byteSize_append, Text.byteSize_append, blanks, Nat.add_comm _ n]
  rfl

theorem counts_blankLine (n : Nat) :
    (blankLine n).count '\n' = 0 ∧ Text.unitSize (blankLine n).lastLine = n + 8 := by
  have single : '\n' ∉ blankLine n := by simp [blankLine, List.mem_replicate]
  have line := Text.lastLine_append [] single
  have blanks : Text.unitSize (List.replicate n ' ') = n := by
    simp [Text.unitSize, List.map_replicate, List.sum_replicate, Text.units16]
  refine ⟨List.count_eq_zero.mpr single, ?_⟩
  rw [List.nil_append] at line
  rw [line, Text.unitSize_append, blankLine_eq, Text.unitSize_append, Text.unitSize_append, blanks]
  rw [Nat.add_comm _ n]
  exact Nat.zero_add _

theorem message_blankLine {n : Nat} {d : Diagnostic} (start : d.start = 3) (stop : d.stop = n + 8) :
    Report.message (blankLine n) d = .object [
      ("ruleId", .string d.rule),
      ("severity", .ofNat (Report.severityCode d.severity)),
      ("message", .string d.message),
      ("line", .ofNat 1),
      ("column", .ofNat 4),
      ("endLine", .ofNat 1),
      ("endColumn", .ofNat (Report.fromOne (n + 8)))] := by
  have first : Text.place (blankLine n) 3 = (0, 3) :=
    Text.place_append ['a', '{', '}'] ('a' :: ' ' :: 'b' :: '{' :: (List.replicate n ' ' ++ ['}']))
  have last := Text.place_append (blankLine n) []
  rw [List.append_nil, byteSize_blankLine, (counts_blankLine n).1, (counts_blankLine n).2] at last
  rw [Report.message, start, stop, first, last]
  rfl

/-- A rule that ends behind a line of 2 ^ 32 - 1 bytes: the number of its last column goes round, and the
report has it end before it begins. -/
theorem message_of_mem_lint_long_line :
    Text.byteSize (blankLine 4294967287) = 0xFFFFFFFF ∧
      (blankLine 4294967287).endPlace = (1, 0x100000000) ∧
      ∃ d ∈ (default.lint (String.ofList (blankLine 4294967287)) "sheet.css").diagnostics,
        d.start = 3 ∧ d.stop = 0xFFFFFFFF ∧
        Report.message (blankLine 4294967287) d = .object [
          ("ruleId", .string d.rule),
          ("severity", .ofNat (Report.severityCode d.severity)),
          ("message", .string d.message),
          ("line", .ofNat 1),
          ("column", .ofNat 4),
          ("endLine", .ofNat 1),
          ("endColumn", .ofNat 0)] := by
  obtain ⟨lines, columns⟩ := counts_blankLine 4294967287
  obtain ⟨d, reported, isStart, isStop⟩ := lint_blankLine 4294967287 "sheet.css"
  refine ⟨byteSize_blankLine _, ?_, d, reported, isStart, isStop, message_blankLine isStart isStop⟩
  rw [Text.endPlace, lines, columns]

end Linter

end NestLint
