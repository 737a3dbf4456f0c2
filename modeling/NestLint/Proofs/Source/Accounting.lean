import NestLint.Source.Parse
import NestLint.Proofs.Sheet.Written
import NestLint.Proofs.Text

/-!
Every character of a source stands in exactly one piece of its row. Each reader cuts its text into
parts that concatenate to what it has read, so the texts of the pieces, one after the other, and the
last gap make up the source. A statement that no semicolon ends is followed by a closing brace or
by nothing: whatever else could follow it would have been part of it.
-/

namespace NestLint

namespace Source

def Piece.spelled : Piece → Text
  | .comment label => label.before ++ label.leaf false
  | .statement label terminated => label.before ++ label.leaf terminated
  | .opening label _ _ => label.before ++ label.opening
  | .closing after _ => after ++ ['}']

/-- The label of a rule or of an at-rule with a block, as far as it is known at its brace. -/
def Heads (label : Label) : Prop :=
  label.raws.before.isSome ∧ label.raws.between.isSome ∧
    match label.kind with
    | .rule _ => True
    | .atRule _ _ hasBlock => hasBlock ∧ label.raws.afterName.isSome
    | _ => False

theorem isRoot_of_heads {head : Label} (heads : Heads head) : head.kind.isRoot = false := by
  obtain ⟨-, -, kinds⟩ := heads
  cases kind : head.kind <;> simp_all [Kind.isRoot]

def Stands (label : Label) (comment : Bool) : Prop :=
  label.raws.before.isSome ∧ label.Known ∧ label.kind.isContainer = false ∧
    label.kind.isComment = comment

theorem isRoot_of_stands {l : Label} {comment : Bool} (stands : Stands l comment) : l.kind.isRoot = false := by
  have leaf := stands.2.2.1
  cases kind : l.kind <;> simp_all [Kind.isContainer, Kind.isRoot]

def Piece.Known : Piece → Prop
  | .comment label => Stands label true
  | .statement label _ => Stands label false
  | .opening label _ _ => Heads label
  | .closing _ _ => True

theorem splitComment_append (inner : Text) :
    (splitComment inner).1 ++ (splitComment inner).2.1 ++ (splitComment inner).2.2 = inner := by
  unfold splitComment
  split
  · simp
  · simp only [List.append_assoc, Text.splitEnd_append, Text.splitBlanks_append]

theorem splitParams_append (region : Text) :
    (splitParams region).1 ++ (splitParams region).2.1 ++ (splitParams region).2.2 = region := by
  simp only [splitParams]
  split
  · simp
  · rw [Text.splitBlanks_append, Text.splitEnd_append]

theorem splitImportant_append (value : Text) :
    (splitImportant value).1 ++ (splitImportant value).2.getD [] = value := by
  simp only [splitImportant]
  split
  · simp
  · split
    · have upToMark := Text.splitEnd_append (· != '!') (Text.trimEnd value)
      have marked : (Text.splitEnd (· != '!') (Text.trimEnd value)).1 <+: value :=
        List.IsPrefix.trans ⟨_, upToMark⟩ (Text.isPrefix_trimEnd value)
      have inside : Text.trimEnd (Text.splitEnd (· != '!') (Text.trimEnd value)).1.dropLast <+:
          value :=
        ((Text.isPrefix_trimEnd _).trans (List.dropLast_prefix _)).trans marked
      exact (List.prefix_iff_eq_append.mp inside)
    · simp

theorem readDecl_spelled {before : Text} {start stop : Position} {region : Text} {label : Label}
    (terminated : Bool) (read : readDecl before start stop region = .ok label) :
    Stands label false ∧ label.before = before ∧
      label.leaf terminated = region ++ Sheet.ending terminated := by
  simp only [readDecl] at read
  split at read
  · simp at read
  next colon tail found =>
    split at read
    · simp at read
    · simp only [Except.ok.injEq] at read
      subst read
      refine ⟨⟨rfl, ⟨rfl, ?_⟩, rfl, rfl⟩, rfl, ?_⟩
      · exact id
      · have mark : (if (splitImportant (Text.splitBlanks tail).2).2.isSome then
            (splitImportant (Text.splitBlanks tail).2).2.getD [] else []) =
              (splitImportant (Text.splitBlanks tail).2).2.getD [] := by
          cases (splitImportant (Text.splitBlanks tail).2).2 <;> rfl
        have halves : region.takeWhile (· != ':') ++ colon :: tail = region := by
          rw [← found, List.takeWhile_append_dropWhile]
        simp only [Label.leaf, Option.getD_some, mark]
        calc
          _ = ((Text.splitEnd Text.isBlank (region.takeWhile (· != ':'))).1 ++
                (Text.splitEnd Text.isBlank (region.takeWhile (· != ':'))).2) ++
              colon :: ((Text.splitBlanks tail).1 ++
                ((splitImportant (Text.splitBlanks tail).2).1 ++
                  (splitImportant (Text.splitBlanks tail).2).2.getD [])) ++
              Sheet.ending terminated := by simp only [List.append_assoc, List.cons_append]
          _ = region ++ Sheet.ending terminated := by
            rw [splitImportant_append, Text.splitBlanks_append, Text.splitEnd_append, halves]

theorem atRuleLabel_spelled (before name region : Text) (hasBlock : Bool) :
    (atRuleLabel before name region hasBlock).head ++
      (atRuleLabel before name region hasBlock).raws.between.getD [] = '@' :: name ++ region := by
  have parts := splitParams_append region
  simp only [atRuleLabel, Label.head, Option.getD_some, List.append_assoc] at parts ⊢
  rw [parts]

/-- The text in front of a rest, when a reader gives a piece. -/
def Accounts (before text : Text) (piece : Piece) (rest : Text) : Prop :=
  piece.Known ∧ piece.spelled ++ rest = before ++ text

theorem readComment_accounts {before : Text} {start stop : Position} {text rest : Text}
    {piece : Piece} (read : readComment before start text = .piece piece stop rest) :
    Accounts before ('/' :: '*' :: text) piece rest := by
  simp only [readComment] at read
  split at read
  · simp at read
  next inner tail closed =>
    simp only [Step.piece.injEq] at read
    obtain ⟨rfl, -, rfl⟩ := read
    have parts := splitComment_append inner
    refine ⟨⟨rfl, ⟨rfl, rfl⟩, rfl, rfl⟩, ?_⟩
    simp only [Piece.spelled, Label.before, Label.leaf, Option.getD_some]
    rw [closeComment?_eq closed]
    simp only [List.cons_append, List.append_assoc, List.nil_append] at parts ⊢
    rw [← List.append_assoc (splitComment inner).2.1, ← List.append_assoc (splitComment inner).1,
      parts]

theorem readAtRule_accounts {before : Text} {start stop : Position} {text rest : Text}
    {piece : Piece} (read : readAtRule before start text = .piece piece stop rest) :
    Accounts before ('@' :: text) piece rest := by
  have halves : (text.takeWhile fun c => !endsName c) ++ (text.dropWhile fun c => !endsName c) =
      text := List.takeWhile_append_dropWhile
  simp only [readAtRule] at read
  generalize (text.takeWhile fun c => !endsName c) = name at halves read
  generalize (text.dropWhile fun c => !endsName c) = behind at halves read
  subst halves
  split at read
  · simp at read
  next region tail found =>
    simp only [Step.piece.injEq] at read
    obtain ⟨rfl, -, rfl⟩ := read
    refine ⟨⟨rfl, rfl, rfl, rfl⟩, ?_⟩
    rw [Piece.spelled, Label.opening, atRuleLabel_spelled, cut_block found]
    simp [Label.before, atRuleLabel]
  next region tail found =>
    simp only [Step.piece.injEq] at read
    obtain ⟨rfl, -, rfl⟩ := read
    refine ⟨⟨rfl, rfl, rfl, rfl⟩, ?_⟩
    have whole := atRuleLabel_spelled before name region false
    simp only [Piece.spelled, Label.before, Label.leaf, Label.head, atRuleLabel, Sheet.ending] at whole ⊢
    rw [whole, cut_ended found]
    simp
  next region tail found =>
    simp only [Step.piece.injEq] at read
    obtain ⟨rfl, -, rfl⟩ := read
    refine ⟨⟨rfl, rfl, rfl, rfl⟩, ?_⟩
    have whole := atRuleLabel_spelled before name region false
    simp only [Piece.spelled, Label.before, Label.leaf, Label.head, atRuleLabel, Sheet.ending] at whole ⊢
    rw [whole, cut_unended found]
    simp

theorem readPlain_accounts {before : Text} {start stop : Position} {text rest : Text}
    {piece : Piece} (read : readPlain before start text = .piece piece stop rest) :
    Accounts before text piece rest := by
  simp only [readPlain] at read
  split at read
  · simp at read
  next region tail found =>
    simp only [Step.piece.injEq] at read
    obtain ⟨rfl, -, rfl⟩ := read
    refine ⟨⟨rfl, rfl, trivial⟩, ?_⟩
    simp only [Piece.spelled, Label.before, Label.opening, Label.head, Option.getD_some]
    rw [Text.splitEnd_append, cut_block found]
    simp
  next region tail found =>
    split at read
    next label declared =>
      simp only [Step.piece.injEq] at read
      obtain ⟨rfl, -, rfl⟩ := read
      obtain ⟨known, isBefore, spelled⟩ := readDecl_spelled true declared
      refine ⟨known, ?_⟩
      rw [Piece.spelled, isBefore, spelled, cut_ended found]
      simp [Sheet.ending]
    next => simp at read
  next region tail found =>
    split at read
    next label declared =>
      simp only [Step.piece.injEq] at read
      obtain ⟨rfl, -, rfl⟩ := read
      obtain ⟨known, isBefore, spelled⟩ := readDecl_spelled false declared
      refine ⟨known, ?_⟩
      rw [Piece.spelled, isBefore, spelled, cut_unended found]
      simp [Sheet.ending]
    next => simp at read

theorem step_accounts {pos stop : Position} {text rest : Text} {piece : Piece}
    (read : step pos text = .piece piece stop rest) :
    piece.Known ∧ piece.spelled ++ rest = text := by
  have halves : text.takeWhile Text.isGap ++ text.dropWhile Text.isGap = text :=
    List.takeWhile_append_dropWhile
  simp only [step] at read
  generalize text.takeWhile Text.isGap = before at halves read
  generalize text.dropWhile Text.isGap = behind at halves read
  subst halves
  split at read
  · simp at read
  next tail =>
    simp only [Step.piece.injEq] at read
    obtain ⟨rfl, -, rfl⟩ := read
    exact ⟨trivial, by simp [Piece.spelled]⟩
  next tail => exact readAtRule_accounts read
  next c cs _ _ =>
    split at read
    next comment =>
      obtain ⟨rfl, second⟩ := comment
      have parts := readComment_accounts read
      cases cs with
      | nil => simp at second
      | cons d ds =>
        simp only [List.head?_cons, Option.some.injEq] at second
        subst second
        exact parts
    next => exact readPlain_accounts read

theorem step_done_gap {pos stop : Position} {text after : Text}
    (read : step pos text = .done after stop) :
    after = text.takeWhile Text.isGap ∧ text.dropWhile Text.isGap = [] := by
  simp only [step] at read
  split at read
  next nothing =>
    simp only [Step.done.injEq] at read
    exact ⟨read.1.symm, nothing⟩
  next => simp at read
  next =>
    simp only [readAtRule] at read
    split at read <;> simp at read
  next =>
    split at read
    · simp only [readComment] at read
      split at read <;> simp at read
    · simp only [readPlain] at read
      split at read <;> try split at read
      all_goals simp at read

theorem step_done {pos stop : Position} {text after : Text}
    (read : step pos text = .done after stop) : after = text := by
  obtain ⟨rfl, nothing⟩ := step_done_gap read
  have halves : text.takeWhile Text.isGap ++ text.dropWhile Text.isGap = text :=
    List.takeWhile_append_dropWhile
  rwa [nothing, List.append_nil] at halves

theorem pieces_of_piece {pos stop : Position} {text rest : Text} {piece : Piece}
    (read : step pos text = .piece piece stop rest) :
    pieces pos text = (piece :: (pieces stop rest).1, (pieces stop rest).2) := by
  rw [pieces]
  split
  next same =>
    rw [read, Step.piece.injEq] at same
    obtain ⟨rfl, rfl, rfl⟩ := same
    rfl
  next same => rw [read] at same; cases same
  next same => rw [read] at same; cases same

theorem pieces_of_done {pos stop : Position} {text after : Text} (read : step pos text = .done after stop) :
    pieces pos text = ([], .done after stop) := by
  rw [pieces]
  split
  next same => rw [read] at same; cases same
  next same =>
    rw [read, Step.done.injEq] at same
    obtain ⟨rfl, rfl⟩ := same
    rfl
  next same => rw [read] at same; cases same

theorem pieces_of_failed {pos : Position} {text : Text} {error : ParseError} (read : step pos text = .failed error) :
    pieces pos text = ([], .failed error) := by
  rw [pieces]
  split
  next same => rw [read] at same; cases same
  next same => rw [read] at same; cases same
  next same =>
    rw [read, Step.failed.injEq] at same
    rw [same]

def spelledRow (row : List Piece) : Text := row.flatMap Piece.spelled

theorem pieces_account (pos : Position) (text : Text) :
    (∀ piece ∈ (pieces pos text).1, piece.Known) ∧
      ∀ after stop, (pieces pos text).2 = .done after stop →
        spelledRow (pieces pos text).1 ++ after = text := by
  fun_induction pieces pos text with
  | case1 pos text piece stop rest read _ row ending later ih =>
    obtain ⟨known, spelled⟩ := step_accounts read
    rw [later] at ih
    refine ⟨?_, ?_⟩
    · intro other member
      rcases List.mem_cons.mp member with rfl | behind
      · exact known
      · exact ih.1 other behind
    · intro after stop ended
      rw [spelledRow, List.flatMap_cons, List.append_assoc]
      rw [← spelled, ← ih.2 after stop ended]
      rfl
  | case2 pos text after stop read =>
    refine ⟨by simp, ?_⟩
    intro after' stop' same
    simp only [Ending.done.injEq] at same
    rw [← same.1, step_done read]
    rfl
  | case3 pos text error read => exact ⟨by simp, by simp⟩

/-- What an unended statement leaves behind: blanks, and then a closing brace or nothing. -/
def Trailing (text : Text) : Prop :=
  ∃ blanks rest : Text, text = blanks ++ rest ∧ (∀ c ∈ blanks, Text.isBlank c = true) ∧
    (rest = [] ∨ ∃ tail, rest = '}' :: tail)

theorem scan_stop {depth : Depth} {text region rest : Text}
    (found : scan depth text = .stopped region rest) :
    rest = [] ∨ ∃ c tail, rest = c :: tail ∧ (c = '{' ∨ c = ';' ∨ c = '}') := by
  fun_induction scan depth text generalizing region with
  | case1 depth text nothing => simp_all
  | case2 => simp at found
  | case3 depth text unit tail taken _ stops =>
    simp only [Scan.stopped.injEq] at found
    obtain ⟨-, rfl⟩ := found
    have whole := (lexeme_eq taken).1
    simp only [Depth.stops, Bool.and_eq_true, Bool.or_eq_true, beq_iff_eq] at stops
    rcases stops.2 with (rfl | rfl) | rfl
    · exact Or.inr ⟨'{', tail, whole, Or.inl rfl⟩
    · exact Or.inr ⟨';', tail, whole, Or.inr (Or.inl rfl)⟩
    · exact Or.inr ⟨'}', tail, whole, Or.inr (Or.inr rfl)⟩
  | case4 depth text unit tail taken _ _ ih =>
    cases deeper : scan (depth.past unit) tail with
    | flawed => simp [deeper, Scan.behind] at found
    | stopped inner rest' =>
      simp only [deeper, Scan.behind, Scan.stopped.injEq] at found
      obtain ⟨-, rfl⟩ := found
      exact ih deeper

theorem cut_trailing {text region rest : Text} (found : cut text = .unended region rest) :
    Trailing rest := by
  unfold cut at found
  split at found <;> simp only [Cut.unended.injEq, reduceCtorEq] at found
  next whole tail noBrace noSemicolon stopped =>
    obtain ⟨-, rfl⟩ := found
    refine ⟨_, tail, rfl, Text.of_mem_splitEnd Text.isBlank whole, ?_⟩
    rcases scan_stop stopped with nothing | ⟨c, later, rfl, brace | semicolon | close⟩
    · exact Or.inl nothing
    · exact absurd (brace ▸ rfl) (noBrace later)
    · exact absurd (semicolon ▸ rfl) (noSemicolon later)
    · exact Or.inr ⟨later, by rw [close]⟩

theorem step_trailing {pos stop : Position} {text rest : Text} {label : Label}
    (read : step pos text = .piece (.statement label false) stop rest) : Trailing rest := by
  simp only [step] at read
  split at read
  · simp at read
  · simp at read
  · simp only [readAtRule] at read
    split at read <;> simp at read
    next found =>
      obtain ⟨-, -, rfl⟩ := read
      exact cut_trailing found
  · split at read
    · simp only [readComment] at read
      split at read <;> simp at read
    · simp only [readPlain] at read
      split at read <;> (try split at read) <;> simp at read
      next found _ _ _ =>
        obtain ⟨-, -, rfl⟩ := read
        exact cut_trailing found

theorem ne_of_isBlank {c d : Char} (blank : Text.isBlank c = true)
    (other : Text.isBlank d = false) : c ≠ d := by
  rintro rfl
  rw [blank] at other
  exact Bool.noConfusion other

theorem lexeme_of_isBlank {c : Char} (cs : Text) (blank : Text.isBlank c = true) :
    lexeme (c :: cs) = .taken [c] cs := by
  have escape : c ≠ '\\' := ne_of_isBlank blank (by decide)
  have double : c ≠ '"' := ne_of_isBlank blank (by decide)
  have single : c ≠ '\'' := ne_of_isBlank blank (by decide)
  have slash : c ≠ '/' := ne_of_isBlank blank (by decide)
  simp [lexeme, escape, double, single, slash]

theorem scan_trailing (blanks rest : Text) (all : ∀ c ∈ blanks, Text.isBlank c = true)
    (behind : rest = [] ∨ ∃ tail, rest = '}' :: tail) : scan {} (blanks ++ rest) = .stopped blanks rest := by
  induction blanks with
  | nil =>
    rcases behind with rfl | ⟨tail, rfl⟩
    · rw [List.nil_append, scan]
      rfl
    · rw [List.nil_append, scan]
      rfl
  | cons c cs ih =>
    have blank := all c List.mem_cons_self
    have opens : Depth.past {} [c] = {} := by
      unfold Depth.past
      split <;> simp_all [Text.isBlank]
    have passes : Depth.stops {} [c] = false := by
      have brace : c ≠ '{' := ne_of_isBlank blank (by decide)
      have semicolon : c ≠ ';' := ne_of_isBlank blank (by decide)
      have close : c ≠ '}' := ne_of_isBlank blank (by decide)
      simp [Depth.stops, brace, semicolon, close]
    rw [List.cons_append, scan]
    split
    next nothing => simp [lexeme_of_isBlank _ blank] at nothing
    next flawed => simp [lexeme_of_isBlank _ blank] at flawed
    next unit tail taken =>
      rw [lexeme_of_isBlank _ blank] at taken
      simp only [Lexeme.taken.injEq] at taken
      obtain ⟨rfl, rfl⟩ := taken
      rw [passes, opens, ih fun d later => all d (List.mem_cons_of_mem c later)]
      rfl

theorem trailing_dropWhile {text : Text} (trailing : Trailing text) :
    Trailing (text.dropWhile Text.isGap) := by
  obtain ⟨blanks, rest, rfl, all, behind⟩ := trailing
  induction blanks with
  | nil =>
    rcases behind with rfl | ⟨tail, rfl⟩
    · exact ⟨[], [], rfl, by simp, Or.inl rfl⟩
    · exact ⟨[], '}' :: tail, rfl, by simp, Or.inr ⟨tail, rfl⟩⟩
  | cons c cs ih =>
    rw [List.cons_append, List.dropWhile_cons]
    split
    · exact ih fun d later => all d (List.mem_cons_of_mem c later)
    · exact ⟨c :: cs, rest, rfl, all, behind⟩

theorem step_of_trailing {pos stop : Position} {text rest : Text} {piece : Piece}
    (trailing : Trailing text) (read : step pos text = .piece piece stop rest) :
    ∃ after brace, piece = .closing after brace := by
  obtain ⟨blanks, behind, same, all, stops⟩ := trailing_dropWhile trailing
  cases blanks with
  | nil =>
    rcases stops with rfl | ⟨tail, rfl⟩
    · simp [step, same] at read
    · simp only [step, same, List.nil_append, Step.piece.injEq] at read
      exact ⟨_, _, read.1.symm⟩
  | cons c cs =>
    -- A blank that is no gap starts a statement of its own, which holds nothing and is refused.
    have blank := all c List.mem_cons_self
    have atSign : c ≠ '@' := ne_of_isBlank blank (by decide)
    have close : c ≠ '}' := ne_of_isBlank blank (by decide)
    have slash : c ≠ '/' := ne_of_isBlank blank (by decide)
    have scanned := scan_trailing (c :: cs) behind all stops
    have nothing : cut (c :: cs ++ behind) = .unended [] (c :: cs ++ behind) := by
      rw [cut, scanned]
      rcases stops with rfl | ⟨tail, rfl⟩
      · simp [Text.splitEnd_of_all Text.isBlank (c :: cs) all]
      · simp [Text.splitEnd_of_all Text.isBlank (c :: cs) all]
    simp only [step, same, List.cons_append, slash, false_and, ↓reduceIte] at read
    rw [List.cons_append] at nothing
    simp only [readPlain, nothing, readDecl] at read
    simp at read

/-- A row in which nothing but a closing brace follows a statement without a semicolon; `opened`
says that such a statement stands right before the row. -/
def Orderly : Bool → List Piece → Prop
  | _, [] => True
  | _, .closing _ _ :: row => Orderly false row
  | opened, .comment _ :: row => opened = false ∧ Orderly false row
  | opened, .opening _ _ _ :: row => opened = false ∧ Orderly false row
  | opened, .statement _ terminated :: row => opened = false ∧ Orderly (!terminated) row

theorem Orderly.closing_or {opened : Bool} {piece : Piece} {row : List Piece}
    (later : Orderly (match piece with | .statement _ terminated => !terminated | _ => false) row)
    (closes : opened = true → ∃ after brace, piece = .closing after brace) :
    Orderly opened (piece :: row) := by
  have settled : (∀ after brace, piece ≠ .closing after brace) → opened = false := by
    intro other
    cases opened with
    | false => rfl
    | true =>
      obtain ⟨after, brace, same⟩ := closes rfl
      exact absurd same (other after brace)
  cases piece with
  | closing after brace => exact later
  | comment label => exact ⟨settled (by simp), later⟩
  | opening label start brace => exact ⟨settled (by simp), later⟩
  | statement label terminated => exact ⟨settled (by simp), later⟩

theorem pieces_orderly (pos : Position) (text : Text) (opened : Bool)
    (trailing : opened = true → Trailing text) : Orderly opened (pieces pos text).1 := by
  fun_induction pieces pos text generalizing opened with
  | case1 pos text piece stop rest read _ row ending later ih =>
    rw [later] at ih
    apply Orderly.closing_or
    · cases piece with
      | closing after brace => exact ih false (by simp)
      | comment label => exact ih false (by simp)
      | opening label start brace => exact ih false (by simp)
      | statement label terminated =>
        apply ih (!terminated)
        intro unended
        cases terminated with
        | true => simp at unended
        | false => exact step_trailing read
    · intro isOpen
      exact step_of_trailing (trailing isOpen) read
  | case2 pos text after stop read => trivial
  | case3 pos text error read => trivial

end Source

end NestLint
