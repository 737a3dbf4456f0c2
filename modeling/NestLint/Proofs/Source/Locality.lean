import NestLint.Proofs.Source.Accounting

/-!
Where a statement ends is settled by the statement itself. A lexeme is taken no matter what follows it,
as long as nothing turns a slash into the opening of a comment; so a scan that stops at a brace or a
semicolon stops there whatever comes behind, and a statement that ran up to the closing brace of its
block ends just as well with a semicolon.
-/

namespace NestLint

namespace Source

theorem closeComment?_local {text inner rest : Text} (found : closeComment? text = some (inner, rest))
    (rest' : Text) : closeComment? (inner ++ '*' :: '/' :: rest') = some (inner, rest') := by
  fun_induction closeComment? text generalizing inner with
  | case1 => simp at found
  | case2 =>
    simp only [Option.some.injEq, Prod.mk.injEq] at found
    rw [← found.1]
    rfl
  | case3 c cs other ih =>
    obtain ⟨⟨deeper, tail⟩, closed, same⟩ := Option.map_eq_some_iff.1 found
    simp only [Prod.mk.injEq] at same
    obtain ⟨rfl, rfl⟩ := same
    -- The close does not come earlier, since the first character inside is the same.
    have later : ∀ behind, c = '*' → deeper ++ '*' :: '/' :: rest' = '/' :: behind → False := by
      intro behind star slash
      cases deeper with
      | nil => simp at slash
      | cons d deeper =>
        rw [closeComment?_eq closed] at other
        exact other (deeper ++ '*' :: '/' :: tail) star (by rw [(List.cons.inj slash).1]; rfl)
    rw [List.cons_append, closeComment?, ih closed]
    · rfl
    · exact later

theorem closeQuote?_local {quote : Char} {text inner rest : Text}
    (found : closeQuote? quote text = some (inner, rest)) (rest' : Text) :
    closeQuote? quote (inner ++ rest') = some (inner, rest') := by
  fun_induction closeQuote? quote text generalizing inner with
  | case1 => simp at found
  | case2 => simp at found
  | case3 d ds ih =>
    obtain ⟨⟨deeper, _⟩, closed, same⟩ := Option.map_eq_some_iff.1 found
    simp only [Prod.mk.injEq] at same
    obtain ⟨rfl, rfl⟩ := same
    simp [closeQuote?, ih closed]
  | case4 cs visible =>
    simp only [Option.some.injEq, Prod.mk.injEq] at found
    rw [← found.1, List.singleton_append, closeQuote?.eq_def]
    simp [visible]
  | case5 c cs visible other ih =>
    obtain ⟨⟨deeper, _⟩, closed, same⟩ := Option.map_eq_some_iff.1 found
    simp only [Prod.mk.injEq] at same
    obtain ⟨rfl, rfl⟩ := same
    rw [List.cons_append, closeQuote?.eq_def]
    simp [visible, other, ih closed]

theorem closeQuote?_last {quote : Char} {text inner rest : Text}
    (found : closeQuote? quote text = some (inner, rest)) : ∃ body, inner = body ++ [quote] := by
  fun_induction closeQuote? quote text generalizing inner with
  | case1 => simp at found
  | case2 => simp at found
  | case3 d ds ih =>
    obtain ⟨⟨deeper, tail⟩, closed, same⟩ := Option.map_eq_some_iff.1 found
    simp only [Prod.mk.injEq] at same
    obtain ⟨rfl, rfl⟩ := same
    obtain ⟨body, rfl⟩ := ih closed
    exact ⟨_ :: d :: body, rfl⟩
  | case4 cs _ =>
    simp only [Option.some.injEq, Prod.mk.injEq] at found
    exact ⟨[], found.1.symm⟩
  | case5 c cs _ _ ih =>
    obtain ⟨⟨deeper, tail⟩, closed, same⟩ := Option.map_eq_some_iff.1 found
    simp only [Prod.mk.injEq] at same
    obtain ⟨rfl, rfl⟩ := same
    obtain ⟨body, rfl⟩ := ih closed
    exact ⟨c :: body, rfl⟩

theorem lexeme_cases {text unit rest : Text} (found : lexeme text = .taken unit rest) :
    (∃ d, unit = '\\' :: d) ∨
    (∃ quote body, (quote = '"' ∨ quote = '\'') ∧ unit = quote :: (body ++ [quote])) ∨
    (∃ body, unit = '/' :: '*' :: body ++ ['*', '/']) ∨
    ∃ c, unit = [c] ∧ c ≠ '\\' ∧ c ≠ '"' ∧ c ≠ '\'' ∧ (c = '/' → rest.head? ≠ some '*') := by
  cases text with
  | nil => simp [lexeme] at found
  | cons c cs =>
    simp only [lexeme] at found
    split at found
    next escape =>
      simp only [Lexeme.taken.injEq] at found
      exact Or.inl ⟨_, by rw [← found.1, escape]⟩
    next noEscape =>
      split at found
      next quoted =>
        split at found
        next inner tail closed =>
          simp only [Lexeme.taken.injEq] at found
          obtain ⟨body, rfl⟩ := closeQuote?_last closed
          exact Or.inr (Or.inl ⟨c, body, quoted, found.1.symm⟩)
        next => simp at found
      next noQuote =>
        rw [not_or] at noQuote
        split at found
        next slash =>
          split at found
          next inner tail closed =>
            simp only [Lexeme.taken.injEq] at found
            exact Or.inr (Or.inr (Or.inl ⟨inner, found.1.symm⟩))
          next => simp at found
        next noComment =>
          simp only [Lexeme.taken.injEq] at found
          refine Or.inr (Or.inr (Or.inr ⟨c, found.1.symm, noEscape, noQuote.1, noQuote.2, ?_⟩))
          intro isSlash star
          exact noComment ⟨isSlash, found.2 ▸ star⟩

theorem lexeme_slash {text rest : Text} (found : lexeme text = .taken ['/'] rest) :
    rest.head? ≠ some '*' := by
  rcases lexeme_cases found with
    ⟨d, same⟩ | ⟨quote, body, isQuote, same⟩ | ⟨body, same⟩ | ⟨c, same, _, _, _, apart⟩
  · simp at same
  · simp at same
  · simp at same
  · exact apart (List.cons.inj same).1.symm

theorem lexeme_local {text unit rest : Text} (found : lexeme text = .taken unit rest) (rest' : Text)
    (escape : unit ≠ ['\\']) (slash : unit = ['/'] → rest'.head? ≠ some '*') :
    lexeme (unit ++ rest') = .taken unit rest' := by
  cases text with
  | nil => simp [lexeme] at found
  | cons c cs =>
    simp only [lexeme] at found
    split at found
    next isEscape =>
      simp only [Lexeme.taken.injEq] at found
      obtain ⟨rfl, rfl⟩ := found
      cases cs with
      | nil => exact absurd (by rw [isEscape]; rfl) escape
      | cons d ds => simp [lexeme, isEscape]
    next noEscape =>
      split at found
      next quoted =>
        split at found
        next inner tail closed =>
          simp only [Lexeme.taken.injEq] at found
          obtain ⟨rfl, rfl⟩ := found
          simp [lexeme, noEscape, quoted, closeQuote?_local closed rest']
        next => simp at found
      next noQuote =>
        split at found
        next isSlash =>
          split at found
          next inner tail closed =>
            simp only [Lexeme.taken.injEq] at found
            obtain ⟨rfl, rfl⟩ := found
            simp [lexeme, closeComment?_local closed rest']
          next => simp at found
        next noComment =>
          simp only [Lexeme.taken.injEq] at found
          obtain ⟨rfl, rfl⟩ := found
          have still : ¬ (c = '/' ∧ rest'.head? = some '*') := by
            rintro ⟨rfl, star⟩
            exact slash rfl star
          rw [List.singleton_append, lexeme, if_neg noEscape, if_neg noQuote, if_neg still]

theorem scan_of_taken {depth : Depth} {text unit rest : Text} (found : lexeme text = .taken unit rest)
    (passes : depth.stops unit = false) : scan depth text = (scan (depth.past unit) rest).behind unit := by
  rw [scan]
  split
  next none => rw [none] at found; cases found
  next flaw flawed => rw [flawed] at found; cases found
  next unit' rest' taken =>
    rw [taken, Lexeme.taken.injEq] at found
    obtain ⟨rfl, rfl⟩ := found
    rw [passes]
    rfl

theorem scan_of_stops {depth : Depth} {text unit rest : Text} (found : lexeme text = .taken unit rest)
    (stops : depth.stops unit = true) : scan depth text = .stopped [] text := by
  rw [scan]
  split
  next none => rw [none] at found; cases found
  next flaw flawed => rw [flawed] at found; cases found
  next unit' rest' taken =>
    rw [taken, Lexeme.taken.injEq] at found
    obtain ⟨rfl, rfl⟩ := found
    rw [if_pos stops]

def isStop (c : Char) : Bool := c == '{' || c == ';' || c == '}'

theorem lexeme_of_isStop {c : Char} (cs : Text) (stop : isStop c = true) :
    lexeme (c :: cs) = .taken [c] cs := by
  simp only [isStop, Bool.or_eq_true, beq_iff_eq] at stop
  rcases stop with (rfl | rfl) | rfl <;> simp [lexeme]

theorem stops_of_isStop {depth : Depth} {c : Char} (stop : isStop c = true) :
    depth.stops [c] = true ↔ depth = {} := by
  obtain ⟨round, square⟩ := depth
  simp only [isStop, Bool.or_eq_true, beq_iff_eq] at stop
  rcases stop with (rfl | rfl) | rfl <;> simp [Depth.stops]

theorem scan_of_isStop {c : Char} (cs : Text) (stop : isStop c = true) :
    scan {} (c :: cs) = .stopped [] (c :: cs) :=
  scan_of_stops (lexeme_of_isStop cs stop) ((stops_of_isStop stop).mpr rfl)

theorem eq_nil_of_lexeme {text : Text} (nothing : lexeme text = .none) : text = [] := by
  cases text with
  | nil => rfl
  | cons c cs => simp only [lexeme] at nothing; grind

theorem scan_cases {depth : Depth} {text region rest : Text}
    (found : scan depth text = .stopped region rest) :
    (region = [] ∧ (text = [] ∨ ∃ unit tail, lexeme text = .taken unit tail ∧ depth.stops unit = true)) ∨
    ∃ unit tail inner, lexeme text = .taken unit tail ∧ depth.stops unit = false ∧
      region = unit ++ inner ∧ scan (depth.past unit) tail = .stopped inner rest := by
  rw [scan] at found
  split at found
  next nothing => exact Or.inl ⟨(Scan.stopped.inj found).1.symm, Or.inl (eq_nil_of_lexeme nothing)⟩
  next => cases found
  next unit tail taken =>
    split at found
    next stops => exact Or.inl ⟨(Scan.stopped.inj found).1.symm, Or.inr ⟨unit, tail, taken, stops⟩⟩
    next passes =>
      cases deeper : scan (depth.past unit) tail with
      | flawed flaw before => rw [deeper] at found; cases found
      | stopped inner rest' =>
        rw [deeper, Scan.behind, Scan.stopped.injEq] at found
        obtain ⟨rfl, rfl⟩ := found
        exact Or.inr ⟨unit, tail, inner, taken, by simpa using passes, rfl, deeper⟩

theorem eq_of_stops {depth : Depth} {unit : Text} (stops : depth.stops unit = true) :
    depth = {} ∧ ∃ c, unit = [c] ∧ isStop c = true := by
  obtain ⟨round, square⟩ := depth
  simp only [Depth.stops, Bool.and_eq_true, Bool.or_eq_true, beq_iff_eq] at stops
  obtain ⟨⟨rfl, rfl⟩, (rfl | rfl) | rfl⟩ := stops
  · exact ⟨rfl, '{', rfl, rfl⟩
  · exact ⟨rfl, ';', rfl, rfl⟩
  · exact ⟨rfl, '}', rfl, rfl⟩

theorem stops_of_not_isStop {c : Char} (depth : Depth) (passes : isStop c = false) :
    depth.stops [c] = false := by
  rw [← Bool.not_eq_true]
  intro stops
  obtain ⟨-, d, same, isStop⟩ := eq_of_stops stops
  rw [(List.cons.inj same).1, isStop] at passes
  cases passes

/-- The characters that open, close or escape something. -/
def isSpecial (c : Char) : Bool := ['\\', '"', '\'', '/', '(', ')', '[', ']'].contains c

theorem lexeme_of_not_isSpecial {c : Char} (cs : Text) (plain : isSpecial c = false) :
    lexeme (c :: cs) = .taken [c] cs := by
  simp [isSpecial] at plain
  simp [lexeme, plain]

theorem past_of_not_isSpecial {c : Char} (depth : Depth) (plain : isSpecial c = false) :
    depth.past [c] = depth := by
  simp [isSpecial] at plain
  unfold Depth.past
  split <;> simp_all

theorem not_isSpecial_of_isBlank {c : Char} (blank : Text.isBlank c = true) : isSpecial c = false := by
  rw [isSpecial, List.contains_eq_mem, decide_eq_false_iff_not]
  intro listed
  have none : ∀ d ∈ ['\\', '"', '\'', '/', '(', ')', '[', ']'], Text.isBlank d = false := by
    simp [Text.isBlank]
  rw [none c listed] at blank
  cases blank

theorem not_isStop_of_isBlank {c : Char} (blank : Text.isBlank c = true) : isStop c = false := by
  simp [isStop, ne_of_isBlank blank (d := '{') (by decide), ne_of_isBlank blank (d := ';') (by decide),
    ne_of_isBlank blank (d := '}') (by decide)]

theorem depth_of_blanks {depth : Depth} {blanks : Text} {c : Char} {rest : Text}
    (all : ∀ b ∈ blanks, Text.isBlank b = true)
    (found : scan depth (blanks ++ c :: rest) = .stopped blanks (c :: rest)) : depth = {} := by
  induction blanks with
  | nil =>
    rcases scan_cases found with ⟨-, none | ⟨unit, tail, -, stops⟩⟩ | ⟨unit, tail, inner, taken, -, same, -⟩
    · cases none
    · exact (eq_of_stops stops).1
    · exact absurd (List.append_eq_nil_iff.mp same.symm).1 (lexeme_eq taken).2
  | cons b blanks ih =>
    have blank := all b List.mem_cons_self
    rw [List.cons_append, scan_of_taken (lexeme_of_isBlank _ blank)
      (stops_of_not_isStop depth (not_isStop_of_isBlank blank)),
      past_of_not_isSpecial depth (not_isSpecial_of_isBlank blank)] at found
    cases deeper : scan depth (blanks ++ c :: rest) with
    | flawed flaw before => rw [deeper] at found; cases found
    | stopped inner rest' =>
      rw [deeper, Scan.behind, Scan.stopped.injEq, List.singleton_append, List.cons.injEq] at found
      obtain ⟨⟨-, rfl⟩, rfl⟩ := found
      exact ih (fun d later => all d (List.mem_cons_of_mem b later)) deeper

theorem lexeme_last {text unit rest front : Text} {c : Char} (found : lexeme text = .taken unit rest)
    (escape : '\\' ∉ unit) (whole : unit = front ++ [c]) (several : front ≠ []) :
    Text.isBlank c = false := by
  have last : unit.getLast? = some c := by rw [whole, List.getLast?_concat]
  rcases lexeme_cases found with ⟨d, rfl⟩ | ⟨quote, body, isQuote, rfl⟩ | ⟨body, rfl⟩ | ⟨d, rfl, -⟩
  · exact absurd List.mem_cons_self escape
  · rw [← List.cons_append, List.getLast?_concat, Option.some.injEq] at last
    rw [← last]
    rcases isQuote with rfl | rfl <;> decide
  · rw [List.getLast?_append, List.getLast?_cons_cons, List.getLast?_singleton, Option.some_or,
      Option.some.injEq] at last
    rw [← last]
    decide
  · exact absurd (List.append_eq_singleton_iff.mp whole.symm) (by simp [several])

/-- A statement ends in the same place whatever stops it and whatever comes behind, and the blanks at
its end can go, since no lexeme reaches into them. -/
theorem scan_swap {depth : Depth} {region blanks : Text} {c c' : Char} {rest : Text}
    (found : scan depth (region ++ (blanks ++ c :: rest)) = .stopped (region ++ blanks) (c :: rest))
    (all : ∀ b ∈ blanks, Text.isBlank b = true)
    (escape : '\\' ∉ region) (stop : isStop c' = true) (rest' : Text) :
    scan depth (region ++ c' :: rest') = .stopped region (c' :: rest') := by
  by_cases nothing : region = []
  · subst nothing
    rw [depth_of_blanks all found]
    exact scan_of_isStop rest' stop
  rcases scan_cases found with ⟨none, -⟩ | ⟨unit, tail, inner, taken, passes, whole, deeper⟩
  · exact absurd (List.append_eq_nil_iff.mp none).1 nothing
  have escapeUnit : '\\' ∉ unit := by
    intro listed
    rcases List.mem_append.mp (whole ▸ List.mem_append_left inner listed) with inside | blank
    · exact escape inside
    · exact ne_of_isBlank (all _ blank) (by decide) rfl
  -- The lexeme stands in the part that stays.
  obtain ⟨front, isRegion, rfl⟩ : ∃ front, region = unit ++ front ∧ inner = front ++ blanks := by
    rcases List.append_eq_append_iff.mp whole with ⟨beyond, isUnit, rfl⟩ | ⟨front, isRegion, rfl⟩
    · rcases List.eq_nil_or_concat beyond with rfl | ⟨body, last, rfl⟩
      · exact ⟨[], by simpa using isUnit.symm, by simp⟩
      · rw [List.concat_eq_append, ← List.append_assoc] at isUnit
        have blank : Text.isBlank last = true := all last (by simp)
        have seen := lexeme_last taken escapeUnit isUnit (by simp [nothing])
        rw [blank] at seen
        cases seen
    · exact ⟨front, isRegion, rfl⟩
  have escapeFront : '\\' ∉ front :=
    fun listed => escape (isRegion ▸ List.mem_append_right unit listed)
  obtain ⟨source, some⟩ := lexeme_eq taken
  rw [isRegion, List.append_assoc, List.append_cancel_left_eq] at source
  rw [← source] at deeper
  have later := scan_swap deeper all escapeFront stop rest'
  have slash : unit = ['/'] → (front ++ c' :: rest').head? ≠ Option.some '*' := by
    rintro rfl
    cases front with
    | nil =>
      rw [List.nil_append, List.head?_cons, Ne, Option.some.injEq]
      rintro rfl
      simp [isStop] at stop
    | cons d front =>
      have apart := lexeme_slash taken
      rwa [← source] at apart
  have noEscape : unit ≠ ['\\'] := by
    rintro rfl
    exact escapeUnit List.mem_cons_self
  have next := lexeme_local taken (front ++ c' :: rest') noEscape slash
  rw [isRegion, List.append_assoc, scan_of_taken next passes, later]
  rfl
termination_by region.length
decreasing_by
  have := List.length_pos_iff.mpr (lexeme_eq taken).2
  rw [isRegion, List.length_append]
  omega

theorem eq_nil_of_lexeme_escape {text rest : Text} (found : lexeme text = .taken ['\\'] rest) : rest = [] := by
  obtain ⟨rfl, -⟩ := lexeme_eq found
  cases rest with
  | nil => rfl
  | cons d rest => simp [lexeme] at found

theorem scan_local {depth : Depth} {region : Text} {c : Char} {rest rest' : Text}
    (found : scan depth (region ++ c :: rest) = .stopped region (c :: rest))
    (stops : ∀ d ∈ rest'.head?, isStop d = true) :
    scan depth (region ++ rest') = .stopped region rest' := by
  by_cases nothing : region = []
  · subst nothing
    rw [depth_of_blanks (List.forall_mem_nil _) found]
    cases rest' with
    | nil => exact scan_trailing [] [] (by simp) (Or.inl rfl)
    | cons d rest' => exact scan_of_isStop rest' (stops d rfl)
  rcases scan_cases found with ⟨none, -⟩ | ⟨unit, tail, inner, taken, passes, whole, deeper⟩
  · exact absurd none nothing
  obtain ⟨source, some⟩ := lexeme_eq taken
  rw [whole, List.append_assoc, List.append_cancel_left_eq] at source
  rw [← source] at taken deeper
  have escape : unit ≠ ['\\'] := by
    rintro rfl
    exact absurd (eq_nil_of_lexeme_escape taken) (by simp)
  have slash : unit = ['/'] → (inner ++ rest').head? ≠ Option.some '*' := by
    rintro rfl
    cases inner with
    | nil =>
      intro star
      exact absurd (stops '*' star) (by decide)
    | cons d inner => simpa using lexeme_slash taken
  have next := lexeme_local taken (inner ++ rest') escape slash
  rw [whole, List.append_assoc, scan_of_taken next passes, scan_local deeper stops]
  rfl
termination_by region.length
decreasing_by
  have := List.length_pos_iff.mpr some
  rw [whole, List.length_append]
  omega

theorem cut_eq_block_iff {text region rest : Text} :
    cut text = .block region rest ↔ scan {} text = .stopped region ('{' :: rest) := by
  constructor
  · intro found
    unfold cut at found
    split at found <;> simp only [Cut.block.injEq, reduceCtorEq] at found
    next stopped =>
      obtain ⟨rfl, rfl⟩ := found
      exact stopped
  · intro stopped
    simp [cut, stopped]

theorem cut_eq_ended_iff {text region rest : Text} :
    cut text = .ended region rest ↔ scan {} text = .stopped region (';' :: rest) := by
  constructor
  · intro found
    unfold cut at found
    split at found <;> simp only [Cut.ended.injEq, reduceCtorEq] at found
    next stopped =>
      obtain ⟨rfl, rfl⟩ := found
      exact stopped
  · intro stopped
    simp [cut, stopped]

/-- An unended statement in a block stops at the closing brace, and the blanks before the brace are no
part of it. -/
theorem cut_eq_unended_iff {text region after tail : Text} (gap : ∀ c ∈ after, Text.isBlank c = true) :
    cut text = .unended region (after ++ '}' :: tail) ↔
      scan {} text = .stopped (region ++ after) ('}' :: tail) ∧ Text.trimEnd region = region := by
  have noBrace : ∀ {blanks : Text}, (∀ c ∈ blanks, Text.isBlank c = true) → '}' ∉ blanks :=
    fun all listed => ne_of_isBlank (all _ listed) (by decide) rfl
  constructor
  · intro found
    unfold cut at found
    split at found <;> simp only [Cut.unended.injEq, reduceCtorEq] at found
    next whole stop noBlock noSemicolon stopped =>
      obtain ⟨rfl, same⟩ := found
      have cutOff := noBrace (Text.of_mem_splitEnd Text.isBlank whole)
      rcases scan_stop stopped with rfl | ⟨c, rest, rfl, rfl | rfl | rfl⟩
      · rw [List.append_nil] at same
        exact absurd (same ▸ List.mem_append_right after List.mem_cons_self) cutOff
      · exact absurd rfl (noBlock rest)
      · exact absurd rfl (noSemicolon rest)
      · obtain ⟨rfl, rfl⟩ := Text.append_cons_inj cutOff (noBrace gap) same
        rw [Text.splitEnd_append]
        exact ⟨stopped, Text.trimEnd_trimEnd whole⟩
  · rintro ⟨stopped, trimmed⟩
    simp [cut, stopped, Text.splitEnd_append_of_all trimmed gap]

theorem cut_block_local {text region rest : Text} (found : cut text = .block region rest)
    (rest' : Text) : cut (region ++ '{' :: rest') = .block region rest' := by
  have source := cut_block found
  rw [cut_eq_block_iff] at found ⊢
  rw [source] at found
  exact scan_local found (by simp [isStop])

theorem cut_ended_local {text region rest : Text} (found : cut text = .ended region rest)
    (rest' : Text) : cut (region ++ ';' :: rest') = .ended region rest' := by
  have source := cut_ended found
  rw [cut_eq_ended_iff] at found ⊢
  rw [source] at found
  exact scan_local found (by simp [isStop])

theorem cut_unended_local {text region after tail : Text}
    (found : cut text = .unended region (after ++ '}' :: tail)) (escape : '\\' ∉ text)
    (gap : ∀ c ∈ after, Text.isBlank c = true) (rest : Text) :
    cut (region ++ ';' :: rest) = .ended region rest ∧
      cut (region ++ (after ++ '}' :: rest)) = .unended region (after ++ '}' :: rest) := by
  have source := cut_unended found
  rw [cut_eq_unended_iff gap] at found
  rw [source] at found escape
  have escapeFront : '\\' ∉ region ++ after := fun listed =>
    escape (by rw [← List.append_assoc]; exact List.mem_append_left _ listed)
  rw [cut_eq_ended_iff, cut_eq_unended_iff gap]
  refine ⟨?_, ?_, found.2⟩
  · exact scan_swap found.1 gap (fun listed => escapeFront (List.mem_append_left after listed)) rfl rest
  · rw [← List.append_assoc] at found ⊢
    exact scan_local found.1 (by simp [isStop])

/-- Nothing in the text opens, closes, escapes or ends anything. -/
def Inert (text : Text) : Prop := ∀ c ∈ text, isSpecial c = false ∧ isStop c = false

instance (text : Text) : Decidable (Inert text) :=
  decidable_of_iff ((text.all fun c => !isSpecial c && !isStop c) = true) (by simp [Inert])

theorem inert_of_isBlank {text : Text} (blank : ∀ c ∈ text, Text.isBlank c = true) : Inert text :=
  fun c listed => ⟨not_isSpecial_of_isBlank (blank c listed), not_isStop_of_isBlank (blank c listed)⟩

theorem inert_append {first second : Text} : Inert (first ++ second) ↔ Inert first ∧ Inert second :=
  List.forall_mem_append

theorem scan_of_inert {region : Text} {c : Char} (inert : Inert region) (stop : isStop c = true)
    (rest : Text) : scan {} (region ++ c :: rest) = .stopped region (c :: rest) := by
  induction region with
  | nil => exact scan_of_isStop rest stop
  | cons b region ih =>
    rw [Inert, List.forall_mem_cons] at inert
    rw [List.cons_append,
      scan_of_taken (lexeme_of_not_isSpecial _ inert.1.1) (stops_of_not_isStop _ inert.1.2),
      past_of_not_isSpecial _ inert.1.1, ih inert.2]
    rfl

theorem not_isStop_of_scan {text region rest : Text} (found : scan {} text = .stopped region rest)
    (plain : ∀ b ∈ region, isSpecial b = false) : ∀ b ∈ region, isStop b = false := by
  induction region generalizing text with
  | nil => simp
  | cons b region ih =>
    rw [List.forall_mem_cons] at plain ⊢
    have source := scan_eq found
    rcases scan_cases found with ⟨none, -⟩ | ⟨unit, tail, inner, taken, passes, whole, deeper⟩
    · cases none
    · rw [source, List.cons_append, lexeme_of_not_isSpecial _ plain.1, Lexeme.taken.injEq] at taken
      obtain ⟨rfl, rfl⟩ := taken
      rw [past_of_not_isSpecial _ plain.1] at deeper
      obtain rfl : region = inner := (List.cons.inj whole).2
      refine ⟨?_, ih deeper plain.2⟩
      rw [← Bool.not_eq_true]
      intro stop
      rw [(stops_of_isStop stop).mpr rfl] at passes
      cases passes

end Source

end NestLint
