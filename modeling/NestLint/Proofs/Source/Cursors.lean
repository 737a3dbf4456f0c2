import NestLint.Proofs.Source.Cuts
import NestLint.Proofs.Source.Locality

/-!
The loops of the reading byte by byte come to an end, and stop where the text says. A cursor at the beginning of a
character is a front of the text. An escape can leave it inside a character or behind the end; from inside a
character the loops pass on to the next one, for none of its bytes means anything to them.
-/

namespace NestLint

namespace Source

namespace Bytewise

open Text Position

section loops

theorem narrow_gapChars : ∀ c ∈ gapChars, c.utf8Size = 1 := narrow_of_all (by decide)

theorem mem_gapChars (c : Char) : c ∈ gapChars ↔ isGap c = true := by simp [gapChars, isGap, or_assoc]

theorem narrow_nameEnders : ∀ c ∈ nameEnders, c.utf8Size = 1 := narrow_of_all (by decide)

theorem mem_nameEnders (c : Char) : c ∈ nameEnders ↔ endsName c = true := by simp [nameEnders, endsName, or_assoc]

theorem skipGap_eq (front rest : Text) {gap : Text} (all : ∀ c ∈ gap, isGap c = true)
    (visible : ∀ c ∈ rest.head?, isGap c = false) :
    skipGap (front ++ (gap ++ rest)) (byteSize front) = byteSize (front ++ gap) := by
  induction gap generalizing front with
  | nil =>
    rw [skipGap_turn, byte?_front, List.nil_append, List.append_nil]
    cases rest with
    | nil => rfl
    | cons c rest =>
      by_cases one : c.utf8Size = 1
      · have outside : ascii c ∉ gapChars.map ascii := by
          rw [mem_map_ascii_iff narrow_gapChars one, mem_gapChars, visible c rfl]
          decide
        rw [byte?_narrow rest one]
        exact if_neg outside
      · obtain ⟨b, found, above⟩ := byte?_wide rest one c.utf8Size_pos
        rw [found]
        exact if_neg (not_mem_map_ascii narrow_gapChars above)
  | cons c gap ih =>
    have inside : c ∈ gapChars := (mem_gapChars c).mpr (all c List.mem_cons_self)
    have one := narrow_gapChars c inside
    have next := ih (front ++ [c]) fun d listed => all d (List.mem_cons_of_mem c listed)
    rw [byteSize_concat, one] at next
    simp only [List.append_assoc, List.cons_append, List.nil_append] at next
    rw [skipGap_turn, byte?_front, List.cons_append, byte?_narrow _ one]
    exact (if_pos ((mem_map_ascii_iff narrow_gapChars one).mpr inside)).trans next

theorem nameEnd_eq (front rest : Text) {name : Text} (named : ∀ c ∈ name, endsName c = false)
    (ends : ∀ c ∈ rest.head?, endsName c = true) :
    nameEnd (front ++ (name ++ rest)) (byteSize front) = byteSize (front ++ name) := by
  have passes : ∀ text i b, byte? text i = some b → 128 ≤ b.toNat → nameEnd text i = nameEnd text (i + 1) := by
    intro text i b found above
    rw [nameEnd_turn, found]
    exact if_neg (not_mem_map_ascii narrow_nameEnders above)
  induction name generalizing front with
  | nil =>
    rw [nameEnd_turn, byte?_front, List.nil_append, List.append_nil]
    cases rest with
    | nil => rfl
    | cons c rest =>
      have ender := (mem_nameEnders c).mpr (ends c rfl)
      have one := narrow_nameEnders c ender
      rw [byte?_narrow rest one]
      exact if_pos ((mem_map_ascii_iff narrow_nameEnders one).mpr ender)
  | cons c name ih =>
    have next := ih (front ++ [c]) fun d listed => named d (List.mem_cons_of_mem c listed)
    simp only [List.append_assoc, List.cons_append, List.nil_append] at next
    rw [List.cons_append, ← next]
    refine pass_char front (name ++ rest) _ (passes _) rfl fun one => ?_
    have inside : ascii c ∉ nameEnders.map ascii := by
      rw [mem_map_ascii_iff narrow_nameEnders one, mem_nameEnders, named c List.mem_cons_self]
      decide
    rw [nameEnd_turn, byte?_front, byte?_narrow _ one]
    exact if_neg inside

theorem findClose_above {bs : List UInt8} (above : ∀ b ∈ bs, 128 ≤ b.toNat) (more : List UInt8) :
    findClose (bs ++ more) = (findClose more).map (· + bs.length) := by
  induction bs with
  | nil => simp
  | cons b bs ih =>
    have other : b ≠ ascii '*' := by
      rintro rfl
      exact absurd (above _ List.mem_cons_self) (by decide)
    rw [List.cons_append, findClose, if_neg fun both => other both.1,
      ih fun b listed => above b (List.mem_cons_of_mem _ listed), Option.map_map]
    rfl

theorem findClose_eq (text : Text) : findClose (bytes text) = (closeComment? text).map (byteSize ∘ Prod.fst) := by
  fun_induction closeComment? text with
  | case1 => rfl
  | case2 rest =>
    rw [bytes_cons, bytes_cons, utf8EncodeChar_narrow (by decide), utf8EncodeChar_narrow (by decide)]
    exact if_pos ⟨rfl, rfl⟩
  | case3 c cs other ih =>
    have further : findClose (bytes (c :: cs)) = (findClose (bytes cs)).map (· + c.utf8Size) := by
      rw [bytes_cons]
      by_cases one : c.utf8Size = 1
      · have opens : ¬ (ascii c = ascii '*' ∧ (bytes cs).head? = some (ascii '/')) := by
          rw [ascii_inj one (by decide), List.head?_eq_getElem?]
          rintro ⟨rfl, second⟩
          obtain ⟨tail, rfl⟩ := List.head?_eq_some_iff.mp ((byte?_eq_ascii_iff cs (by decide)).mp second)
          exact other tail rfl rfl
        rw [utf8EncodeChar_narrow one, one]
        exact if_neg opens
      · rw [findClose_above (wide_byte one), String.length_utf8EncodeChar]
    rw [further, ih, Option.map_map, Option.map_map]
    congr 1
    funext halves
    exact Nat.add_comm _ _

theorem findCloseFrom?_eq (front rest : Text) : findCloseFrom? (front ++ rest) (byteSize front) =
    some ((closeComment? rest).map (byteSize ∘ Prod.fst)) := by
  rw [findCloseFrom?, if_pos (by rw [length_bytes, byteSize_append]; omega), drop_bytes, findClose_eq]

section quote

variable {opening : Nat} {quote : Char}

theorem quoteEnd_above (narrow : quote.utf8Size = 1) (text : Text) (i : Nat) (b : UInt8)
    (found : byte? text i = some b) (above : 128 ≤ b.toNat) :
    quoteEnd text opening (ascii quote) i = quoteEnd text opening (ascii quote) (i + 1) := by
  have noEscape : b ≠ ascii '\\' := by
    rintro rfl
    exact absurd above (by decide)
  have noQuote : b ≠ ascii quote := by
    rintro rfl
    have below := ascii_lt narrow
    omega
  rw [quoteEnd_turn, found]
  exact (if_neg noEscape).trans (if_neg noQuote)

theorem quoteEnd_eq (narrow : quote.utf8Size = 1) {p : Position} {source : Text}
    (isOpening : positionAt? source opening = some p) (front rest : Text) (whole : source = front ++ rest) :
    quoteEnd source opening (ascii quote) (byteSize front) = match closeQuote? quote rest with
      | some (inner, _) => pure (byteSize (front ++ inner))
      | none => throw (.unclosedString p) := by
  have ended : ∀ i, byte? source i = none →
      quoteEnd source opening (ascii quote) i = throw (.unclosedString p) := by
    intro i nothing
    rw [quoteEnd_turn, nothing]
    simp only [isOpening]
    rfl
  have escapes : ∀ front rest, source = front ++ '\\' :: rest →
      quoteEnd source opening (ascii quote) (byteSize front) =
        quoteEnd source opening (ascii quote) (byteSize front + 2) := by
    intro front rest whole
    rw [quoteEnd_turn, whole, byte?_front, byte?_narrow rest (by decide)]
    rfl
  fun_induction closeQuote? quote rest generalizing front with
  | case1 =>
    refine ended _ ?_
    rw [whole, byte?_front]
    rfl
  | case2 =>
    rw [escapes front [] whole]
    refine ended _ ?_
    rw [whole, byte?_append]
    rfl
  | case3 d ds ih =>
    rw [escapes front (d :: ds) whole,
      pass_escape front ds _ (quoteEnd_above narrow source) (by decide) whole,
      ih (front ++ ['\\', d]) (by rw [whole]; simp)]
    cases closeQuote? quote ds with
    | none => rfl
    | some halves => simp
  | case4 cs noEscape =>
    have escape : ascii quote ≠ ascii '\\' := fun same => noEscape ((ascii_inj narrow (by decide)).mp same)
    rw [quoteEnd_turn, whole, byte?_front, byte?_narrow cs narrow]
    simp only [escape, if_false, if_true, byteSize_concat, narrow]
  | case5 c cs noEscape other ih =>
    rw [pass_char front cs _ (quoteEnd_above narrow source) whole, ih (front ++ [c]) (by rw [whole]; simp)]
    · cases closeQuote? quote cs with
      | none => rfl
      | some halves => simp
    · intro one
      have escape : ascii c ≠ ascii '\\' := fun same => noEscape ((ascii_inj one (by decide)).mp same)
      have close : ascii c ≠ ascii quote := fun same => other ((ascii_inj one narrow).mp same)
      rw [quoteEnd_turn, whole, byte?_front, byte?_narrow cs one]
      simp only [escape, close, if_false]

end quote

section statement

variable {source : Text}

theorem statementEnd_above (round square : Nat) (text : Text) (i : Nat) (b : UInt8) (found : byte? text i = some b)
    (above : 128 ≤ b.toNat) : statementEnd text i round square = statementEnd text (i + 1) round square := by
  have other : ∀ c : Char, c.utf8Size = 1 → b ≠ ascii c := by
    rintro c narrow rfl
    have below := ascii_lt narrow
    omega
  have noStop : b ∉ ['{', ';', '}'].map ascii := not_mem_map_ascii (narrow_of_all (by decide)) above
  rw [statementEnd_turn, found]
  simp only [other '\\' (by decide), other '"' (by decide), other '\'' (by decide), other '/' (by decide),
    other '(' (by decide), other ')' (by decide), other '[' (by decide), other ']' (by decide), noStop,
    or_self, false_and, if_false]

theorem statementEnd_narrow {c : Char} (narrow : c.utf8Size = 1) (front rest : Text)
    (whole : source = front ++ c :: rest) (round square : Nat) :
    statementEnd source (byteSize front) round square =
      if c = '\\' then statementEnd source (byteSize front + 2) round square
      else if c = '"' ∨ c = '\'' then do
        let stop ← skipString source (byteSize front) (ascii c)
        statementEnd source stop round square
      else if c = '/' ∧ rest.head? = some '*' then do
        match ← findCloseFrom? source (byteSize front + 2) with
        | none => throw (.unclosedComment (← positionAt? source (byteSize front)))
        | some close => statementEnd source (byteSize front + 2 + close + 2) round square
      else if c = '(' then statementEnd source (byteSize front + 1) (round + 1) square
      else if c = ')' then statementEnd source (byteSize front + 1) (round - 1) square
      else if c = '[' then statementEnd source (byteSize front + 1) round (square + 1)
      else if c = ']' then statementEnd source (byteSize front + 1) round (square - 1)
      else if isStop c = true ∧ round = 0 ∧ square = 0 then pure (byteSize front, some (ascii c))
      else statementEnd source (byteSize front + 1) round square := by
  have same : ∀ d : Char, d.utf8Size = 1 → (ascii c = ascii d) = (c = d) := fun d narrow' =>
    propext (ascii_inj narrow narrow')
  have stops : (ascii c ∈ ['{', ';', '}'].map ascii) = (isStop c = true) := by
    rw [mem_map_ascii_iff (narrow_of_all (by decide)) narrow]
    simp [isStop, or_assoc]
  have second : byte? source (byteSize front + 1) = some (ascii '*') ↔ rest.head? = some '*' := by
    rw [whole, byte?_second front rest narrow (by decide)]
  have first : byte? source (byteSize front) = some (ascii c) := by rw [whole, byte?_front, byte?_narrow rest narrow]
  have turned := statementEnd_turn source (byteSize front) round square
  simp only [first, same '\\' (by decide), same '"' (by decide), same '\'' (by decide), same '/' (by decide),
    same '(' (by decide), same ')' (by decide), same '[' (by decide), same ']' (by decide), stops, second] at turned
  exact turned

theorem statementEnd_none {i : Nat} (nothing : byte? source i = none) (round square : Nat) :
    statementEnd source i round square = pure (byteSize source, none) := by
  rw [statementEnd_turn, nothing]
  exact congrArg (fun size => pure (size, none)) (length_bytes source)

theorem past_of_length (depth : Depth) {unit : Text} (long : 1 < unit.length) : depth.past unit = depth := by
  unfold Depth.past
  split <;> first | rfl | simp at long

theorem stops_of_length (depth : Depth) {unit : Text} (long : 1 < unit.length) : depth.stops unit = false := by
  rw [← Bool.not_eq_true]
  intro stops
  obtain ⟨-, c, rfl, -⟩ := eq_of_stops stops
  simp at long

def atScan (front : Text) : Scan → Attempt (Nat × Option UInt8)
  | .stopped region rest => pure (byteSize (front ++ region), byte? rest 0)
  | .flawed flaw before => throw (flaw.error (start.past (front ++ before)))

theorem atScan_behind (front unit : Text) (found : Scan) :
    atScan front (found.behind unit) = atScan (front ++ unit) found := by
  cases found <;> simp [Scan.behind, atScan]

def atLexeme (source : Text) (depth : Depth) (front rest : Text) : Lexeme → Attempt (Nat × Option UInt8)
  | .none => pure (byteSize front, none)
  | .flawed flaw => throw (flaw.error (start.past front))
  | .taken unit _ =>
    if depth.stops unit then pure (byteSize front, byte? rest 0)
    else statementEnd source (byteSize (front ++ unit)) (depth.past unit).round (depth.past unit).square

theorem atLexeme_of_length (depth : Depth) (front rest : Text) {unit : Text} (long : 1 < unit.length) (tail : Text) :
    atLexeme source depth front rest (.taken unit tail) =
      statementEnd source (byteSize (front ++ unit)) depth.round depth.square := by
  rw [atLexeme, stops_of_length depth long, past_of_length depth long]
  rfl

theorem statementEnd_escape (depth : Depth) (front cs : Text) (whole : source = front ++ '\\' :: cs) :
    statementEnd source (byteSize front) depth.round depth.square =
      atLexeme source depth front ('\\' :: cs) (lexeme ('\\' :: cs)) := by
  rw [statementEnd_narrow (by decide) front cs whole, if_pos rfl]
  cases cs with
  | nil =>
    have behind : ∀ i, byteSize front + 1 ≤ i → byte? source i = none := by
      intro i far
      rw [byte?_eq_none_iff, whole, byteSize_concat]
      exact far
    have passes : depth.stops ['\\'] = false := by simp [Depth.stops]
    have size : byteSize (front ++ ['\\']) = byteSize front + 1 := byteSize_concat front '\\'
    have found : lexeme ['\\'] = .taken ['\\'] [] := rfl
    rw [found, atLexeme, passes, statementEnd_none (behind _ (by omega))]
    exact (statementEnd_none (behind _ (by omega)) _ _).symm
  | cons d ds =>
    have found : lexeme ('\\' :: d :: ds) = .taken ['\\', d] ds := rfl
    rw [found, atLexeme_of_length _ _ _ (by simp)]
    exact pass_escape front ds (statementEnd source · depth.round depth.square) (statementEnd_above _ _ source)
      (by decide) whole

theorem statementEnd_quote (depth : Depth) (front cs : Text) {quote : Char} (isQuote : quote = '"' ∨ quote = '\'')
    (whole : source = front ++ quote :: cs) :
    statementEnd source (byteSize front) depth.round depth.square =
      atLexeme source depth front (quote :: cs) (lexeme (quote :: cs)) := by
  have narrow : quote.utf8Size = 1 := by
    rcases isQuote with rfl | rfl <;> decide
  have noEscape : quote ≠ '\\' := by
    rcases isQuote with rfl | rfl <;> decide
  have isPlace : positionAt? source (byteSize front) = some (start.past front) :=
    whole ▸ positionAt?_front front (quote :: cs)
  have inside := quoteEnd_eq narrow isPlace (front ++ [quote]) cs (by simp [whole])
  rw [byteSize_concat, narrow] at inside
  rw [statementEnd_narrow narrow front cs whole, if_neg noEscape, if_pos isQuote, skipString, inside, lexeme,
    if_neg noEscape, if_pos isQuote]
  cases closed : closeQuote? quote cs with
  | none => rfl
  | some halves =>
    obtain ⟨inner, tail⟩ := halves
    obtain ⟨body, isInner⟩ := closeQuote?_last closed
    have long : 1 < (quote :: inner).length := by simp [isInner]
    have ends : front ++ [quote] ++ inner = front ++ quote :: inner := by simp
    rw [atLexeme_of_length _ _ _ long, ← ends]
    rfl

theorem statementEnd_comment (depth : Depth) (front cs : Text) (whole : source = front ++ '/' :: '*' :: cs) :
    statementEnd source (byteSize front) depth.round depth.square =
      atLexeme source depth front ('/' :: '*' :: cs) (lexeme ('/' :: '*' :: cs)) := by
  have isPlace : positionAt? source (byteSize front) = some (start.past front) :=
    whole ▸ positionAt?_front front _
  have opens : byteSize (front ++ ['/', '*']) = byteSize front + 2 := by
    rw [byteSize_append]
    rfl
  have inside := findCloseFrom?_eq (front ++ ['/', '*']) cs
  rw [List.append_assoc, List.cons_append, List.cons_append, List.nil_append, ← whole, opens] at inside
  have found : lexeme ('/' :: '*' :: cs) = match closeComment? cs with
      | some (inner, rest) => .taken ('/' :: '*' :: inner ++ ['*', '/']) rest
      | none => .flawed .comment := rfl
  rw [statementEnd_narrow (by decide) front _ whole, if_neg (by decide), if_neg (by decide),
    if_pos ⟨rfl, rfl⟩, inside, isPlace, found]
  cases closeComment? cs with
  | none => rfl
  | some halves =>
    obtain ⟨inner, tail⟩ := halves
    have long : 1 < ('/' :: '*' :: inner ++ ['*', '/']).length := by simp
    have ends : byteSize (front ++ ('/' :: '*' :: inner ++ ['*', '/'])) = byteSize front + 2 + byteSize inner + 2 := by
      have closes : byteSize ['*', '/'] = 2 := rfl
      have whole : front ++ ('/' :: '*' :: inner ++ ['*', '/']) = front ++ ['/', '*'] ++ inner ++ ['*', '/'] := by simp
      rw [whole, byteSize_append, byteSize_append, opens, closes]
    rw [atLexeme_of_length _ _ _ long, ends]
    rfl

theorem narrow_of_isStop {c : Char} (stop : isStop c = true) : c.utf8Size = 1 := by
  simp only [isStop, Bool.or_eq_true, beq_iff_eq] at stop
  rcases stop with (rfl | rfl) | rfl <;> decide

theorem narrow_of_isSpecial {c : Char} (special : isSpecial c = true) : c.utf8Size = 1 := by
  have all : ∀ d ∈ ['\\', '"', '\'', '/', '(', ')', '[', ']'], d.utf8Size = 1 :=
    narrow_of_all (by decide)
  rw [isSpecial, List.contains_eq_mem, decide_eq_true_eq] at special
  exact all c special

theorem statementEnd_single (depth : Depth) (front cs : Text) {c : Char} (found : lexeme (c :: cs) = .taken [c] cs)
    (noEscape : c ≠ '\\') (noQuote : ¬ (c = '"' ∨ c = '\'')) (noComment : ¬ (c = '/' ∧ cs.head? = some '*'))
    (whole : source = front ++ c :: cs) :
    statementEnd source (byteSize front) depth.round depth.square =
      atLexeme source depth front (c :: cs) (lexeme (c :: cs)) := by
  rw [found, atLexeme]
  by_cases narrow : c.utf8Size = 1
  · rw [statementEnd_narrow narrow front cs whole, if_neg noEscape, if_neg noQuote, if_neg noComment,
      byteSize_concat, narrow, byte?_narrow cs narrow]
    by_cases special : isSpecial c = true
    · simp only [isSpecial, List.contains_eq_mem, List.mem_cons, List.not_mem_nil, or_false,
        decide_eq_true_eq] at special
      -- of these only the brackets, and a slash that opens no comment, are a lexeme by themselves
      rcases special with rfl | rfl | rfl | rfl | rfl | rfl | rfl | rfl
      · exact absurd rfl noEscape
      · exact absurd (Or.inl rfl) noQuote
      · exact absurd (Or.inr rfl) noQuote
      all_goals simp [Depth.stops, Depth.past, isStop]
    · have plain : isSpecial c = false := by simpa using special
      have others : c ≠ '(' ∧ c ≠ ')' ∧ c ≠ '[' ∧ c ≠ ']' := by
        refine ⟨?_, ?_, ?_, ?_⟩ <;> rintro rfl <;> exact absurd plain (by decide)
      have stops : depth.stops [c] = true ↔ isStop c = true ∧ depth.round = 0 ∧ depth.square = 0 := by
        obtain ⟨round, square⟩ := depth
        simp [Depth.stops, isStop, and_comm, or_assoc]
      rw [if_neg others.1, if_neg others.2.1, if_neg others.2.2.1, if_neg others.2.2.2,
        past_of_not_isSpecial depth plain]
      exact if_congr stops.symm rfl rfl
  · have noStop : isStop c = false := by simpa using mt narrow_of_isStop narrow
    have plain : isSpecial c = false := by simpa using mt narrow_of_isSpecial narrow
    rw [stops_of_not_isStop depth noStop, past_of_not_isSpecial depth plain]
    exact pass_char front cs (statementEnd source · depth.round depth.square) (statementEnd_above _ _ source) whole
      fun one => absurd one narrow

theorem statementEnd_lexeme (depth : Depth) (front rest : Text) (whole : source = front ++ rest) :
    statementEnd source (byteSize front) depth.round depth.square =
      atLexeme source depth front rest (lexeme rest) := by
  cases rest with
  | nil =>
    have nothing : byte? source (byteSize front) = none := by
      rw [whole, byte?_front]
      rfl
    have size : byteSize source = byteSize front := by rw [whole, List.append_nil]
    exact (statementEnd_none nothing _ _).trans (by rw [size]; rfl)
  | cons c cs =>
    by_cases noEscape : c = '\\'
    · subst noEscape
      exact statementEnd_escape depth front cs whole
    by_cases noQuote : c = '"' ∨ c = '\''
    · exact statementEnd_quote depth front cs noQuote whole
    by_cases noComment : c = '/' ∧ cs.head? = some '*'
    · obtain ⟨rfl, second⟩ := noComment
      obtain ⟨tail, rfl⟩ := List.head?_eq_some_iff.mp second
      exact statementEnd_comment depth front tail whole
    · have found : lexeme (c :: cs) = .taken [c] cs := by
        rw [lexeme, if_neg noEscape, if_neg noQuote, if_neg noComment]
      exact statementEnd_single depth front cs found noEscape noQuote noComment whole

theorem statementEnd_eq (depth : Depth) (front rest : Text) (whole : source = front ++ rest) :
    statementEnd source (byteSize front) depth.round depth.square = atScan front (scan depth rest) := by
  fun_induction scan depth rest generalizing front with
  | case1 depth rest nothing =>
    rw [statementEnd_lexeme depth front rest whole, nothing, atScan, List.append_nil]
    rfl
  | case2 depth rest flaw found =>
    rw [statementEnd_lexeme depth front rest whole, found, atScan, List.append_nil]
    rfl
  | case3 depth rest unit tail found _ stops =>
    rw [statementEnd_lexeme depth front rest whole, found, atLexeme, if_pos stops, atScan, List.append_nil]
  | case4 depth rest unit tail found _ passes ih =>
    have isRest := (lexeme_eq found).1
    rw [statementEnd_lexeme depth front rest whole, found, atLexeme, if_neg passes,
      ih (front ++ unit) (by rw [whole, isRest, List.append_assoc]), atScan_behind]

theorem scanStatement_eq (front rest : Text) :
    scanStatement (front ++ rest) (byteSize front) = atScan front (scan {} rest) :=
  statementEnd_eq {} front rest rfl

end statement

end loops

section progress

variable {α β : Type} {good : α → Prop} {better : β → Prop}

/-- The attempt comes to an end, and if it does not refuse the text, what it comes to is good. -/
def Returns (attempt : Attempt α) (good : α → Prop) : Prop :=
  ∃ outcome, attempt.run = some outcome ∧ ∀ a, outcome = .ok a → good a

theorem returns_pure {a : α} (isGood : good a) : Returns (pure a) good := by
  refine ⟨.ok a, rfl, ?_⟩
  rintro b ⟨⟩
  exact isGood

theorem returns_throw (error : ParseError) : Returns (throw error) good := by
  refine ⟨.error error, rfl, ?_⟩
  rintro a ⟨⟩

theorem Returns.bind {attempt : Attempt α} {next : α → Attempt β} (returns : Returns attempt good)
    (further : ∀ a, good a → Returns (next a) better) : Returns (attempt >>= next) better := by
  obtain ⟨outcome, run, results⟩ := returns
  cases outcome with
  | error error =>
    refine ⟨.error error, run_bind_error run next, ?_⟩
    rintro b ⟨⟩
  | ok a =>
    obtain ⟨outcome, run', results'⟩ := further a (results a rfl)
    exact ⟨outcome, (run_bind_ok run next).trans run', results'⟩

theorem Returns.mono {worse : α → Prop} {attempt : Attempt α} (returns : Returns attempt good)
    (weaker : ∀ a, good a → worse a) : Returns attempt worse := by
  obtain ⟨outcome, run, results⟩ := returns
  exact ⟨outcome, run, fun a same => weaker a (results a same)⟩

theorem Returns.and_of {other : α → Prop} {p : Prop} {attempt : Attempt α} (first : Returns attempt good)
    (second : p → Returns attempt other) : Returns attempt fun a => good a ∧ (p → other a) := by
  obtain ⟨outcome, run, results⟩ := first
  refine ⟨outcome, run, fun a same => ⟨results a same, fun holds => ?_⟩⟩
  obtain ⟨outcome', run', results'⟩ := second holds
  obtain rfl := Option.some.inj (run.symm.trans run')
  exact results' a same

variable {text : Text}

theorem returns_at (offset : Nat) (error : Position → ParseError) :
    Returns (α := α) (do throw (error (← positionAt? text offset))) good := by
  obtain ⟨p, found, -⟩ := exists_position text offset
  rw [found]
  exact returns_throw (error p)

theorem quoteEnd_returns (opening : Nat) (quote : UInt8) (i : Nat) :
    Returns (quoteEnd text opening quote i) fun stop => i < stop ∧ stop ≤ byteSize text := by
  rw [quoteEnd_turn]
  cases found : byte? text i with
  | none => exact returns_at opening .unclosedString
  | some b =>
    have inside := lt_of_byte? found
    dsimp only
    split
    · exact (quoteEnd_returns opening quote (i + 2)).mono fun stop ⟨far, less⟩ => ⟨by omega, less⟩
    · split
      · exact returns_pure ⟨by omega, inside⟩
      · exact (quoteEnd_returns opening quote (i + 1)).mono fun stop ⟨far, less⟩ => ⟨by omega, less⟩
termination_by byteSize text - i

theorem skipString_returns (opening : Nat) (quote : UInt8) :
    Returns (skipString text opening quote) fun stop => opening + 1 < stop ∧ stop ≤ byteSize text :=
  quoteEnd_returns opening quote (opening + 1)

/-- The end of a statement is not in front of the cursor: either the byte that ends it stands there, or it is
the end of the text. -/
def EndsBehind (text : Text) (i : Nat) (found : Nat × Option UInt8) : Prop :=
  (i ≤ found.1 ∧ found.2 ≠ none ∧ byte? text found.1 = found.2) ∨ found = (byteSize text, none)

theorem EndsBehind.earlier {i j : Nat} {found : Nat × Option UInt8} (ends : EndsBehind text j found) (less : i ≤ j) :
    EndsBehind text i found := ends.imp_left fun ⟨far, known⟩ => ⟨Nat.le_trans less far, known⟩

theorem statementEnd_returns (i round square : Nat) :
    Returns (statementEnd text i round square) (EndsBehind text i) := by
  rw [statementEnd_turn]
  cases found : byte? text i with
  | none => exact returns_pure (.inr (by rw [length_bytes]))
  | some b =>
    have inside := lt_of_byte? found
    have next : ∀ j round square, i < j → Returns (statementEnd text j round square) (EndsBehind text i) :=
      fun j round square further =>
        (statementEnd_returns j round square).mono fun _ ends => ends.earlier (Nat.le_of_lt further)
    dsimp only
    split_ifs with escape isQuote opens
    · exact next _ _ _ (by omega)
    · exact (skipString_returns i b).bind fun stop ⟨far, _⟩ => next _ _ _ (by omega)
    · have short : i + 2 ≤ (bytes text).length := by
        have second := lt_of_byte? opens.2
        rw [length_bytes]
        omega
      rw [findCloseFrom?, if_pos short]
      cases closed : findClose ((bytes text).drop (i + 2)) with
      | none => exact returns_at i .unclosedComment
      | some close => exact next _ _ _ (by omega)
    · exact next _ _ _ (by omega)
    · exact next _ _ _ (by omega)
    · exact next _ _ _ (by omega)
    · exact next _ _ _ (by omega)
    · refine returns_pure (.inl ⟨Nat.le_refl i, ?_, found⟩)
      rintro ⟨⟩
    · exact next _ _ _ (by omega)
termination_by byteSize text - i

end progress

end Bytewise

end Source

end NestLint
