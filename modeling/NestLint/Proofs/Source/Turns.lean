import NestLint.Proofs.Source.Cursors
import NestLint.Proofs.Source.Prefixes

/-!
A turn of the reading byte by byte, entered at the beginning of a character, comes to what the next piece of the
text says: all that it cuts out of the text stands between two ends of characters.
-/

namespace NestLint

namespace Source

theorem cut_cases (text : Text) :
    (∃ flaw before, scan {} text = .flawed flaw before ∧ cut text = .flawed flaw before) ∨
      (∃ region rest, scan {} text = .stopped region ('{' :: rest) ∧ cut text = .block region rest) ∨
      (∃ region rest, scan {} text = .stopped region (';' :: rest) ∧ cut text = .ended region rest) ∨
      ∃ region rest, scan {} text = .stopped region rest ∧ rest.head? ≠ some '{' ∧ rest.head? ≠ some ';' ∧
        cut text = .unended (Text.trimEnd region) ((Text.splitEnd Text.isBlank region).2 ++ rest) := by
  unfold cut
  split
  next flaw before found => exact .inl ⟨flaw, before, found, rfl⟩
  next region rest found => exact .inr (.inl ⟨region, rest, found, rfl⟩)
  next region rest found => exact .inr (.inr (.inl ⟨region, rest, found, rfl⟩))
  next region rest noBlock noEnd found =>
    refine .inr (.inr (.inr ⟨region, rest, found, fun first => ?_, fun first => ?_, rfl⟩))
    · obtain ⟨tail, rfl⟩ := List.head?_eq_some_iff.mp first
      exact noBlock tail rfl
    · obtain ⟨tail, rfl⟩ := List.head?_eq_some_iff.mp first
      exact noEnd tail rfl

namespace Bytewise

open Text Position

theorem lift_some {α : Type} (a : α) : (liftM (some a) : Attempt α) = pure a := rfl

theorem place_semicolon (front region : Text) :
    ((start.past front).past region).advance ';' = start.past (front ++ region ++ [';']) := by
  rw [past_append, past_append]
  rfl

theorem byteSize_semicolon (front : Text) : byteSize (front ++ [';']) = byteSize front + 1 := byteSize_concat front ';'

section turn

variable (brace? : Option Position) (before front : Text)

def atStep (brace? : Option Position) : Step → Attempt Turn
  | .failed error => throw error
  | .done after stop =>
    match brace? with
    | some brace => throw (.unclosedBlock brace)
    | none => pure (.returned after stop.offset)
  | .piece (.closing after brace) stop _ =>
    match brace? with
    | some _ => pure (.returned after stop.offset)
    | none => throw (.unexpectedClose brace)
  | .piece (.comment label) stop _ => pure (.comment label stop.offset)
  | .piece (.statement label terminated) stop _ => pure (.statement label terminated stop.offset)
  | .piece (.opening head start brace) _ _ => pure (.block head start.offset brace.offset)

theorem turnComment_eq (rest : Text) : turnComment (front ++ '/' :: '*' :: rest) before (byteSize front) =
    atStep brace? (readComment before (start.past front) rest) := by
  have opens : byteSize ['/', '*'] = 2 := rfl
  have closes : byteSize ['*', '/'] = 2 := rfl
  have inside := findCloseFrom?_eq (front ++ ['/', '*']) rest
  have isPlace := positionAt?_front front ('/' :: '*' :: rest)
  simp only [List.append_assoc, List.cons_append, List.nil_append, byteSize_append, opens] at inside
  rw [turnComment, inside, readComment]
  cases closed : closeComment? rest with
  | none =>
    rw [isPlace]
    rfl
  | some halves =>
    obtain ⟨inner, tail⟩ := halves
    have isRest := closeComment?_eq closed
    have long : byteSize ('/' :: '*' :: inner ++ ['*', '/']) = 2 + byteSize inner + 2 := by
      rw [← closes, byteSize_append]
      exact congrArg (· + byteSize ['*', '/']) (byteSize_append ['/', '*'] inner)
    have slice : slice? (front ++ '/' :: '*' :: rest) (byteSize front + 2) (byteSize front + 2 + byteSize inner) =
        some inner :=
      slice?_of_eq (front ++ ['/', '*']) inner ('*' :: '/' :: tail) (by simp [isRest])
        (by rw [byteSize_append, opens]) rfl
    have span : span? (front ++ '/' :: '*' :: rest) (byteSize front) (byteSize front + 2 + byteSize inner + 2) =
        some ⟨start.past front, (start.past front).past ('/' :: '*' :: inner ++ ['*', '/'])⟩ := by
      have upTo : byteSize front + 2 + byteSize inner + 2 =
          byteSize (front ++ ('/' :: '*' :: inner ++ ['*', '/'])) := by
        rw [byteSize_append, long]
        omega
      rw [upTo, ← past_append]
      exact span?_fronts ⟨_, rfl⟩ ⟨tail, by simp [isRest]⟩
    have stop : ((start.past front).past ('/' :: '*' :: inner ++ ['*', '/'])).offset =
        byteSize front + 2 + byteSize inner + 2 := by
      rw [offset_past, offset_place, long]
      omega
    simp only [Option.map_some, Function.comp_apply, lift_some, pure_bind, slice, splitComment?_eq, span, atStep, stop]

theorem turnAtRule_eq {name behind : Text} (named : ∀ c ∈ name, endsName c = false)
    (ends : ∀ c ∈ behind.head?, endsName c = true) :
    turnAtRule (front ++ '@' :: (name ++ behind)) before (byteSize front) =
      atStep brace? (readAtRule before (start.past front) (name ++ behind)) := by
  generalize isText : front ++ '@' :: (name ++ behind) = text
  have one : '@'.utf8Size = 1 := by decide
  generalize isHere : front ++ '@' :: name = here
  have long : byteSize here = byteSize front + 1 + byteSize name := by
    rw [← isHere, byteSize_append, byteSize, one, Nat.add_assoc]
  have isPlace : (start.past front).past ('@' :: name) = start.past here := by rw [← isHere, past_append]
  have whole : text = here ++ behind := by simp [← isText, ← isHere]
  have nameStop : nameEnd text (byteSize front + 1) = byteSize here := by
    have found := nameEnd_eq (front ++ ['@']) behind named ends
    rw [byteSize_concat, one, byteSize_append, byteSize_concat, one, ← long] at found
    rw [← found, ← isText]
    simp
  have nameSlice : text.slice? (byteSize front + 1) (byteSize here) = some name :=
    slice?_of_eq (front ++ ['@']) name behind (by simp [← isText]) (by rw [byteSize_concat, one]) long
  have scanned : scanStatement text (byteSize here) = atScan here (scan {} behind) := by
    rw [whole, scanStatement_eq]
  rw [readAtRule_eq before _ named ends, turnAtRule, nameStop]
  simp only [lift_some, pure_bind, nameSlice, scanned]
  rcases cut_cases behind with ⟨flaw, skipped, found, isCut⟩ | ⟨region, rest, found, isCut⟩ |
    ⟨region, rest, found, isCut⟩ | ⟨region, rest, found, noBlock, noEnd, isCut⟩
  · rw [found, isCut, Cut.atStep, isPlace]
    simp only [atScan, past_append]
    rfl
  · have isBehind := scan_eq found
    have slice : text.slice? (byteSize here) (byteSize (here ++ region)) = some region :=
      slice?_of_eq here region ('{' :: rest) (by rw [whole, isBehind]) rfl (byteSize_append here region)
    rw [found, isCut, Cut.atStep, isPlace, atScan, byte?_narrow rest (by decide)]
    simp only [pure_bind, slice, lift_some, splitParams?_eq, true_or, if_true, decide_true, atStep, ← past_append,
      offset_place]
    rfl
  · have isBehind := scan_eq found
    have noBlock : ¬ some (ascii ';') = some (ascii '{') := by decide
    have slice : text.slice? (byteSize here) (byteSize (here ++ region)) = some region :=
      slice?_of_eq here region (';' :: rest) (by rw [whole, isBehind]) rfl (byteSize_append here region)
    have upTo : here ++ region ++ [';'] ++ rest = text := by simp [whole, isBehind]
    have span := span?_fronts ⟨'@' :: (name ++ behind), isText⟩ ⟨rest, upTo⟩
    rw [found, isCut, Cut.atStep, isPlace, atScan, byte?_narrow rest (by decide)]
    simp only [pure_bind, slice, lift_some, splitParams?_eq, or_true, if_true, decide_true, noBlock, if_false,
      decide_false, ← byteSize_semicolon, span, atStep, place_semicolon, offset_place]
    rfl
  · have isBehind := scan_eq found
    obtain ⟨blanks, isRegion⟩ := isPrefix_trimEnd region
    have slice : text.slice? (byteSize here) (byteSize (here ++ region)) = some region :=
      slice?_of_eq here region rest (by rw [whole, isBehind]) rfl (byteSize_append here region)
    have upTo : here ++ trimEnd region ++ (blanks ++ rest) = text := by
      rw [whole, isBehind, List.append_assoc, ← List.append_assoc (trimEnd region), isRegion]
    have span := span?_fronts ⟨'@' :: (name ++ behind), isText⟩ ⟨blanks ++ rest, upTo⟩
    rw [Ne, ← byte?_eq_ascii_iff rest (by decide)] at noBlock noEnd
    rw [found, isCut, Cut.atStep, isPlace, atScan]
    simp only [pure_bind, slice, lift_some, splitParams?_eq, noBlock, noEnd, or_self, if_false, decide_false,
      Bool.false_eq_true, ← byteSize_append, span, atStep, ← past_append, offset_place]
    rfl

theorem turnDecl_eq {text stop region back : Text} (whole : text = front ++ (region ++ back)) (upTo : stop <+: text)
    (terminated : Bool) :
    turnDecl text before (byteSize front) region terminated (byteSize stop) =
      match readDecl before (start.past front) (start.past stop) region with
      | .ok label => pure (.statement label terminated (byteSize stop))
      | .error error => throw error := by
  have isPlace : positionAt? text (byteSize front) = some (start.past front) := by
    rw [whole]
    exact positionAt?_front front _
  have span := span?_fronts ⟨region ++ back, whole.symm⟩ upTo
  rcases find?_cases ':' region with ⟨absent, none⟩ | ⟨tail, behind, parts, found⟩
  · simp only [turnDecl, absent, readDecl, none, isPlace]
    rfl
  · generalize isHead : region.takeWhile (· != ':') = head at parts found
    have headSlice : region.slice? 0 (byteSize head) = some head := by
      rw [parts]
      exact slice?_front _ _
    have colon : byteSize head + 1 = byteSize (head ++ [':']) := (byteSize_concat head ':').symm
    have tailSlice : region.slice? (byteSize head + 1) (byteSize region) = some tail := by
      rw [colon, parts, ← List.singleton_append, ← List.append_assoc]
      exact slice?_rest _ _
    have isColon : positionAt? text (byteSize front + byteSize head) = some ((start.past front).past head) := by
      rw [← byteSize_append, ← past_append, whole, parts, List.append_assoc, ← List.append_assoc]
      exact positionAt?_front (front ++ head) _
    have halves : trimEnd head ++ (splitEnd isBlank head).2 = head := splitEnd_append isBlank head
    have gapSlice : region.slice? (byteSize (trimEnd head)) (byteSize head + 1) =
        some ((splitEnd isBlank head).2 ++ [':']) := by
      refine slice?_of_eq (trimEnd head) _ tail ?_ rfl ?_
      · nth_rewrite 1 [parts, ← halves]
        simp
      · rw [colon, ← byteSize_append, ← List.append_assoc, halves]
    have isProperty : (splitEnd isBlank head).1 = trimEnd head := rfl
    simp only [turnDecl, found, readDecl, behind, isHead, isProperty, headSlice, lift_some, pure_bind]
    by_cases empty : (trimEnd head).isEmpty = true
    · rw [if_pos empty, if_pos empty, isColon]
      rfl
    · rw [if_neg empty, if_neg empty]
      simp only [tailSlice, splitLeading?_eq, gapSlice, splitImportant?_eq, span, lift_some, pure_bind,
        List.append_assoc, List.singleton_append]

theorem turnPlain_eq (rest : Text) : turnPlain (front ++ rest) before (byteSize front) =
    atStep brace? (readPlain before (start.past front) rest) := by
  generalize isText : front ++ rest = text
  have scanned : scanStatement text (byteSize front) = atScan front (scan {} rest) := by
    rw [← isText, scanStatement_eq]
  rw [turnPlain, readPlain, scanned]
  rcases cut_cases rest with ⟨flaw, skipped, found, isCut⟩ | ⟨region, tail, found, isCut⟩ |
    ⟨region, tail, found, isCut⟩ | ⟨region, tail, found, noBlock, noEnd, isCut⟩
  · rw [found, isCut]
    simp only [atScan, past_append]
    rfl
  · have isRest := scan_eq found
    have slice : text.slice? (byteSize front) (byteSize (front ++ region)) = some region :=
      slice?_of_eq front region ('{' :: tail) (by rw [← isText, isRest]) rfl (byteSize_append front region)
    rw [found, isCut, atScan, byte?_narrow tail (by decide)]
    simp only [pure_bind, slice, lift_some, if_true, splitTrailing?_eq, atStep, ← past_append, offset_place]
  · have isRest := scan_eq found
    have noBlock : ¬ some (ascii ';') = some (ascii '{') := by decide
    have slice : text.slice? (byteSize front) (byteSize (front ++ region)) = some region :=
      slice?_of_eq front region (';' :: tail) (by rw [← isText, isRest]) rfl (byteSize_append front region)
    have upTo : front ++ region ++ [';'] ++ tail = text := by simp [← isText, isRest]
    rw [found, isCut, atScan, byte?_narrow tail (by decide)]
    simp only [pure_bind, slice, lift_some, noBlock, if_false, decide_true, if_true, ← byteSize_semicolon,
      place_semicolon]
    rw [turnDecl_eq before front (by rw [← isText, isRest]) ⟨tail, upTo⟩]
    cases readDecl before (start.past front) (start.past (front ++ region ++ [';'])) region with
    | error error => rfl
    | ok label => simp only [atStep, offset_place]
  · have isRest := scan_eq found
    obtain ⟨blanks, isRegion⟩ := isPrefix_trimEnd region
    have slice : text.slice? (byteSize front) (byteSize (front ++ region)) = some region :=
      slice?_of_eq front region tail (by rw [← isText, isRest]) rfl (byteSize_append front region)
    have upTo : front ++ trimEnd region ++ (blanks ++ tail) = text := by
      rw [← isText, isRest, List.append_assoc, ← List.append_assoc (trimEnd region), isRegion]
    rw [Ne, ← byte?_eq_ascii_iff tail (by decide)] at noBlock noEnd
    rw [found, isCut, atScan]
    simp only [pure_bind, slice, lift_some, noBlock, noEnd, if_false, decide_false, Bool.false_eq_true,
      ← byteSize_append, ← past_append]
    rw [turnDecl_eq before front (by rw [← upTo, List.append_assoc]) ⟨blanks ++ tail, upTo⟩]
    cases readDecl before (start.past front) (start.past (front ++ trimEnd region)) (trimEnd region) with
    | error error => rfl
    | ok label => simp only [atStep, offset_place]

theorem visible_of_front {body : Text} (isFront : Front body) : ∀ c ∈ body.head?, isGap c = false := by
  cases isFront with
  | finished => simp
  | close rest => simp [isGap]
  | atRule rest => simp [isGap]
  | comment rest => simp [isGap]
  | plain plainly =>
    obtain ⟨c, cs, rfl, noGap, -⟩ := plainly
    simpa using noGap

theorem turn_eq (rest : Text) (known : ∀ p ∈ brace?, positionAt? (front ++ rest) p.offset = some p) :
    turn (front ++ rest) (brace?.map Position.offset) (byteSize front) =
      atStep brace? (step (start.past front) rest) := by
  obtain ⟨gap, body, rfl, all, isFront⟩ := exists_front rest
  have skipped := skipGap_eq front body all (visible_of_front isFront)
  have slice : slice? (front ++ (gap ++ body)) (byteSize front) (byteSize (front ++ gap)) = some gap :=
    slice?_of_eq front gap body rfl rfl (byteSize_append front gap)
  have isText : front ++ (gap ++ body) = front ++ gap ++ body := (List.append_assoc front gap body).symm
  have first : byte? (front ++ (gap ++ body)) (byteSize (front ++ gap)) = byte? body 0 := by
    rw [isText, byte?_front]
  have isPlace : positionAt? (front ++ (gap ++ body)) (byteSize (front ++ gap)) = some (start.past (front ++ gap)) := by
    rw [isText, positionAt?_front]
  simp only [turn, skipped, slice, first, lift_some, pure_bind]
  cases isFront with
  | finished =>
    have nothing : byte? [] 0 = none := rfl
    rw [nothing, List.append_nil, step_gap all, ← past_append]
    cases brace? with
    | none => simp only [Option.map_none, atStep, offset_place]
    | some brace =>
      have isBrace := known brace rfl
      rw [List.append_nil] at isBrace
      simp only [Option.map_some, isBrace]
      rfl
  | close rest =>
    rw [byte?_narrow rest (by decide), step_close all, ← past_append]
    cases brace? with
    | none =>
      simp only [Option.map_none, if_true, isPlace]
      rfl
    | some brace =>
      have stop : ((start.past (front ++ gap)).advance '}').offset = byteSize (front ++ gap) + 1 := by
        rw [offset_advance, offset_place]
        rfl
      simp only [Option.map_some, if_true, atStep, stop]
  | atRule rest =>
    obtain ⟨name, behind, rfl, named, ends⟩ := exists_name rest
    have others : ascii '@' ≠ ascii '}' ∧ ascii '@' ≠ ascii '/' := by decide
    rw [byte?_narrow _ (by decide), step_atRule all, ← past_append, isText,
      ← turnAtRule_eq brace? gap (front ++ gap) named ends]
    simp only [others.1, others.2, false_and, if_false, if_true]
  | comment rest =>
    have other : ascii '/' ≠ ascii '}' := by decide
    have second : byte? (front ++ gap ++ '/' :: '*' :: rest) (byteSize (front ++ gap) + 1) = some (ascii '*') :=
      (byte?_second _ _ (by decide) (by decide)).mpr rfl
    rw [byte?_narrow _ (by decide), step_comment all, ← past_append, isText,
      ← turnComment_eq brace? gap (front ++ gap) rest]
    simp only [other, second, and_self, if_false, if_true]
  | plain plainly =>
    rw [step_plain all _ plainly, ← past_append, isText, ← turnPlain_eq brace? gap (front ++ gap) body]
    obtain ⟨c, cs, rfl, -, noClose, noAt, noComment⟩ := plainly
    obtain ⟨b, begins⟩ : ∃ b, byte? (c :: cs) 0 = some b := by
      rw [← Option.ne_none_iff_exists', Ne, byte?_eq_none_iff, byteSize]
      have positive := c.utf8Size_pos
      omega
    have isFirst : ∀ d : Char, d.utf8Size = 1 → (b = ascii d) = (c = d) := by
      intro d narrow
      have same := byte?_eq_ascii_iff (c :: cs) narrow
      rw [begins, List.head?_cons, Option.some.injEq, Option.some.injEq] at same
      exact propext same
    have opens : ¬ (c = '/' ∧ byte? (front ++ gap ++ c :: cs) (byteSize (front ++ gap) + 1) = some (ascii '*')) := by
      rintro ⟨rfl, second⟩
      exact noComment ⟨rfl, (byte?_second _ _ (by decide) (by decide)).mp second⟩
    simp only [begins, isFirst '}' (by decide), isFirst '/' (by decide), isFirst '@' (by decide), noClose, opens, noAt,
      if_false]

end turn

end Bytewise

end Source

end NestLint
