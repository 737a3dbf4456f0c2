import NestLint.Proofs.Source.Bytewise

/-!
The cuts of the reading byte by byte find what they ask for, as long as both ends are ends of characters, and the
table of lines gives every byte a line and a column.
-/

namespace NestLint

namespace Source

namespace Bytewise

open Text Position

section slices

theorem slice?_of_eq {text : Text} (front piece rest : Text) {i j : Nat} (whole : text = front ++ (piece ++ rest))
    (first : i = byteSize front) (last : j = i + byteSize piece) : text.slice? i j = some piece := by
  rw [whole, last, first, ← byteSize_append, ← List.append_assoc]
  exact slice?_append front piece rest

variable (front rest : Text)

theorem slice?_front : slice? (front ++ rest) 0 (byteSize front) = some front := slice?_append [] front rest

theorem slice?_rest : slice? (front ++ rest) (byteSize front) (byteSize (front ++ rest)) = some rest := by
  have whole := slice?_append front rest []
  rwa [List.append_nil] at whole

theorem minus?_of_le {a b : Nat} (less : b ≤ a) : minus? a b = some (a - b) := if_pos less

theorem splitTrailing?_eq (text : Text) : splitTrailing? text = some (splitEnd isBlank text) := by
  have parts := splitEnd_append isBlank text
  have found := slice?_rest (splitEnd isBlank text).1 (splitEnd isBlank text).2
  rw [parts] at found
  simp only [splitTrailing?, trimEnd, found]
  rfl

theorem splitLeading?_eq (text : Text) : splitLeading? text = some (splitBlanks text) := by
  have parts : text.takeWhile isBlank ++ trimStart text = text := List.takeWhile_append_dropWhile
  have sizes := congrArg byteSize parts
  rw [byteSize_append] at sizes
  have long : byteSize text - byteSize (trimStart text) = byteSize (text.takeWhile isBlank) := by omega
  have found := slice?_front (text.takeWhile isBlank) (trimStart text)
  rw [parts] at found
  simp only [splitLeading?, minus?_of_le (Nat.le.intro (Nat.add_comm _ _ ▸ sizes)), long]
  simp [found, splitBlanks, trimStart]

theorem splitComment?_eq (inner : Text) : splitComment? inner = some (splitComment inner) := by
  have same : (trim inner).isEmpty = inner.all isBlank := by
    induction inner with
    | nil => rfl
    | cons c cs ih =>
      by_cases blank : isBlank c = true
      · rw [List.all_cons, blank, Bool.true_and, ← ih, trim, trimStart, List.dropWhile_cons_of_pos blank]
        rfl
      · have visible : isBlank c = false := by simpa using blank
        simp [trim_cons cs visible, visible]
  simp only [splitComment?, splitComment, same, splitLeading?_eq, splitTrailing?_eq]
  split <;> rfl

theorem splitParams?_eq (region : Text) : splitParams? region = some (splitParams region) := by
  simp only [splitParams?, splitParams, splitLeading?_eq, splitTrailing?_eq, Option.bind_eq_bind, Option.bind_some]
  split
  next empty => simp [List.isEmpty_iff.mp empty]
  next => rfl

theorem find?_cases (c : Char) (text : Text) :
    (find? c text = none ∧ text.dropWhile (· != c) = []) ∨
      ∃ tail, text.dropWhile (· != c) = c :: tail ∧ text = text.takeWhile (· != c) ++ c :: tail ∧
        find? c text = some (byteSize (text.takeWhile (· != c))) := by
  have parts : text.takeWhile (· != c) ++ text.dropWhile (· != c) = text := List.takeWhile_append_dropWhile
  have first := List.head?_dropWhile_not (· != c) text
  cases found : text.dropWhile (· != c) with
  | nil =>
    have others : (text.takeWhile (· != c)).all (· != c) = true := List.all_takeWhile
    rw [found, List.append_nil] at parts
    rw [parts, List.all_eq_true] at others
    exact .inl ⟨if_neg fun listed => by simpa using others c listed, rfl⟩
  | cons d tail =>
    have same : d = c := by simpa [found] using first
    subst same
    rw [found] at parts
    refine .inr ⟨tail, rfl, parts.symm, ?_⟩
    have listed : d ∈ text := parts ▸ List.mem_append_right _ List.mem_cons_self
    rw [find?, if_pos listed]

theorem findLast?_cases (c : Char) (text : Text) :
    (findLast? c text = none ∧ (splitEnd (· != c) text).1 = []) ∨
      ∃ front, text = front ++ c :: (splitEnd (· != c) text).2 ∧ (splitEnd (· != c) text).1 = front ++ [c] ∧
        findLast? c text = some (byteSize front) := by
  have parts := splitEnd_append (· != c) text
  have behind := of_mem_splitEnd (· != c) text
  rcases List.eq_nil_or_concat (splitEnd (· != c) text).1 with none | ⟨front, d, isFront⟩
  · refine Or.inl ⟨?_, none⟩
    rw [none, List.nil_append] at parts
    rw [parts] at behind
    exact if_neg fun listed => by simpa using behind c listed
  · rw [List.concat_eq_append] at isFront
    have isLast : d = c := by simpa using outside_of_splitEnd isFront
    subst isLast
    rw [isFront, List.append_assoc] at parts
    refine Or.inr ⟨front, parts.symm, isFront, ?_⟩
    have listed : d ∈ text := parts ▸ List.mem_append_right front List.mem_cons_self
    rw [findLast?, if_pos listed, isFront, List.dropLast_concat]

theorem splitImportant?_eq (value : Text) : splitImportant? value = some (splitImportant value) := by
  rcases findLast?_cases '!' (trimEnd value) with ⟨absent, none⟩ | ⟨front, whole, isMark, found⟩
  · simp [splitImportant?, splitImportant, absent, none]
  · generalize isWord : (splitEnd (· != '!') (trimEnd value)).2 = word at whole
    have ends : byteSize front + 1 = byteSize (front ++ ['!']) := by
      rw [byteSize_append]
      rfl
    have wordSlice : (trimEnd value).slice? (byteSize front + 1) (byteSize (trimEnd value)) = some word := by
      rw [ends, whole, ← List.singleton_append, ← List.append_assoc]
      exact slice?_rest _ _
    have frontSlice : (trimEnd value).slice? 0 (byteSize front) = some front := by
      rw [whole]
      exact slice?_front _ _
    obtain ⟨blanks, isValue⟩ := isPrefix_trimEnd value
    obtain ⟨more, isFront⟩ := isPrefix_trimEnd front
    generalize isBody : trimEnd front = body at isFront
    have source : body ++ (more ++ '!' :: (word ++ blanks)) = value := by
      rw [← isValue, whole, ← isFront]
      simp
    have bodySlice : value.slice? 0 (byteSize body) = some body := by
      rw [← source]
      exact slice?_front _ _
    have markSlice : value.slice? (byteSize body) (byteSize value) = some (value.drop body.length) := by
      have dropped : value.drop body.length = more ++ '!' :: (word ++ blanks) := by
        rw [← source, List.drop_left]
      rw [dropped, ← source]
      exact slice?_rest _ _
    have full : (front ++ ['!']).isEmpty = false := by simp
    simp only [splitImportant?, splitImportant, found, wordSlice, frontSlice, isMark, isWord, List.dropLast_concat,
      isBody, full, Bool.false_eq_true, if_false, Option.bind_eq_bind, Option.bind_some]
    by_cases marked : (trimStart word).map Char.toLower = "important".toList
    · rw [if_pos marked, if_pos marked, bodySlice, markSlice]
      rfl
    · rw [if_neg marked, if_neg marked]
      rfl

end slices

section places

theorem offset_place (front : Text) : (start.past front).offset = byteSize front := by
  rw [offset_past, start, Nat.zero_add]

theorem lineStartsFrom_append (offset : Nat) (first second : List UInt8) :
    lineStartsFrom offset (first ++ second) =
      lineStartsFrom offset first ++ lineStartsFrom (offset + first.length) second := by
  induction first generalizing offset with
  | nil => rfl
  | cons b first ih =>
    have further : offset + 1 + first.length = offset + (b :: first).length := by
      rw [List.length_cons]
      omega
    simp only [List.cons_append, lineStartsFrom, ih, further]
    split <;> rfl

theorem lineStartsFrom_bounds (offset : Nat) (bs : List UInt8) :
    ∀ s ∈ lineStartsFrom offset bs, offset < s ∧ s ≤ offset + bs.length := by
  induction bs generalizing offset with
  | nil => simp [lineStartsFrom]
  | cons b bs ih =>
    intro s listed
    have later : s ∈ lineStartsFrom (offset + 1) bs → offset < s ∧ s ≤ offset + (b :: bs).length := by
      intro listed
      have bounds := ih (offset + 1) s listed
      rw [List.length_cons]
      omega
    rw [lineStartsFrom] at listed
    split at listed
    · rcases List.mem_cons.mp listed with rfl | listed
      · rw [List.length_cons]
        omega
      · exact later listed
    · exact later listed

theorem lineStartsFrom_char (offset : Nat) (c : Char) :
    lineStartsFrom offset (String.utf8EncodeChar c) = if c = '\n' then [offset + 1] else [] := by
  split
  next same =>
    rw [same, utf8EncodeChar_narrow (by decide)]
    rfl
  next other =>
    have absent : ∀ b ∈ String.utf8EncodeChar c, b ≠ ascii '\n' := by
      intro b listed same
      by_cases narrow : c.utf8Size = 1
      · rw [utf8EncodeChar_narrow narrow, List.mem_singleton, same] at listed
        exact other ((ascii_inj (by decide) narrow).mp listed).symm
      · have above := wide_byte narrow b listed
        rw [same] at above
        exact absurd above (by decide)
    generalize String.utf8EncodeChar c = bs at absent
    induction bs generalizing offset with
    | nil => rfl
    | cons b bs ih =>
      rw [lineStartsFrom, if_neg (absent b List.mem_cons_self)]
      exact ih _ fun b listed => absent b (List.mem_cons_of_mem _ listed)

theorem exists_lineStart (front : Text) : ∃ init last, lineStarts front = init ++ [last] ∧ last ≤ byteSize front ∧
    start.past front = ⟨byteSize front, init.length + 1, byteSize front - last + 1⟩ := by
  induction front using List.reverseRecOn with
  | nil => exact ⟨[], 0, rfl, Nat.le_refl 0, rfl⟩
  | append_singleton front c ih =>
    obtain ⟨init, last, starts, less, isPlace⟩ := ih
    have size : byteSize (front ++ [c]) = byteSize front + c.utf8Size := by
      rw [byteSize_append]
      simp [byteSize]
    have table : lineStarts (front ++ [c]) =
        lineStarts front ++ if c = '\n' then [byteSize front + 1] else [] := by
      rw [lineStarts, lineStarts, bytes_append, lineStartsFrom_append, bytes_cons, length_bytes, Nat.zero_add]
      simp [bytes, lineStartsFrom_char]
    rw [past_append, past_cons, past_nil, isPlace, advance, table, size]
    split
    next same =>
      subst same
      refine ⟨lineStarts front, byteSize front + 1, rfl, Nat.le_refl _, ?_⟩
      have one : '\n'.utf8Size = 1 := by decide
      simp [starts, one]
    next other =>
      refine ⟨init, last, by rw [List.append_nil, starts], by omega, ?_⟩
      simp only [mk.injEq, true_and]
      omega

theorem positionAt?_of_takeWhile {text : Text} {offset last : Nat} {init : List Nat}
    (same : (lineStarts text).takeWhile (· ≤ offset) = init ++ [last]) :
    positionAt? text offset = some ⟨offset, init.length + 1, offset - last + 1⟩ := by
  have isStart : (lineStarts text)[init.length]? = some last := by
    obtain ⟨later, whole⟩ := List.takeWhile_prefix (l := lineStarts text) (· ≤ offset)
    rw [← whole, same]
    simp
  have less : last ≤ offset := by
    have inside := List.all_eq_true.mp (List.all_takeWhile (l := lineStarts text) (p := (· ≤ offset))) last
      (by rw [same]; simp)
    simpa using inside
  have long : minus? (init ++ [last]).length 1 = some init.length := by
    rw [minus?_of_le (by simp)]
    simp
  simp only [positionAt?, same, long]
  simp [isStart, minus?_of_le less]

theorem exists_position (text : Text) (offset : Nat) : ∃ p, positionAt? text offset = some p ∧ p.offset = offset := by
  have some : (lineStarts text).takeWhile (· ≤ offset) ≠ [] := by simp [lineStarts]
  obtain ⟨init, last, same⟩ := (List.eq_nil_or_concat _).resolve_left some
  rw [List.concat_eq_append] at same
  exact ⟨_, positionAt?_of_takeWhile same, rfl⟩

/-- The line and the column of a character are those of the place behind the text in front of it. -/
theorem positionAt?_front (front rest : Text) :
    positionAt? (front ++ rest) (byteSize front) = some (start.past front) := by
  obtain ⟨init, last, starts, -, isPlace⟩ := exists_lineStart front
  have table : lineStarts (front ++ rest) =
      lineStarts front ++ lineStartsFrom (byteSize front) (bytes rest) := by
    rw [lineStarts, lineStarts, bytes_append, lineStartsFrom_append, length_bytes, Nat.zero_add]
    rfl
  have before : ∀ s ∈ lineStarts front, decide (s ≤ byteSize front) = true := by
    intro s listed
    rw [decide_eq_true_iff]
    rcases List.mem_cons.mp listed with rfl | listed
    · exact Nat.zero_le _
    · have bounds := (lineStartsFrom_bounds 0 _ s listed).2
      rwa [Nat.zero_add, length_bytes] at bounds
  have behind : (lineStartsFrom (byteSize front) (bytes rest)).takeWhile (· ≤ byteSize front) = [] := by
    cases table : lineStartsFrom (byteSize front) (bytes rest) with
    | nil => rfl
    | cons s later =>
      have bounds := (lineStartsFrom_bounds _ _ s (table ▸ List.mem_cons_self)).1
      rw [List.takeWhile_cons_of_neg (by simpa using bounds)]
  rw [isPlace]
  apply positionAt?_of_takeWhile
  rw [table, List.takeWhile_append_of_pos before, behind, List.append_nil, starts]

theorem span?_fronts {text first second : Text} (begins : first <+: text) (upTo : second <+: text) :
    span? text (byteSize first) (byteSize second) = some ⟨start.past first, start.past second⟩ := by
  obtain ⟨rest, isText⟩ := begins
  obtain ⟨rest', isText'⟩ := upTo
  have firstPlace := positionAt?_front first rest
  have secondPlace := positionAt?_front second rest'
  rw [isText] at firstPlace
  rw [isText'] at secondPlace
  simp only [span?, firstPlace, secondPlace]
  rfl

end places

end Bytewise

end Source

end NestLint
