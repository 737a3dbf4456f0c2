import Mathlib.Data.List.Induction
import NestLint.Proofs.Text
import NestLint.Text.Position

/-!
Cutting a text by bytes. A slice goes from one byte to another, and there is none where a cut would part
a character. A place in a text is marked by its offset: the lines and columns are those of the bytes in
front of it.
-/

namespace NestLint

namespace Text

def splitBytes? (bytes : Nat) : Text → Option (Text × Text)
  | [] => if bytes = 0 then some ([], []) else none
  | c :: cs =>
    if bytes = 0 then some ([], c :: cs)
    else if c.utf8Size ≤ bytes then
      (splitBytes? (bytes - c.utf8Size) cs).map fun (front, rest) => (c :: front, rest)
    else none

/-- The bytes from `start` up to `stop` as a text. -/
def slice? (text : Text) (start stop : Nat) : Option Text :=
  if start ≤ stop then
    (splitBytes? start text).bind fun (_, rest) => (splitBytes? (stop - start) rest).map Prod.fst
  else none

@[simp] theorem splitBytes?_zero (text : Text) : splitBytes? 0 text = some ([], text) := by
  cases text <;> rfl

theorem splitBytes?_append (front rest : Text) :
    splitBytes? (byteSize front) (front ++ rest) = some (front, rest) := by
  induction front with
  | nil => exact splitBytes?_zero rest
  | cons c front ih =>
    have positive := c.utf8Size_pos
    have remains : c.utf8Size + byteSize front - c.utf8Size = byteSize front := by omega
    rw [byteSize, List.cons_append, splitBytes?, if_neg (by omega), if_pos (by omega), remains, ih]
    rfl

theorem slice?_append (front piece back : Text) :
    slice? (front ++ piece ++ back) (byteSize front) (byteSize (front ++ piece)) = some piece := by
  have long : byteSize (front ++ piece) - byteSize front = byteSize piece := by
    rw [byteSize_append]
    omega
  rw [slice?, if_pos (by rw [byteSize_append]; omega), long, List.append_assoc, splitBytes?_append,
    Option.bind_some]
  simp only [splitBytes?_append, Option.map_some]

theorem eq_of_splitBytes? {bytes : Nat} {text front rest : Text}
    (found : splitBytes? bytes text = some (front, rest)) : text = front ++ rest ∧ bytes = byteSize front := by
  induction text generalizing bytes front with
  | nil =>
    rw [splitBytes?] at found
    split at found
    next empty =>
      cases found
      exact ⟨rfl, empty⟩
    next => cases found
  | cons c cs ih =>
    rw [splitBytes?] at found
    split at found
    next empty =>
      cases found
      exact ⟨rfl, empty⟩
    next =>
      split at found
      next fits =>
        obtain ⟨⟨deeper, rest'⟩, found, same⟩ := Option.map_eq_some_iff.mp found
        cases same
        obtain ⟨rfl, remains⟩ := ih found
        exact ⟨rfl, by rw [byteSize]; omega⟩
      next => cases found

theorem eq_of_slice? {text piece : Text} {start stop : Nat} (found : text.slice? start stop = some piece) :
    ∃ front back, text = front ++ piece ++ back ∧ start = byteSize front ∧ stop = byteSize (front ++ piece) := by
  rw [slice?] at found
  split at found
  next ordered =>
    obtain ⟨⟨front, rest⟩, first, found⟩ := Option.bind_eq_some_iff.mp found
    obtain ⟨⟨piece', back⟩, second, same⟩ := Option.map_eq_some_iff.mp found
    obtain rfl : piece' = piece := same
    obtain ⟨rfl, isStart⟩ := eq_of_splitBytes? first
    obtain ⟨rfl, long⟩ := eq_of_splitBytes? second
    refine ⟨front, back, (List.append_assoc _ _ _).symm, isStart, ?_⟩
    rw [byteSize_append]
    omega
  next => cases found

theorem splitEnd_concat_of_pos {p : Char → Bool} (text : Text) {c : Char} (inside : p c = true) :
    splitEnd p (text ++ [c]) = ((splitEnd p text).1, (splitEnd p text).2 ++ [c]) := by
  induction text with
  | nil => simp [splitEnd, inside]
  | cons d text ih =>
    rw [List.cons_append, splitEnd, ih, splitEnd]
    generalize splitEnd p text = halves
    obtain ⟨body, tail⟩ := halves
    cases body with
    | nil => by_cases same : p d = true <;> simp [same]
    | cons e body => rfl

theorem lastLine_concat (text : Text) (c : Char) :
    lastLine (text ++ [c]) = if c = '\n' then [] else lastLine text ++ [c] := by
  split
  next same => rw [lastLine, splitEnd_concat _ text (by simp [same])]
  next other => rw [lastLine, lastLine, splitEnd_concat_of_pos text (by simp [other])]

theorem byteSize_pos {text : Text} (more : text ≠ []) : 0 < byteSize text := by
  cases text with
  | nil => exact absurd rfl more
  | cons c text => exact Nat.add_pos_left c.utf8Size_pos _

theorem byteSize_lastLine_le (text : Text) : byteSize text.lastLine ≤ byteSize text := by
  have whole := congrArg byteSize (splitEnd_append (· != '\n') text)
  rw [byteSize_append] at whole
  rw [lastLine]
  omega

theorem count_le_byteSize (c : Char) (text : Text) : text.count c ≤ byteSize text := by
  induction text with
  | nil => exact Nat.le_refl 0
  | cons d text ih =>
    have positive := d.utf8Size_pos
    rw [List.count_cons, byteSize]
    split <;> omega

end Text

namespace Position

/-- The place is that of its offset in the text: one more than the line breaks before it, and one more than
the bytes since the last of them. -/
def Marks (text : Text) (p : Position) : Prop :=
  ∃ front, text.slice? 0 p.offset = some front ∧ p.line = 1 + front.count '\n' ∧
    p.column = 1 + Text.byteSize front.lastLine

/-- The place is that of its offset in the text, with its line and its column as they are stored. -/
def Keeps (text : Text) (p : Position) : Prop :=
  ∃ front, text.slice? 0 p.offset = some front ∧ p.line = (1 + front.count '\n') % 0x100000000 ∧
    p.column = (1 + Text.byteSize front.lastLine) % 0x100000000

theorem line_past (p : Position) (text : Text) : (p.past text).line = p.line + text.count '\n' := by
  induction text generalizing p with
  | nil => rfl
  | cons c text ih =>
    rw [past_cons, ih, List.count_cons, advance]
    split
    next same => simp [same]; omega
    next other => simp [other]

theorem column_past (text : Text) : (start.past text).column = 1 + Text.byteSize text.lastLine := by
  induction text using List.reverseRecOn with
  | nil => rfl
  | append_singleton text c ih =>
    rw [past_append, past_cons, past_nil, advance, Text.lastLine_concat]
    split
    next => rfl
    next =>
      rw [Text.byteSize_append]
      simp only [ih, Text.byteSize]
      omega

theorem marks_past (front back : Text) : (start.past front).Marks (front ++ back) := by
  have bytes : (start.past front).offset = Text.byteSize front := by
    rw [offset_past, start, Nat.zero_add]
  refine ⟨front, ?_, ?_, column_past front⟩
  · rw [bytes]
    exact Text.slice?_append [] front back
  · rw [line_past, start]

theorem offset_kept_past {text : Text} (short : Text.byteSize text < 0x100000000) :
    (start.past text).kept.offset = Text.byteSize text := by
  rw [kept, offset_past, start, Nat.zero_add, Nat.mod_eq_of_lt short]

theorem Keeps.marks {text : Text} {p : Position} (keeps : p.Keeps text) (short : p.offset + 1 < 0x100000000) :
    p.Marks text := by
  obtain ⟨front, isFront, line, column⟩ := keeps
  obtain ⟨before, back, -, nothing, bytes⟩ := Text.eq_of_slice? isFront
  rw [Text.byteSize_append, ← nothing, Nat.zero_add] at bytes
  have breaks := Text.count_le_byteSize '\n' front
  have columns := Text.byteSize_lastLine_le front
  refine ⟨front, isFront, ?_, ?_⟩
  · rw [line, Nat.mod_eq_of_lt (by omega)]
  · rw [column, Nat.mod_eq_of_lt (by omega)]

theorem kept_past {text : Text} (short : Text.byteSize text + 1 < 0x100000000) :
    (start.past text).kept = start.past text := by
  have offset : (start.past text).offset < 0x100000000 := by
    rw [offset_past, start, Nat.zero_add]
    omega
  have line : (start.past text).line < 0x100000000 := by
    have breaks := Text.count_le_byteSize '\n' text
    rw [line_past]
    simp only [start]
    omega
  have column : (start.past text).column < 0x100000000 := by
    have bytes := Text.byteSize_lastLine_le text
    rw [column_past]
    omega
  rw [kept, Nat.mod_eq_of_lt offset, Nat.mod_eq_of_lt line, Nat.mod_eq_of_lt column]

end Position

end NestLint
