import NestLint.Proofs.SelectorList

/-!
Reading a list of selectors from left to right. A reader carries the selectors that are finished, the piece
that is under way, and what is open; a comma that splits finishes the piece unless it is empty, and the
last piece counts in any case. What is finished is never looked at again, so a reader that has come to a
comma with nothing open and a piece in its hands goes on as one that begins anew: exactly then the list of
a text, a comma and another text is the one list followed by the other. A selector of a list is a list of
itself.
-/

namespace NestLint

theorem Text.count_trim (text : Text) {c : Char} (visible : isBlank c = false) :
    text.trim.count c = text.count c := by
  have none : ∀ blanks : Text, (∀ d ∈ blanks, isBlank d = true) → blanks.count c = 0 := by
    intro blanks all
    apply List.count_eq_zero_of_not_mem
    intro listed
    rw [all c listed] at visible
    cases visible
  have front := none (text.takeWhile isBlank) fun d inside => List.mem_takeWhile_imp inside
  have back := none (splitEnd isBlank text.trimStart).2 (of_mem_splitEnd isBlank text.trimStart)
  calc text.trim.count c
      = text.trim.count c + (splitEnd isBlank text.trimStart).2.count c := by rw [back, Nat.add_zero]
    _ = text.trimStart.count c := by rw [← List.count_append, trim, trimEnd, splitEnd_append]
    _ = (text.takeWhile isBlank).count c + text.trimStart.count c := by rw [front, Nat.zero_add]
    _ = text.count c := by rw [← List.count_append, trimStart, List.takeWhile_append_dropWhile]

namespace SelectorList

theorem keep_cons (piece : Text) {rest : List Text} (more : rest ≠ []) :
    keep (piece :: rest) = if piece.isEmpty then keep rest else piece :: keep rest := by
  cases rest with
  | nil => exact absurd rfl more
  | cons second rest => rfl

/-- A list that is being read. -/
structure Reading where
  /-- The selectors that are finished. -/
  done : List Text := []
  /-- What has been read since the last comma that splits. -/
  piece : Text := []
  state : State := {}

namespace Reading

def next (r : Reading) (c : Char) : Reading :=
  if r.state.splits c then
    { done := if r.piece.isEmpty then r.done else r.done ++ [r.piece.trim], piece := []
      state := r.state.next c }
  else { r with piece := r.piece ++ [c], state := r.state.next c }

def upTo (r : Reading) (text : Text) : Reading := text.foldl next r

def finish (r : Reading) : List Text := r.done ++ [r.piece.trim]

/-- What is finished stays, and what is to come depends on the piece and on what is open. -/
theorem finish_upTo (r : Reading) (text : Text) :
    (r.upTo text).finish =
      r.done ++ (keep ((pieces r.state text).modifyHead (r.piece ++ ·))).map Text.trim := by
  induction text generalizing r with
  | nil => simp [upTo, finish, pieces, keep]
  | cons c cs ih =>
    rw [upTo, List.foldl_cons, ← upTo, ih, next, pieces]
    obtain ⟨first, rest, later⟩ := List.exists_cons_of_ne_nil (pieces_ne_nil (r.state.next c) cs)
    by_cases splits : r.state.splits c = true
    · simp only [if_pos splits, later, List.modifyHead_cons, List.append_nil, List.nil_append]
      rw [keep_cons _ (List.cons_ne_nil first rest)]
      by_cases empty : r.piece.isEmpty = true
      · simp only [if_pos empty]
      · simp only [if_neg empty, List.map_cons, List.append_assoc, List.singleton_append]
    · simp only [if_neg splits, later, consFirst, List.modifyHead_cons, List.append_assoc,
        List.singleton_append]

theorem finish_anew (done : List Text) (text : Text) :
    (upTo { done := done } text).finish = done ++ split text := by
  obtain ⟨first, rest, cut⟩ := List.exists_cons_of_ne_nil (pieces_ne_nil {} text)
  rw [finish_upTo, split, cut, List.modifyHead_cons]
  rfl

theorem upTo_of_unsplit (r : Reading) {text : Text} (unsplit : Unsplit r.state text) :
    r.upTo text = { r with piece := r.piece ++ text, state := r.state.after text } := by
  induction text generalizing r with
  | nil => rw [upTo, List.foldl_nil, List.append_nil, State.after, List.foldl_nil]
  | cons c cs ih =>
    have stays : ¬ r.state.splits c = true := by simp [unsplit.1]
    have taken : r.next c = { r with piece := r.piece ++ [c], state := r.state.next c } := by
      rw [next, if_neg stays]
    rw [upTo, List.foldl_cons, ← upTo, taken, ih _ unsplit.2, List.append_assoc]
    rfl

end Reading

def read (text : Text) : Reading := Reading.upTo {} text

theorem read_of_unsplit {text : Text} (unsplit : Unsplit {} text) :
    read text = { piece := text, state := State.after {} text } := Reading.upTo_of_unsplit {} unsplit

theorem split_eq_finish (text : Text) : split text = (read text).finish := (Reading.finish_anew [] text).symm

theorem split_of_unsplit {text : Text} (unsplit : Unsplit {} text) : split text = [text.trim] := by
  rw [split_eq_finish, read_of_unsplit unsplit]
  rfl

theorem split_append_comma_eq (first second : Text) :
    split (first ++ ',' :: second) = (((read first).next ',').upTo second).finish := by
  rw [split_eq_finish, read, Reading.upTo, List.foldl_append, List.foldl_cons]
  rfl

theorem split_append_comma_of_closed {first : Text} (second : Text) (closed : (read first).state = {})
    (full : (read first).piece ≠ []) : split (first ++ ',' :: second) = split first ++ split second := by
  have splits : (read first).state.splits ',' = true := by rw [closed]; rfl
  have ended : (read first).next ',' = { done := split first } := by
    rw [Reading.next, if_pos splits, if_neg (by simpa using full), closed, split_eq_finish]
    rfl
  rw [split_append_comma_eq, ended, Reading.finish_anew]

theorem split_append_comma_of_empty {first : Text} (second : Text) (closed : (read first).state = {})
    (empty : (read first).piece = []) :
    split (first ++ ',' :: second) = (read first).done ++ split second := by
  have splits : (read first).state.splits ',' = true := by rw [closed]; rfl
  have ended : (read first).next ',' = { done := (read first).done } := by
    rw [Reading.next, if_pos splits, if_pos (by simpa using empty), closed]
    rfl
  rw [split_append_comma_eq, ended, Reading.finish_anew]

theorem split_append_comma_of_open {first : Text} (second : Text) (opened : (read first).state ≠ {}) :
    ∃ more others, split (first ++ ',' :: second) =
      (read first).done ++ Text.trim ((read first).piece ++ ',' :: more) :: others := by
  have stays : (read first).state.splits ',' ≠ true := fun splits => opened (eq_of_splits splits).1
  obtain ⟨more, rest, later⟩ :=
    List.exists_cons_of_ne_nil (pieces_ne_nil ((read first).state.next ',') second)
  rw [split_append_comma_eq, Reading.finish_upTo, Reading.next, if_neg stays]
  simp only [later, List.modifyHead_cons, List.append_assoc, List.singleton_append]
  cases rest with
  | nil => exact ⟨more, [], rfl⟩
  | cons second rest =>
    refine ⟨more, (keep (second :: rest)).map Text.trim, ?_⟩
    rw [keep_cons _ (List.cons_ne_nil second rest), if_neg (by simp), List.map_cons]

/-- The list of two texts with a comma between them is the list of the first one followed by the list of the
second exactly when the reader ends the first one outside quotes, brackets and escapes and has read
something since the last comma. And each selector of a list, read by itself, is the only one of its list. -/
theorem split_compositional (first second : Text) :
    (split (first ++ ',' :: second) = split first ++ split second ↔
        (read first).state = {} ∧ (read first).piece ≠ []) ∧
      ∀ selector ∈ split first, split selector = [selector] := by
  refine ⟨⟨fun same => ?_, fun ⟨closed, full⟩ => split_append_comma_of_closed second closed full⟩, ?_⟩
  · rw [split_eq_finish first, Reading.finish, List.append_assoc] at same
    by_cases closed : (read first).state = {}
    · refine ⟨closed, fun empty => ?_⟩
      rw [split_append_comma_of_empty second closed empty, List.append_cancel_left_eq] at same
      have lengths := congrArg List.length same
      simp at lengths
    · -- The piece under way would be a selector with its comma and without it.
      obtain ⟨more, others, longer⟩ := split_append_comma_of_open second closed
      rw [longer, List.append_cancel_left_eq] at same
      have commas := congrArg (List.count ',') (List.cons.inj same).1
      rw [Text.count_trim _ (by decide), Text.count_trim _ (by decide), List.count_append,
        List.count_cons_self] at commas
      omega
  · intro selector listed
    have ⟨trimmed, unsplit, _⟩ := of_mem_split listed
    rw [split_of_unsplit unsplit, trimmed]

/-- Commas inside brackets and quotes and behind a backslash, an empty piece that is skipped, and a last piece
that is blank. -/
theorem split_compositional_nested :
    split ("a:is(b,c) ,,\"x,y\" \\, , ".toList ++ ',' :: ",(d,e".toList) =
        split "a:is(b,c) ,,\"x,y\" \\, , ".toList ++ split ",(d,e".toList ∧
      "\"x,y\" \\,".toList ∈ split "a:is(b,c) ,,\"x,y\" \\, , ".toList ∧
      split "\"x,y\" \\,".toList = ["\"x,y\" \\,".toList] := by
  have ⟨joins, alone⟩ := split_compositional "a:is(b,c) ,,\"x,y\" \\, , ".toList ",(d,e".toList
  have listed : "\"x,y\" \\,".toList ∈ split "a:is(b,c) ,,\"x,y\" \\, , ".toList := by decide +kernel
  exact ⟨joins.mpr (by decide +kernel), listed, alone _ listed⟩

end SelectorList

end NestLint
