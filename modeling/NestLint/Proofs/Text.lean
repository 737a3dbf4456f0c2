import NestLint.Text.Basic

/-!
Cutting and trimming texts. The end of a text is cut in one place only: what stays does not end with
a character of the run that is cut off, and everything that is cut off belongs to the run.
-/

namespace NestLint

namespace Text

theorem isPrefix_trimEnd (text : Text) : trimEnd text <+: text := ⟨_, splitEnd_append isBlank text⟩

theorem splitEnd_of_all (p : Char → Bool) (text : Text) (all : ∀ c ∈ text, p c = true) :
    splitEnd p text = ([], text) := by
  induction text with
  | nil => rfl
  | cons c cs ih =>
    rw [splitEnd, ih fun d later => all d (List.mem_cons_of_mem c later)]
    simp [all c List.mem_cons_self]

theorem of_mem_splitEnd (p : Char → Bool) (text : Text) : ∀ c ∈ (splitEnd p text).2, p c = true := by
  induction text with
  | nil => simp [splitEnd]
  | cons c cs ih =>
    unfold splitEnd
    split
    next tail same =>
      rw [same] at ih
      split
      next fits => simpa [fits] using ih
      next => exact ih
    next body tail _ same =>
      rw [same] at ih
      exact ih

theorem append_cons_inj {c : Char} {first second rest rest' : Text} (absent : c ∉ first)
    (absent' : c ∉ second) (same : first ++ c :: rest = second ++ c :: rest') :
    first = second ∧ rest = rest' := by
  induction first generalizing second with
  | nil =>
    cases second with
    | nil => exact ⟨rfl, (List.cons.inj same).2⟩
    | cons d second => exact absurd ((List.cons.inj same).1 ▸ List.mem_cons_self) absent'
  | cons b first ih =>
    cases second with
    | nil => exact absurd ((List.cons.inj same).1 ▸ List.mem_cons_self) absent
    | cons d second =>
      rw [List.cons_append, List.cons_append, List.cons.injEq] at same
      obtain ⟨rfl, rest⟩ := same
      obtain ⟨rfl, rfl⟩ := ih (fun later => absent (List.mem_cons_of_mem b later))
        (fun later => absent' (List.mem_cons_of_mem b later)) rest
      exact ⟨rfl, rfl⟩

theorem strip_eq_some {start text rest : Text} (found : strip start text = some rest) :
    text = start ++ rest := by
  induction start generalizing text with
  | nil =>
    rw [strip, Option.some.injEq] at found
    exact found
  | cons a start ih =>
    cases text with
    | nil => simp [strip] at found
    | cons b text =>
      rw [strip] at found
      split at found
      next same => rw [same, List.cons_append, ← ih found]
      next => cases found

theorem strip_append_append (shared start text : Text) :
    strip (shared ++ start) (shared ++ text) = strip start text := by
  induction shared with
  | nil => rfl
  | cons c shared ih => rw [List.cons_append, List.cons_append, strip, if_pos rfl, ih]

theorem stripEnd_eq_some {finish text rest : Text} (found : stripEnd finish text = some rest) :
    text = rest ++ finish := by
  obtain ⟨back, stripped, rfl⟩ := Option.map_eq_some_iff.mp found
  have whole := congrArg List.reverse (strip_eq_some stripped)
  rwa [List.reverse_reverse, List.reverse_append, List.reverse_reverse] at whole

theorem splitEnd_concat (p : Char → Bool) (text : Text) {c : Char} (outside : p c = false) :
    splitEnd p (text ++ [c]) = (text ++ [c], []) := by
  induction text with
  | nil => simp [splitEnd, outside]
  | cons d rest ih =>
    rw [List.cons_append, splitEnd, ih]
    cases rest <;> rfl

theorem trimEnd_concat (text : Text) {c : Char} (visible : isBlank c = false) :
    trimEnd (text ++ [c]) = text ++ [c] := by rw [trimEnd, splitEnd_concat isBlank text visible]

theorem outside_of_splitEnd {p : Char → Bool} {text front : Text} {c : Char}
    (same : (splitEnd p text).1 = front ++ [c]) : p c = false := by
  induction text generalizing front with
  | nil => simp [splitEnd] at same
  | cons d rest ih =>
    rw [splitEnd] at same
    split at same
    next tail isEmpty =>
      split at same
      next => simp at same
      next visible =>
        cases front with
        | nil =>
          have only : d = c := by simpa using same
          rw [← only]
          simpa using visible
        | cons e front => simp at same
    next body tail full isBody =>
      cases front with
      | nil =>
        have none : body = [] := (List.cons.inj same).2
        exact absurd none full
      | cons e front =>
        apply ih
        rw [isBody]
        exact (List.cons.inj same).2

theorem visible_of_trimEnd {text front : Text} {c : Char} (same : trimEnd text = front ++ [c]) :
    isBlank c = false := outside_of_splitEnd same

theorem trimEnd_of_append {text front rest : Text} (same : trimEnd text = front ++ rest) :
    trimEnd rest = rest := by
  rcases List.eq_nil_or_concat rest with rfl | ⟨body, c, rfl⟩
  · rfl
  · rw [List.concat_eq_append, ← List.append_assoc] at same
    rw [List.concat_eq_append]
    exact trimEnd_concat body (visible_of_trimEnd same)

theorem trimStart_cons {c : Char} (text : Text) (visible : isBlank c = false) :
    trimStart (c :: text) = c :: text := by
  rw [trimStart, List.dropWhile_cons_of_neg (by simp [visible])]

theorem trimEnd_trimEnd (text : Text) : trimEnd (trimEnd text) = trimEnd text := by
  have whole : trimEnd text = [] ++ trimEnd text := rfl
  exact trimEnd_of_append whole

theorem splitEnd_append_of_all {p : Char → Bool} {front back : Text}
    (visible : (splitEnd p front).1 = front) (all : ∀ c ∈ back, p c = true) :
    splitEnd p (front ++ back) = (front, back) := by
  induction front with
  | nil => exact splitEnd_of_all p back all
  | cons c front ih =>
    rw [splitEnd] at visible
    rw [List.cons_append, splitEnd]
    split at visible
    next tail isNil =>
      split at visible
      next => cases visible
      next outside =>
        obtain rfl : front = [] := (List.cons.inj visible).2.symm
        rw [List.nil_append, splitEnd_of_all p back all]
        simp [outside]
    next body tail some isBody =>
      obtain rfl : body = front := (List.cons.inj visible).2
      rw [ih (by rw [isBody])]
      cases body with
      | nil => exact absurd rfl some
      | cons d body => rfl

theorem visible_of_trim {text rest : Text} {c : Char} (same : trim text = c :: rest) :
    isBlank c = false := by
  obtain ⟨tail, whole⟩ := isPrefix_trimEnd (trimStart text)
  rw [trim] at same
  rw [same, List.cons_append] at whole
  have first := List.head?_dropWhile_not isBlank text
  rw [← trimStart, ← whole] at first
  simpa using first

theorem mem_of_mem_trim {text : Text} {c : Char} (listed : c ∈ trim text) : c ∈ text :=
  (List.dropWhile_suffix isBlank).subset ((isPrefix_trimEnd (trimStart text)).subset listed)

theorem trimEnd_cons {c : Char} (text : Text) (visible : isBlank c = false) :
    trimEnd (c :: text) = c :: trimEnd text := by
  rw [trimEnd, trimEnd, splitEnd]
  cases splitEnd isBlank text with
  | mk body tail => cases body <;> simp [visible]

theorem trimEnd_append_cons (front rest : Text) {c : Char} (visible : isBlank c = false) :
    trimEnd (front ++ c :: rest) = front ++ c :: trimEnd rest := by
  induction front with
  | nil => exact trimEnd_cons rest visible
  | cons d front ih =>
    rw [List.cons_append, trimEnd, splitEnd]
    rw [trimEnd] at ih
    cases cut : splitEnd isBlank (front ++ c :: rest) with
    | mk body tail =>
      rw [cut] at ih
      cases body with
      | nil => simp at ih
      | cons e body => exact congrArg (d :: ·) ih

theorem trim_cons {c : Char} (text : Text) (visible : isBlank c = false) :
    trim (c :: text) = c :: trimEnd text := by
  rw [trim, trimStart_cons text visible, trimEnd_cons text visible]

theorem trimEnd_append_of_trim (front : Text) {last : Text} (full : last ≠ []) (trimmed : last.trim = last) :
    trimEnd (front ++ last) = front ++ last := by
  rcases List.eq_nil_or_concat last with rfl | ⟨body, c, rfl⟩
  · exact absurd rfl full
  · rw [List.concat_eq_append] at trimmed ⊢
    rw [← List.append_assoc]
    exact trimEnd_concat _ (visible_of_trimEnd trimmed)

theorem trim_append_append {first last : Text} (middle : Text) (fullFirst : first ≠ [])
    (trimFirst : first.trim = first) (fullLast : last ≠ []) (trimLast : last.trim = last) :
    (first ++ middle ++ last).trim = first ++ middle ++ last := by
  cases first with
  | nil => exact absurd rfl fullFirst
  | cons c first =>
    rw [List.cons_append, List.cons_append, trim_cons _ (visible_of_trim trimFirst),
      trimEnd_append_of_trim _ fullLast trimLast]

theorem trim_join (separator : Text) {texts : List Text} (some : texts ≠ [])
    (full : ∀ text ∈ texts, text ≠ []) (trimmed : ∀ text ∈ texts, text.trim = text) :
    (join separator texts).trim = join separator texts ∧ join separator texts ≠ [] := by
  induction texts with
  | nil => exact absurd rfl some
  | cons first rest ih =>
    rw [List.forall_mem_cons] at full trimmed
    cases rest with
    | nil => exact ⟨trimmed.1, full.1⟩
    | cons second rest =>
      obtain ⟨trimLater, fullLater⟩ := ih (List.cons_ne_nil _ _) full.2 trimmed.2
      rw [join]
      · exact ⟨trim_append_append separator full.1 trimmed.1 fullLater trimLater, by simp [full.1]⟩
      · simp

theorem exists_join_cons (separator text : Text) (texts : List Text) :
    ∃ more, join separator (text :: texts) = text ++ more := by
  cases texts with
  | nil => exact ⟨[], by rw [join, List.append_nil]⟩
  | cons second rest => exact ⟨separator ++ join separator (second :: rest), by simp [join]⟩

theorem mem_join {separator : Text} {texts : List Text} {c : Char} (listed : c ∈ join separator texts) :
    (∃ text ∈ texts, c ∈ text) ∨ (1 < texts.length ∧ c ∈ separator) := by
  induction texts with
  | nil => cases listed
  | cons first rest ih =>
    cases rest with
    | nil => exact Or.inl ⟨first, List.mem_cons_self, listed⟩
    | cons second rest =>
      rw [join, List.mem_append, List.mem_append] at listed
      · rcases listed with (own | between) | later
        · exact Or.inl ⟨first, List.mem_cons_self, own⟩
        · exact Or.inr ⟨by simp, between⟩
        · rcases ih later with ⟨text, isText, inside⟩ | ⟨-, between⟩
          · exact Or.inl ⟨text, List.mem_cons_of_mem first isText, inside⟩
          · exact Or.inr ⟨by simp, between⟩
      · simp

theorem splitEnd_cons (p : Char → Bool) (c : Char) (text : Text) :
    splitEnd p (c :: text) =
      if (splitEnd p text).1 = [] then
        if p c then ([], c :: (splitEnd p text).2) else ([c], (splitEnd p text).2)
      else (c :: (splitEnd p text).1, (splitEnd p text).2) := by
  rw [splitEnd]
  cases splitEnd p text with
  | mk body tail => cases body <;> rfl

def backslashes (text : Text) : Nat := (splitEnd (· == '\\') text).2.length

theorem backslashes_cons {c : Char} (other : c ≠ '\\') (text : Text) :
    backslashes (c :: text) = backslashes text := by
  have outside : ((c == '\\') = true) = False := by simpa using other
  rw [backslashes, splitEnd_cons]
  simp only [outside, if_false]
  split <;> rfl

theorem backslashes_append_cons {c : Char} (other : c ≠ '\\') (front text : Text) :
    backslashes (front ++ c :: text) = backslashes text := by
  induction front with
  | nil => exact backslashes_cons other text
  | cons d front ih =>
    have full : (splitEnd (· == '\\') (front ++ c :: text)).1 ≠ [] := by
      intro none
      have whole := splitEnd_append (· == '\\') (front ++ c :: text)
      rw [none, List.nil_append] at whole
      have listed : c ∈ (splitEnd (· == '\\') (front ++ c :: text)).2 := by rw [whole]; simp
      exact other (by simpa using of_mem_splitEnd _ _ c listed)
    rw [List.cons_append, backslashes, splitEnd_cons, if_neg full]
    exact ih

/-- A backslash and the character that it takes along do not matter for whether the next one is taken. -/
theorem backslashes_escape (d : Char) (text : Text) :
    backslashes ('\\' :: d :: text) % 2 = backslashes text % 2 := by
  by_cases escape : d = '\\'
  · subst escape
    rw [backslashes, backslashes, splitEnd_cons, splitEnd_cons]
    by_cases none : (splitEnd (· == '\\') text).1 = []
    · simp only [none, if_true, beq_self_eq_true, List.length_cons]
      omega
    · simp [none]
  · exact congrArg (· % 2) (backslashes_append_cons escape ['\\'] text)

end Text

end NestLint
