import NestLint.Proofs.SelectorList.Composition

/-!
When joined selectors are read back. A selector is trimmed when it is read, and if the first blank behind it
was escaped, the backslash stays and the blank goes; such a selector takes the next separator along. Quotes and
brackets are always closed where a selector ends. So joined selectors are read back exactly when each of them
alone is one selector and each but the last leaves nothing open.
-/

namespace NestLint

namespace SelectorList

/-- The text ends with a backslash that takes the next character along. -/
def Escaping (text : Text) : Prop := (State.after {} text).escaped = true

instance (text : Text) : Decidable (Escaping text) := inferInstanceAs (Decidable (_ = _))

section blanks

variable {st : State} (visible : ∀ quote ∈ st.quote, Text.isBlank quote = false)

include visible

theorem visible_quote_next (c : Char) : ∀ quote ∈ (st.next c).quote, Text.isBlank quote = false := by
  intro quote isQuote
  unfold State.next at isQuote
  split at isQuote
  · exact visible quote isQuote
  split at isQuote
  · exact visible quote isQuote
  split at isQuote
  next =>
    split at isQuote
    · cases isQuote
    · exact visible quote isQuote
  next =>
    split at isQuote
    next opens =>
      cases isQuote
      rcases opens with rfl | rfl <;> decide
    next =>
      split at isQuote
      · exact visible quote isQuote
      split at isQuote
      · exact visible quote isQuote
      · exact visible quote isQuote

theorem visible_quote_after (text : Text) :
    ∀ quote ∈ (st.after text).quote, Text.isBlank quote = false := by
  induction text generalizing st with
  | nil => exact visible
  | cons c cs ih => exact ih (visible_quote_next visible c)

theorem next_of_plain (plain : st.escaped = false) {c : Char} (blank : Text.isBlank c = true) :
    st.next c = st := by
  have other : ∀ d, Text.isBlank d = false → c ≠ d := by
    rintro d isVisible rfl
    rw [isVisible] at blank
    cases blank
  unfold State.next
  rw [plain, if_neg (by simp), if_neg (other '\\' (by decide))]
  cases isQuote : st.quote with
  | some quote => exact if_neg (other quote (visible quote isQuote))
  | none => simp [other '"' (by decide), other '\'' (by decide), other '(' (by decide), other ')' (by decide)]

theorem after_of_plain (plain : st.escaped = false) (blanks : Text)
    (all : ∀ c ∈ blanks, Text.isBlank c = true) : st.after blanks = st := by
  induction blanks with
  | nil => rfl
  | cons c cs ih =>
    rw [List.forall_mem_cons] at all
    rw [State.after, List.foldl_cons, next_of_plain visible plain all.1]
    exact ih all.2

end blanks

theorem closed_of_pieces {st : State} {text piece : Text} {others : List Text}
    (cut : pieces st text = piece :: others) :
    (others ≠ [] → st.after piece = {}) ∧ ∀ other ∈ others.dropLast, Closed other := by
  induction text generalizing st piece others with
  | nil =>
    rw [pieces, List.cons.injEq] at cut
    rw [← cut.2]
    exact ⟨fun some => absurd rfl some, by simp⟩
  | cons c cs ih =>
    obtain ⟨first, rest, later⟩ := List.exists_cons_of_ne_nil (pieces_ne_nil (st.next c) cs)
    obtain ⟨own, deeper⟩ := ih later
    rw [pieces, later] at cut
    split at cut
    next splits =>
      obtain ⟨rfl, rfl⟩ := eq_of_splits splits
      obtain ⟨rfl, rfl⟩ := List.cons.inj cut
      refine ⟨fun _ => rfl, fun other listed => ?_⟩
      cases rest with
      | nil => cases listed
      | cons second rest =>
        rcases List.mem_cons.mp listed with rfl | later
        · exact own (by simp)
        · exact deeper other later
    next =>
      obtain ⟨rfl, rfl⟩ := List.cons.inj cut
      exact ⟨own, deeper⟩

theorem closed_of_mem_pieces {text piece : Text} (listed : piece ∈ (pieces {} text).dropLast) :
    Closed piece := by
  obtain ⟨first, rest, cut⟩ := List.exists_cons_of_ne_nil (pieces_ne_nil {} text)
  obtain ⟨own, others⟩ := closed_of_pieces cut
  rw [cut] at listed
  cases rest with
  | nil => cases listed
  | cons second rest =>
    rcases List.mem_cons.mp listed with rfl | later
    · exact own (by simp)
    · exact others piece later

theorem mem_dropLast_of_mem_keep {texts : List Text} {text : Text} (listed : text ∈ (keep texts).dropLast) :
    text ∈ texts.dropLast := by
  induction texts with
  | nil => exact listed
  | cons first rest ih =>
    cases rest with
    | nil => exact listed
    | cons second rest =>
      rw [List.dropLast_cons_of_ne_nil (List.cons_ne_nil _ _)]
      rw [keep] at listed
      · split at listed
        · exact List.mem_cons_of_mem first (ih listed)
        · rw [List.dropLast_cons_of_ne_nil (keep_ne_nil (List.cons_ne_nil _ _))] at listed
          rcases List.mem_cons.mp listed with rfl | later
          · exact List.mem_cons_self
          · exact List.mem_cons_of_mem first (ih later)
      · simp

/-- A selector before another one is left open by an escape at most. -/
theorem closed_iff_not_escaping {text selector : Text} (listed : selector ∈ (split text).dropLast) :
    Closed selector ↔ ¬ Escaping selector := by
  refine ⟨fun closed => ?_, fun plain => ?_⟩
  · rw [Escaping, closed]
    decide
  rw [split, ← List.map_dropLast] at listed
  obtain ⟨piece, kept, rfl⟩ := List.mem_map.mp listed
  have closed : State.after {} piece = {} := closed_of_mem_pieces (mem_dropLast_of_mem_keep kept)
  have whole : piece = piece.takeWhile Text.isBlank ++
      (piece.trim ++ (Text.splitEnd Text.isBlank piece.trimStart).2) := by
    rw [Text.trim, Text.trimEnd, Text.splitEnd_append]
    exact List.takeWhile_append_dropWhile.symm
  have before := (after_of_all_isBlank (piece.takeWhile Text.isBlank) fun c inside =>
    List.mem_takeWhile_imp inside).1
  rw [whole, after_append, before, after_append, after_of_plain (visible_quote_after (by simp) _)
    (by simpa [Escaping] using plain) _ (Text.of_mem_splitEnd Text.isBlank _)] at closed
  exact closed

theorem split_append_comma {front : Text} (rest : Text) (full : front ≠ []) (unsplit : Unsplit {} front)
    (closed : Closed front) : split (front ++ ',' :: rest) = front.trim :: split rest := by
  have read := read_of_unsplit unsplit
  rw [split_append_comma_of_closed rest (by rw [read]; exact closed) (by rw [read]; exact full),
    split_of_unsplit unsplit, List.singleton_append]

theorem head_split_append_comma {front : Text} (rest : Text) (unsplit : Unsplit {} front)
    (escaping : Escaping front) :
    ∃ more others, split (front ++ ',' :: rest) = Text.trim (front ++ ',' :: more) :: others := by
  have read := read_of_unsplit unsplit
  have opened : (SelectorList.read front).state ≠ {} := by
    intro shut
    rw [read] at shut
    have closed : State.after {} front = {} := shut
    rw [Escaping, closed] at escaping
    cases escaping
  have joined := split_append_comma_of_open rest opened
  rwa [read] at joined

theorem not_escaping_of_split_join {behind : Text} (behindBlank : ∀ c ∈ behind, Text.isBlank c = true)
    {selectors : List Text} (full : ∀ selector ∈ selectors, selector ≠ [])
    (trimmed : ∀ selector ∈ selectors, selector.trim = selector)
    (unsplit : ∀ selector ∈ selectors, Unsplit {} selector)
    (closed : ∀ selector ∈ selectors.dropLast, Closed selector ↔ ¬ Escaping selector) (blanks : Text)
    (blank : ∀ c ∈ blanks, Text.isBlank c = true)
    (same : split (blanks ++ Text.join (',' :: behind) selectors) = selectors) :
    ∀ selector ∈ selectors.dropLast, ¬ Escaping selector := by
  induction selectors generalizing blanks with
  | nil => simp
  | cons first rest ih =>
    cases rest with
    | nil => simp
    | cons second rest =>
      have joined : blanks ++ Text.join (',' :: behind) (first :: second :: rest) =
          (blanks ++ first) ++ ',' :: (behind ++ Text.join (',' :: behind) (second :: rest)) := by
        simp [Text.join]
      obtain ⟨stays, blanksUnsplit⟩ := after_of_all_isBlank blanks blank
      have own : Unsplit {} (blanks ++ first) := by
        rw [unsplit_append, stays]
        exact ⟨blanksUnsplit, unsplit first List.mem_cons_self⟩
      have drops : ∀ text : Text, Text.trim (blanks ++ text) = text.trim := by
        intro text
        rw [Text.trim, Text.trim, Text.trimStart, List.dropWhile_append_of_pos blank]
        rfl
      rw [List.forall_mem_cons] at full trimmed unsplit
      rw [List.dropLast_cons_of_ne_nil (List.cons_ne_nil _ _), List.forall_mem_cons] at closed ⊢
      rw [joined] at same
      by_cases escaping : Escaping first
      · -- The first selector would be read with its comma.
        have open' : Escaping (blanks ++ first) := by
          rw [Escaping, after_append, stays]
          exact escaping
        obtain ⟨more, others, read⟩ := head_split_append_comma
          (behind ++ Text.join (',' :: behind) (second :: rest)) own open'
        rw [same, List.append_assoc, drops] at read
        obtain ⟨c, cs, rfl⟩ := List.exists_cons_of_ne_nil full.1
        rw [List.cons_append, Text.trim_cons _ (Text.visible_of_trim trimmed.1),
          Text.trimEnd_append_cons cs more (by decide)] at read
        have longer := congrArg List.length (List.cons.inj read).1
        rw [List.length_cons, List.length_cons, List.length_append, List.length_cons] at longer
        omega
      · refine ⟨escaping, ih full.2 trimmed.2 unsplit.2 closed.2 behind behindBlank ?_⟩
        have shut : Closed (blanks ++ first) := by
          rw [Closed, after_append, stays]
          exact closed.1.mpr escaping
        have some : blanks ++ first ≠ [] := by simp [full.1]
        rw [split_append_comma _ some own shut] at same
        exact (List.cons.inj same).2

theorem split_join_iff {separator : Text} {selectors : List Text}
    (isSeparator : 1 < selectors.length → IsSeparator separator) (some : selectors ≠ [])
    (full : ∀ selector ∈ selectors, selector ≠ [])
    (trimmed : ∀ selector ∈ selectors, selector.trim = selector) :
    split (Text.join separator selectors) = selectors ↔
      (∀ selector ∈ selectors, Unsplit {} selector) ∧ ∀ selector ∈ selectors.dropLast, Closed selector := by
  refine ⟨fun same => ?_, fun ⟨unsplit, closed⟩ => split_join isSeparator some full trimmed unsplit closed⟩
  have unsplit : ∀ selector ∈ selectors, Unsplit {} selector := fun selector listed =>
    (of_mem_split (same.symm ▸ listed)).2.1
  have ends : ∀ selector ∈ selectors.dropLast, Closed selector ↔ ¬ Escaping selector := fun selector listed =>
    closed_iff_not_escaping (same.symm ▸ listed)
  refine ⟨unsplit, fun selector listed => (ends selector listed).mpr ?_⟩
  have several : 1 < selectors.length := by
    have lengths := List.length_pos_of_mem listed
    rw [List.length_dropLast] at lengths
    omega
  obtain ⟨behind, rfl, blank⟩ := isSeparator several
  exact not_escaping_of_split_join blank full trimmed unsplit ends [] (by simp) same selector listed

end SelectorList

end NestLint
