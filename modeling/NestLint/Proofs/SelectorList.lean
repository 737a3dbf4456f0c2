import Mathlib.Data.List.TakeWhile
import NestLint.Proofs.Nesting.Selectors

/-!
Reading a list of selectors and writing it back. Every selector of a list begins with nothing open, no
quote, no bracket and no escape, and holds no comma that would split it. When such selectors are joined
by a comma and blanks, and each but the last leaves nothing open, reading gives the same selectors.
-/

namespace NestLint

namespace SelectorList

def State.after (st : State) (text : Text) : State := text.foldl State.next st

/-- The text leaves no quote, no bracket and no escape open. -/
def Closed (text : Text) : Prop := State.after {} text = {}

instance (text : Text) : Decidable (Closed text) := inferInstanceAs (Decidable (_ = _))

def Unsplit : State → Text → Prop
  | _, [] => True
  | st, c :: cs => st.splits c = false ∧ Unsplit (st.next c) cs

instance decidableUnsplit : ∀ (st : State) (text : Text), Decidable (Unsplit st text)
  | _, [] => inferInstanceAs (Decidable True)
  | st, c :: cs =>
    have := decidableUnsplit (st.next c) cs
    inferInstanceAs (Decidable (_ ∧ _))

theorem unsplit_append {st : State} {first second : Text} :
    Unsplit st (first ++ second) ↔ Unsplit st first ∧ Unsplit (st.after first) second := by
  induction first generalizing st with
  | nil => exact ⟨fun rest => ⟨trivial, rest⟩, fun both => both.2⟩
  | cons c cs ih =>
    rw [List.cons_append, Unsplit, Unsplit, ih, and_assoc]
    rfl

theorem after_append (st : State) (first second : Text) :
    st.after (first ++ second) = (st.after first).after second := List.foldl_append

theorem pieces_append {st : State} {first : Text} (unsplit : Unsplit st first) {rest piece : Text}
    {others : List Text} (cut : pieces (st.after first) rest = piece :: others) :
    pieces st (first ++ rest) = (first ++ piece) :: others := by
  induction first generalizing st with
  | nil => exact cut
  | cons c cs ih =>
    rw [List.cons_append, pieces, unsplit.1, ih unsplit.2 cut]
    rfl

theorem pieces_of_unsplit {st : State} {text : Text} (unsplit : Unsplit st text) :
    pieces st text = [text] := by
  have whole : pieces st (text ++ []) = (text ++ []) :: [] := pieces_append unsplit rfl
  rwa [List.append_nil] at whole

theorem eq_of_splits {st : State} {c : Char} (splits : st.splits c = true) : st = {} ∧ c = ',' := by
  obtain ⟨escaped, quote, depth⟩ := st
  simp only [State.splits, Bool.and_eq_true, Bool.not_eq_true', Option.isNone_iff_eq_none,
    beq_iff_eq] at splits
  obtain ⟨⟨⟨rfl, rfl⟩, rfl⟩, rfl⟩ := splits
  exact ⟨rfl, rfl⟩

theorem unsplit_of_pieces {st : State} {text piece : Text} {others : List Text}
    (cut : pieces st text = piece :: others) :
    Unsplit st piece ∧ ∀ other ∈ others, Unsplit {} other := by
  induction text generalizing st piece others with
  | nil =>
    rw [pieces, List.cons.injEq] at cut
    rw [← cut.1, ← cut.2]
    exact ⟨trivial, by simp⟩
  | cons c cs ih =>
    rw [pieces] at cut
    split at cut
    next splits =>
      obtain ⟨rfl, rfl⟩ := eq_of_splits splits
      rw [List.cons.injEq] at cut
      obtain ⟨rfl, rfl⟩ := cut
      refine ⟨trivial, fun other listed => ?_⟩
      cases later : pieces (State.next {} ',') cs with
      | nil => rw [later] at listed; cases listed
      | cons first rest =>
        obtain ⟨own, deeper⟩ := ih later
        rw [later] at listed
        rcases List.mem_cons.mp listed with rfl | deep
        · exact own
        · exact deeper other deep
    next stays =>
      cases later : pieces (st.next c) cs with
      | nil =>
        rw [later, consFirst, List.cons.injEq] at cut
        rw [← cut.1, ← cut.2]
        exact ⟨⟨by simpa using stays, trivial⟩, by simp⟩
      | cons first rest =>
        rw [later, consFirst, List.cons.injEq] at cut
        obtain ⟨own, deeper⟩ := ih later
        rw [← cut.1, ← cut.2]
        exact ⟨⟨by simpa using stays, own⟩, deeper⟩

theorem pieces_ne_nil (st : State) (text : Text) : pieces st text ≠ [] := by
  cases text with
  | nil => simp [pieces]
  | cons c cs =>
    rw [pieces]
    split
    · simp
    · cases pieces (st.next c) cs <;> simp [consFirst]

theorem unsplit_of_mem_pieces {text piece : Text} (listed : piece ∈ pieces {} text) :
    Unsplit {} piece := by
  cases cut : pieces {} text with
  | nil => rw [cut] at listed; cases listed
  | cons first rest =>
    obtain ⟨own, others⟩ := unsplit_of_pieces cut
    rw [cut] at listed
    rcases List.mem_cons.mp listed with rfl | later
    · exact own
    · exact others piece later

theorem mem_of_mem_pieces {st : State} {text piece : Text} (listed : piece ∈ pieces st text) :
    ∀ c ∈ piece, c ∈ text := by
  induction text generalizing st piece with
  | nil =>
    rw [pieces, List.mem_singleton] at listed
    simp [listed]
  | cons d cs ih =>
    intro c inPiece
    rw [pieces] at listed
    split at listed
    next =>
      rcases List.mem_cons.mp listed with rfl | later
      · cases inPiece
      · exact List.mem_cons_of_mem d (ih later c inPiece)
    next =>
      cases cut : pieces (st.next d) cs with
      | nil => exact absurd cut (pieces_ne_nil _ _)
      | cons first rest =>
        rw [cut, consFirst] at listed
        rcases List.mem_cons.mp listed with rfl | later
        · rcases List.mem_cons.mp inPiece with rfl | deeper
          · exact List.mem_cons_self
          · exact List.mem_cons_of_mem d (ih (cut ▸ List.mem_cons_self) c deeper)
        · exact List.mem_cons_of_mem d (ih (cut ▸ List.mem_cons_of_mem first later) c inPiece)

theorem mem_of_mem_keep {texts : List Text} {text : Text} (listed : text ∈ keep texts) : text ∈ texts := by
  induction texts with
  | nil => exact listed
  | cons first rest ih =>
    cases rest with
    | nil => exact listed
    | cons second rest =>
      rw [keep] at listed
      · split at listed
        · exact List.mem_cons_of_mem first (ih listed)
        · rcases List.mem_cons.mp listed with rfl | later
          · exact List.mem_cons_self
          · exact List.mem_cons_of_mem first (ih later)
      · simp

theorem keep_ne_nil {texts : List Text} (some : texts ≠ []) : keep texts ≠ [] := by
  induction texts with
  | nil => exact some
  | cons first rest ih =>
    cases rest with
    | nil => exact some
    | cons second rest =>
      rw [keep]
      · split
        · exact ih (by simp)
        · simp
      · simp

theorem split_ne_nil (text : Text) : split text ≠ [] := by
  rw [split, ne_eq, List.map_eq_nil_iff]
  exact keep_ne_nil (pieces_ne_nil {} text)

theorem next_of_isBlank {c : Char} (blank : Text.isBlank c = true) :
    State.next {} c = {} ∧ State.splits {} c = false := by
  have other : ∀ d, Text.isBlank d = false → c ≠ d := by
    rintro d visible rfl
    rw [visible] at blank
    cases blank
  simp [State.next, State.splits, other '\\' (by decide), other '"' (by decide), other '\'' (by decide),
    other '(' (by decide), other ')' (by decide), other ',' (by decide)]

theorem after_of_all_isBlank (blanks : Text) (all : ∀ c ∈ blanks, Text.isBlank c = true) :
    State.after {} blanks = {} ∧ Unsplit {} blanks := by
  induction blanks with
  | nil => exact ⟨rfl, trivial⟩
  | cons c cs ih =>
    obtain ⟨stays, unsplit⟩ := next_of_isBlank (all c List.mem_cons_self)
    obtain ⟨closed, later⟩ := ih fun d listed => all d (List.mem_cons_of_mem c listed)
    rw [State.after, List.foldl_cons, Unsplit, stays]
    exact ⟨closed, unsplit, later⟩

theorem of_mem_split {text selector : Text} (listed : selector ∈ split text) :
    selector.trim = selector ∧ Unsplit {} selector ∧ ∀ c ∈ selector, c ∈ text := by
  obtain ⟨piece, kept, rfl⟩ := List.mem_map.mp listed
  have isPiece := mem_of_mem_keep kept
  refine ⟨?_, ?_, fun c within => mem_of_mem_pieces isPiece c (Text.mem_of_mem_trim within)⟩
  · cases same : piece.trim with
    | nil => rfl
    | cons c rest =>
      rw [Text.trim_cons rest (Text.visible_of_trim same)]
      congr 1
      exact Text.trimEnd_of_append (same.trans (List.singleton_append).symm)
  · have whole : piece = piece.takeWhile Text.isBlank ++ piece.trimStart := List.takeWhile_append_dropWhile.symm
    have unsplit := unsplit_of_mem_pieces isPiece
    rw [whole, unsplit_append] at unsplit
    have blanks := after_of_all_isBlank (piece.takeWhile Text.isBlank) fun c inside =>
      List.mem_takeWhile_imp inside
    rw [blanks.1] at unsplit
    obtain ⟨tail, isTail⟩ := Text.isPrefix_trimEnd piece.trimStart
    rw [← isTail, unsplit_append] at unsplit
    exact unsplit.2.1

def IsSeparator (separator : Text) : Prop :=
  ∃ blanks, separator = ',' :: blanks ∧ ∀ c ∈ blanks, Text.isBlank c = true

theorem isSeparator_of_separator? {text separator : Text} (present : separator? text = some separator) :
    IsSeparator separator := by
  unfold separator? at present
  split at present
  next => cases present
  next comma rest found =>
    cases present
    have isComma : comma = ',' := by
      have first := List.head?_dropWhile_not (· != ',') text
      rw [found] at first
      simpa using first
    exact ⟨_, by rw [isComma], fun c inside => List.mem_takeWhile_imp inside⟩

theorem exists_separator {text : Text} (several : 1 < (split text).length) :
    ∃ separator, separator? text = some separator := by
  unfold separator?
  split
  next none =>
    have absent : ',' ∉ text := by
      intro listed
      have all := List.dropWhile_eq_nil_iff.mp none ',' listed
      simp at all
    rw [split_of_not_mem text absent] at several
    exact absurd several (by simp)
  next comma rest _ => exact ⟨_, rfl⟩

theorem keep_pieces_join {separator : Text} (isSeparator : IsSeparator separator) {selectors : List Text}
    (some : selectors ≠ []) (full : ∀ selector ∈ selectors, selector ≠ [])
    (unsplit : ∀ selector ∈ selectors, Unsplit {} selector)
    (closed : ∀ selector ∈ selectors.dropLast, Closed selector) (blanks : Text)
    (blank : ∀ c ∈ blanks, Text.isBlank c = true) :
    ∃ first rest, selectors = first :: rest ∧
      keep (pieces {} (blanks ++ Text.join separator selectors)) =
        (blanks ++ first) :: rest.map (separator.tail ++ ·) := by
  obtain ⟨behind, rfl, behindBlank⟩ := isSeparator
  obtain ⟨stays, open'⟩ := after_of_all_isBlank blanks blank
  induction selectors generalizing blanks with
  | nil => exact absurd rfl some
  | cons first rest ih =>
    have own : Unsplit {} (blanks ++ first) := by
      rw [unsplit_append, stays]
      exact ⟨open', unsplit first List.mem_cons_self⟩
    refine ⟨first, rest, rfl, ?_⟩
    cases rest with
    | nil =>
      rw [Text.join, pieces_of_unsplit own]
      rfl
    | cons second rest =>
      have closedFirst : State.after {} (blanks ++ first) = {} := by
        rw [after_append, stays]
        exact closed first (by simp)
      obtain ⟨stays', open''⟩ := after_of_all_isBlank behind behindBlank
      obtain ⟨_, _, same, read⟩ := ih (by simp)
        (fun selector listed => full selector (List.mem_cons_of_mem first listed))
        (fun selector listed => unsplit selector (List.mem_cons_of_mem first listed))
        (fun selector listed => closed selector (by
          rw [List.dropLast_cons_of_ne_nil (by simp)]
          exact List.mem_cons_of_mem first listed)) behind behindBlank stays' open''
      cases same
      have joined : blanks ++ Text.join (',' :: behind) (first :: second :: rest) =
          (blanks ++ first) ++ ',' :: (behind ++ Text.join (',' :: behind) (second :: rest)) := by
        simp [Text.join]
      have cut : pieces (State.after {} (blanks ++ first))
          (',' :: (behind ++ Text.join (',' :: behind) (second :: rest))) =
            [] :: pieces {} (behind ++ Text.join (',' :: behind) (second :: rest)) := by
        rw [closedFirst, pieces]
        rfl
      have visible : (blanks ++ first).isEmpty = false := by
        have nonempty := full first List.mem_cons_self
        cases blanks <;> cases first <;> simp_all
      rw [joined, pieces_append own cut, List.append_nil]
      cases later : pieces {} (behind ++ Text.join (',' :: behind) (second :: rest)) with
      | nil => exact absurd later (pieces_ne_nil _ _)
      | cons piece others =>
        rw [keep, visible, ← later, read]
        · rfl
        · simp

theorem split_join {separator : Text} {selectors : List Text}
    (isSeparator : 1 < selectors.length → IsSeparator separator) (some : selectors ≠ [])
    (full : ∀ selector ∈ selectors, selector ≠ [])
    (trimmed : ∀ selector ∈ selectors, selector.trim = selector)
    (unsplit : ∀ selector ∈ selectors, Unsplit {} selector)
    (closed : ∀ selector ∈ selectors.dropLast, Closed selector) :
    split (Text.join separator selectors) = selectors := by
  cases selectors with
  | nil => exact absurd rfl some
  | cons first rest =>
    cases rest with
    | nil =>
      rw [Text.join, split, pieces_of_unsplit (unsplit first List.mem_cons_self), keep, List.map_cons,
        trimmed first List.mem_cons_self, List.map_nil]
    | cons second rest =>
      have parts := isSeparator (by simp)
      obtain ⟨_, _, same, read⟩ := keep_pieces_join parts some full unsplit closed [] (by simp)
      cases same
      obtain ⟨behind, rfl, behindBlank⟩ := parts
      have drops : ∀ selector : Text, Text.trim (behind ++ selector) = selector.trim := by
        intro selector
        rw [Text.trim, Text.trim, Text.trimStart, List.dropWhile_append_of_pos behindBlank]
        rfl
      rw [List.nil_append, List.nil_append] at read
      rw [split, read, List.map_cons, List.map_map, trimmed first List.mem_cons_self]
      congr 1
      conv_rhs => rw [← List.map_id (second :: rest)]
      apply List.map_congr_left
      intro selector listed
      exact (drops selector).trans (trimmed selector (List.mem_cons_of_mem first listed))

end SelectorList

end NestLint
