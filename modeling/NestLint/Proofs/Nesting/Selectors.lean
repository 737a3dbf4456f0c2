import NestLint.Proofs.Nesting.Rewriting
import NestLint.Proofs.Source.Accounting

/-!
What nesting makes of a selector without commas. Such a selector is a list of one, the trimmed text;
sharing a start means that the longer one is the shorter one with something behind it, sharing an end
that it has something and a blank before it. The nested selector keeps what is left over and writes an
ampersand for the rest.
-/

namespace NestLint

namespace SelectorList

theorem pieces_of_not_mem (st : State) (text : Text) (single : ',' ∉ text) : pieces st text = [text] := by
  induction text generalizing st with
  | nil => rfl
  | cons c cs ih =>
    rw [List.mem_cons, not_or] at single
    have stays : st.splits c = false := by simp [State.splits, Ne.symm single.1]
    rw [pieces, stays, ih _ single.2]
    rfl

theorem split_of_not_mem (text : Text) (single : ',' ∉ text) : split text = [text.trim] := by
  rw [split, pieces_of_not_mem {} text single]
  rfl

end SelectorList

namespace Nesting

open SelectorList

variable {accepts : Text → Bool} {first second : Text}

theorem nestDescendant_of_shares (singleFirst : ',' ∉ first) (singleSecond : ',' ∉ second)
    (shares : Shares accepts suffix? first second) :
    ∃ rest, first.trim = second.trim ++ rest ∧ ∀ separator,
      Text.join separator ((split first).map (nestDescendant (split second))) = '&' :: rest := by
  obtain ⟨-, -, pairs⟩ := shares
  rw [split_of_not_mem first singleFirst, split_of_not_mem second singleSecond] at pairs ⊢
  simp only [allPairs, List.all_cons, List.all_nil, Bool.and_true] at pairs
  obtain ⟨left, isLeft, -⟩ := (Option.any_eq_true _ _).mp pairs
  unfold suffix? at isLeft
  split at isLeft
  next c rest stripped =>
    split at isLeft
    next => cases isLeft
    next =>
      cases isLeft
      have whole := Text.strip_eq_some stripped
      refine ⟨c :: rest, whole, fun separator => ?_⟩
      have start : longest ([second.trim].filter
          fun candidate => (Text.strip candidate first.trim).isSome) = second.trim := by
        simp [longest, stripped]
      rw [List.map_cons, List.map_nil, Text.join, nestDescendant, start, whole, List.drop_left]
  next => cases isLeft

theorem nestAncestor_of_shares (singleFirst : ',' ∉ first) (singleSecond : ',' ∉ second)
    (shares : Shares accepts lead? first second) :
    ∃ lead, first.trim = lead ++ ' ' :: second.trim ∧ ∀ separator,
      Text.join separator ((split first).map (nestAncestor (split second))) = lead ++ [' ', '&'] := by
  obtain ⟨-, -, pairs⟩ := shares
  rw [split_of_not_mem first singleFirst, split_of_not_mem second singleSecond] at pairs ⊢
  simp only [allPairs, List.all_cons, List.all_nil, Bool.and_true] at pairs
  obtain ⟨lead, isLead, -⟩ := (Option.any_eq_true _ _).mp pairs
  obtain ⟨body, stripped, blank⟩ := Option.bind_eq_some_iff.mp isLead
  have whole : first.trim = lead ++ ' ' :: second.trim := by
    rw [Text.stripEnd_eq_some stripped, Text.stripEnd_eq_some blank, List.append_assoc,
      List.singleton_append]
  refine ⟨lead, whole, fun separator => ?_⟩
  have only : shortest? ([second.trim].filterMap (lead? first.trim)) = some lead := by
    rw [List.filterMap_cons_some isLead, List.filterMap_nil]
    rfl
  rw [List.map_cons, List.map_nil, Text.join, nestAncestor, only]

end Nesting

end NestLint
