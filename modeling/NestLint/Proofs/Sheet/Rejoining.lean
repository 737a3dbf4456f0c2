import NestLint.Proofs.Nesting.Resolving
import NestLint.Proofs.SelectorList.Escaping

/-!
Giving a rule its own selectors. The list is joined again by the separator that its text has, and read
again the cuts are where they were, with one exception: a selector is trimmed when it is read, and if the
first blank behind it was escaped, the backslash stays and the blank goes. Such a selector takes the next
separator along, so the list is not read back. This happens to a selector before another one only; brackets
and quotes are always closed where a selector ends.
-/

namespace NestLint

namespace Sheet

open SelectorList

/-- Giving a rule the selectors that it has leaves its list as it is exactly when no selector before another
one ends with a backslash that takes the next character along. -/
theorem selectors?_setSelectors_iff {s : Sheet} {id : NodeId} {selectors : List Text}
    (isList : s.selectors? id = some selectors) (full : ∀ selector ∈ selectors, selector ≠ []) :
    (s.setSelectors id selectors).selectors? id = some selectors ↔
      ∀ selector ∈ selectors.dropLast, ¬ Escaping selector := by
  obtain ⟨text, isText, rfl⟩ := Option.map_eq_some_iff.mp isList
  have kind := Nesting.rule_of_selector? isText
  obtain ⟨separator, separates, isSet⟩ := Nesting.setSelectors_of_rule kind (split text)
  have parts : 1 < (split text).length → IsSeparator separator := Nesting.isSeparator_of_separates separates
  have renamed : (s.setSelectors id (split text)).kind id = .rule (Text.join separator (split text)) := by
    rw [isSet, kind_eq, label_setKind s id id _ (Nesting.stored_of_selector? isText), if_pos rfl]
  rw [Nesting.selectors?_of_rule renamed, Option.some.injEq]
  have ends : (∀ selector ∈ (split text).dropLast, Closed selector) ↔
      ∀ selector ∈ (split text).dropLast, ¬ Escaping selector :=
    forall₂_congr fun selector listed => closed_iff_not_escaping listed
  rw [split_join_iff parts (split_ne_nil text) full fun selector listed => (of_mem_split listed).1, ends]
  exact and_iff_right fun selector listed => (of_mem_split listed).2.1

/-- Commas inside brackets, inside quotes and behind a backslash, and an entry that is not closed at the
end. -/
theorem selectors?_setSelectors_kept :
    ((Nesting.twoRules "a:is(b,c) ,\n\"x, y\" , a\\,b,u(" "a").selectors? 1 =
        some ["a:is(b,c)".toList, "\"x, y\"".toList, "a\\,b".toList, "u(".toList]) ∧
      (((Nesting.twoRules "a:is(b,c) ,\n\"x, y\" , a\\,b,u(" "a").setSelectors 1
        ["a:is(b,c)".toList, "\"x, y\"".toList, "a\\,b".toList, "u(".toList]).selectors? 1 =
          some ["a:is(b,c)".toList, "\"x, y\"".toList, "a\\,b".toList, "u(".toList]) := by
  have isList : (Nesting.twoRules "a:is(b,c) ,\n\"x, y\" , a\\,b,u(" "a").selectors? 1 =
      some ["a:is(b,c)".toList, "\"x, y\"".toList, "a\\,b".toList, "u(".toList] := by decide +kernel
  exact ⟨isList, (selectors?_setSelectors_iff isList (by decide)).mpr (by decide +kernel)⟩

/-- The blank behind the first selector is escaped. It is trimmed off, and its backslash takes the separator
along, so that two selectors become one. -/
theorem selectors?_setSelectors_lost :
    (Nesting.twoRules "a\\ ,b" "a").selectors? 1 = some ["a\\".toList, "b".toList] ∧
      (∀ selector ∈ ["a\\".toList, "b".toList], selector ≠ []) ∧
      ((Nesting.twoRules "a\\ ,b" "a").setSelectors 1 ["a\\".toList, "b".toList]).selectors? 1 ≠
        some ["a\\".toList, "b".toList] := by
  decide +kernel

end Sheet

end NestLint
