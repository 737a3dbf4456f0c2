import Mathlib.Algebra.Order.Group.Multiset
import NestLint.Proofs.Nesting.Run

/-!
Nesting loses nothing and repeats nothing. Rules come and go and media blocks are copied, but every
declaration and every comment below the root is there exactly as often as before the run, with its
layout and its place in the source.
-/

namespace NestLint

def Label.isContent (l : Label) : Bool := l.kind.isDecl || l.kind.isComment

/-- The declarations and comments below the root, each as often as it occurs. -/
def Sheet.contents (s : Sheet) : Multiset Label :=
  (((s.descendants Sheet.root).map s.label).filter Label.isContent : List Label)

namespace Label

def content (l : Label) : Multiset Label := if l.isContent then {l} else 0

theorem sum_map_content (ls : List Label) :
    (ls.map content).sum = (ls.filter isContent : List Label) := by
  induction ls with
  | nil => rfl
  | cons l rest ih =>
    rw [List.map_cons, List.sum_cons, ih, content]
    by_cases kept : l.isContent
    · rw [if_pos kept, List.filter_cons_of_pos kept, Multiset.singleton_add, Multiset.cons_coe]
    · rw [if_neg kept, List.filter_cons_of_neg kept, zero_add]

theorem content_of_rule {l : Label} {selector : Text} (kind : l.kind = .rule selector) :
    l.content = 0 := by
  simp [content, isContent, kind, Kind.isDecl, Kind.isComment]

theorem content_of_atRule {l : Label} {name params : Text} {hasBlock : Bool}
    (kind : l.kind = .atRule name params hasBlock) : l.content = 0 := by
  simp [content, isContent, kind, Kind.isDecl, Kind.isComment]

end Label

namespace Nesting

open Tree

variable {accepts : Text → Bool}

theorem content_of_rewrites {a b : Tree Label} {as bs : List (Tree Label)}
    (rewrites : Rewrites accepts a b as bs) :
    totalAll Label.content as + totalAll Label.content bs =
      total Label.content a + total Label.content b := by
  -- The labels that change are those of rules and at-rules, and these count for nothing.
  cases rewrites with
  | @descendant inner outer _ _ _ _ separator before kindInner kindOuter shares =>
    have kept : (outer.setBefore before).content = 0 := Label.content_of_rule kindOuter
    simp only [totalAll_nil, totalAll_cons, totalAll_append, total_node, kept,
      Label.content_of_rule kindInner, Label.content_of_rule kindOuter, zero_add, add_zero]
    rw [Label.content_of_rule rfl, zero_add, add_comm]
  | @ancestor outer inner _ _ _ _ separator before kindOuter kindInner shares =>
    have kept : (inner.setBefore before).content = 0 := Label.content_of_rule kindInner
    simp only [totalAll_nil, totalAll_cons, totalAll_append, total_node, kept,
      Label.content_of_rule kindInner, Label.content_of_rule kindOuter, zero_add, add_zero]
    rw [Label.content_of_atRule rfl, zero_add, add_comm]
  | @media rule media first _ _ _ _ _ _ kindRule kindMedia kindFirst more =>
    have wrapper : (media.wrapping first).content = 0 := Label.content_of_atRule kindMedia
    simp only [totalAll_nil, totalAll_cons, totalAll_append, total_node, wrapper,
      Label.content_of_rule kindRule, Label.content_of_atRule kindMedia,
      Label.content_of_rule kindFirst, zero_add, add_zero]
    rw [add_assoc]
  | @mediaWhole rule media first _ _ _ _ _ before kindRule kindMedia kindFirst =>
    have wrapper : (media.wrapping first).content = 0 := Label.content_of_atRule kindMedia
    have kept : (rule.setBefore before).content = 0 := Label.content_of_rule kindRule
    simp only [totalAll_nil, totalAll_cons, totalAll_append, total_node, wrapper, kept,
      Label.content_of_rule kindRule, Label.content_of_atRule kindMedia,
      Label.content_of_rule kindFirst, zero_add, add_zero]

theorem content_of_step {t t' : Tree Label} (step : Step accepts t t') :
    t'.label = t.label ∧ total Label.content t' = total Label.content t := by
  induction step with
  | here changed =>
    refine ⟨by cases changed <;> rfl, ?_⟩
    cases changed with
    | @forward a b as bs l front behind rewrites =>
      have same := content_of_rewrites rewrites
      simp only [total_node, totalAll_append, totalAll_cons, same, add_assoc]
    | @backward a b as bs l front behind rewrites =>
      have same := content_of_rewrites rewrites
      rw [add_comm, add_comm (total _ a)] at same
      simp only [total_node, totalAll_append, totalAll_cons, same, add_assoc]
  | under a front behind deeper ih =>
    refine ⟨rfl, ?_⟩
    simp only [total_node, totalAll_append, totalAll_cons, ih.2]

theorem content_of_steps {t t' : Tree Label} (steps : Relation.ReflTransGen (Step accepts) t t') :
    totalAll Label.content t'.children = totalAll Label.content t.children := by
  have both : t'.label = t.label ∧ total Label.content t' = total Label.content t := by
    induction steps with
    | refl => exact ⟨rfl, rfl⟩
    | tail _ step ih =>
      obtain ⟨label, content⟩ := content_of_step step
      exact ⟨label.trans ih.1, content.trans ih.2⟩
  cases t with
  | node l ts =>
    cases t' with
    | node l' ts' =>
      obtain ⟨label, content⟩ := both
      simp only [Tree.label] at label
      rw [total_node, total_node, label] at content
      exact add_left_cancel content

end Nesting

namespace Sheet

theorem contents_eq (s : Sheet) : s.contents = Tree.totalAll Label.content (s.tree root).children := by
  have labels : Tree.preorderAll (s.tree root).children = (s.descendants root).map s.label := by
    rw [descendants, tree]
    cases s.shape root with
    | node id ts => exact Tree.preorderAll_mapAll s.label ts
  rw [contents, Tree.totalAll, labels, Label.sum_map_content]

end Sheet

/-- A run leaves every declaration and every comment of a sheet that has been read: none is lost, none
is repeated, and none is changed. -/
theorem Rule.contents_check {source : String} {s : Sheet} (parsed : Sheet.parse source = .ok s)
    (rule : Rule) (session : Session) : (rule.check (s, session)).1.contents = s.contents := by
  have run := rule.reaches_check (Sheet.laid_of_parse parsed) session
  rw [Sheet.contents_eq, Sheet.contents_eq, Nesting.content_of_steps run.steps]

/-- One run that moves a rule, turns another into an at-rule, and copies what a media block holds. -/
theorem Rule.contents_check_all_relations :
    ∃ s, Sheet.parse "a\x7b/*1*/p:1\x7da b\x7bq:2\x7dx a\x7br:3\x7d@media m\x7ba\x7bs:4\x7d\x7d" = .ok s ∧
      (({} : Rule).check (s, { fix := true })).1.contents = s.contents := by
  obtain ⟨s, parsed⟩ := Sheet.exists_sheet_of_accepted
    "a\x7b/*1*/p:1\x7da b\x7bq:2\x7dx a\x7br:3\x7d@media m\x7ba\x7bs:4\x7d\x7d" (by decide +kernel)
  exact ⟨s, parsed, Rule.contents_check parsed {} { fix := true }⟩

end NestLint
