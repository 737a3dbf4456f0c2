import Mathlib.Algebra.Order.Group.Multiset
import NestLint.Proofs.Nesting.Run
import NestLint.Proofs.Nesting.Selectors
import NestLint.Proofs.Sheet.Subtree

/-!
What a sheet means, and that nesting keeps it on flat sheets. A declaration applies under the at-rules
around it and to a selector, which is resolved on the way down: inside a rule or a nesting at-rule an
ampersand stands for the selector outside. The meaning of a sheet is the collection of its declarations
in these surroundings.

In a flat sheet rules hold no rules and selectors have neither commas nor ampersands. Runs over a flat
sheet keep to `Fits`: outside all rules selectors have no ampersand, and inside they begin with the only
one they have. Under that invariant each rewriting keeps the meaning.
-/

namespace NestLint

/-- A text with `outer` in the place of every ampersand. -/
def Text.substitute (outer text : Text) : Text :=
  text.flatMap fun c => if c = '&' then outer else [c]

/-- Where a declaration stands: the names and parameters of the at-rules around it, outermost first,
and the resolved selector of the innermost rule. -/
structure Scope where
  conditions : List (Text × Text) := []
  selector : Option Text := none
deriving DecidableEq

structure Style where
  scope : Scope
  property : Text
  value : Text
  important : Bool
deriving DecidableEq

namespace Scope

def resolve (scope : Scope) (selector : Text) : Text :=
  match scope.selector with
  | none => selector.trim
  | some outer => Text.substitute outer selector.trim

def enter (scope : Scope) (l : Label) : Scope :=
  match l.kind with
  | .rule selector => { scope with selector := some (scope.resolve selector) }
  | .atRule name params _ =>
    if name = "nest".toList then { scope with selector := some (scope.resolve params) }
    else { scope with conditions := scope.conditions ++ [(name, params)] }
  | _ => scope

def declared (scope : Scope) (l : Label) : Multiset Style :=
  match l.kind with
  | .decl property value important => {⟨scope, property, value, important⟩}
  | _ => 0

end Scope

namespace Tree

mutual
def meaning (scope : Scope) : Tree Label → Multiset Style
  | .node l ts => scope.declared l + meaningAll (scope.enter l) ts
def meaningAll (scope : Scope) : List (Tree Label) → Multiset Style
  | [] => 0
  | t :: ts => meaning scope t + meaningAll scope ts
end

theorem meaningAll_append (scope : Scope) (ts us : List (Tree Label)) :
    meaningAll scope (ts ++ us) = meaningAll scope ts + meaningAll scope us := by
  induction ts with
  | nil => rw [List.nil_append, meaningAll, zero_add]
  | cons t rest ih => rw [List.cons_append, meaningAll, meaningAll, ih, add_assoc]

end Tree

namespace Sheet

def meaning (s : Sheet) : Multiset Style := (s.tree root).meaning {}

/-- No rule has a rule or an at-rule below it, no at-rule is a nesting one, and no selector has a comma
or an ampersand. -/
structure Flat (s : Sheet) : Prop where
  leaves : ∀ id ∈ root :: s.descendants root, (s.kind id).isRule →
    ∀ inner ∈ s.descendants id, ¬ (s.kind inner).isRuleLike
  no_nest : ∀ id ∈ root :: s.descendants root, (s.kind id).atName? ≠ some "nest".toList
  plain : ∀ id ∈ root :: s.descendants root, ∀ selector ∈ (s.selector? id).toList,
    ',' ∉ selector ∧ '&' ∉ selector

instance (s : Sheet) : Decidable s.Flat :=
  decidable_of_iff
    ((∀ id ∈ root :: s.descendants root, (s.kind id).isRule →
        ∀ inner ∈ s.descendants id, ¬ (s.kind inner).isRuleLike) ∧
      (∀ id ∈ root :: s.descendants root, (s.kind id).atName? ≠ some "nest".toList) ∧
      ∀ id ∈ root :: s.descendants root, ∀ selector ∈ (s.selector? id).toList,
        ',' ∉ selector ∧ '&' ∉ selector)
    ⟨fun ⟨leaves, no_nest, plain⟩ => ⟨leaves, no_nest, plain⟩,
      fun flat => ⟨flat.leaves, flat.no_nest, flat.plain⟩⟩

end Sheet

section substitute

open Text

theorem Text.substitute_append (outer first second : Text) :
    substitute outer (first ++ second) = substitute outer first ++ substitute outer second :=
  List.flatMap_append

theorem Text.substitute_of_not_mem {outer text : Text} (absent : '&' ∉ text) :
    substitute outer text = text := by
  induction text with
  | nil => rfl
  | cons c cs ih =>
    rw [List.mem_cons, not_or] at absent
    have own : substitute outer [c] = [c] := by simp [substitute, Ne.symm absent.1]
    rw [← List.singleton_append, substitute_append, own, ih absent.2]

theorem Text.substitute_ampersand (outer : Text) : substitute outer ['&'] = outer := by
  simp [substitute]

theorem Scope.resolve_append (scope : Scope) {first second rest : Text} (absent : '&' ∉ rest)
    (whole : first.trim = second.trim ++ rest) : scope.resolve first = scope.resolve second ++ rest := by
  unfold resolve
  cases scope.selector with
  | none => exact whole
  | some outer => simp only [whole, substitute_append, substitute_of_not_mem absent]

end substitute

namespace Nesting

open Text

/-- What selectors look like outside all rules, and inside one. -/
def Plain : Bool → Text → Prop
  | false, selector => ',' ∉ selector ∧ '&' ∉ selector
  | true, selector => ',' ∉ selector ∧ ∃ rest, selector = '&' :: rest ∧ '&' ∉ rest

section plain

variable {nested : Bool} {first second rest lead : Text}

theorem Plain.single (plain : Plain nested first) : ',' ∉ first := by
  cases nested with
  | false => exact plain.1
  | true => exact plain.1

theorem isBlank_ampersand : isBlank '&' = false := by decide

theorem Plain.no_ampersand_behind (plainFirst : Plain nested first) (plainSecond : Plain nested second)
    (whole : first.trim = second.trim ++ rest) : '&' ∉ rest := by
  intro listed
  cases nested with
  | false =>
    have inside : '&' ∈ first.trim := by
      rw [whole]
      exact List.mem_append_right _ listed
    exact plainFirst.2 (mem_of_mem_trim inside)
  | true =>
    obtain ⟨-, restFirst, rfl, absent⟩ := plainFirst
    obtain ⟨-, restSecond, rfl, -⟩ := plainSecond
    rw [trim_cons _ isBlank_ampersand, trim_cons _ isBlank_ampersand, List.cons_append] at whole
    have inside : '&' ∈ trimEnd restFirst := by
      rw [(List.cons.inj whole).2]
      exact List.mem_append_right _ listed
    exact absent ((isPrefix_trimEnd restFirst).subset inside)

theorem Plain.inside (plainFirst : Plain nested first) (plainSecond : Plain nested second)
    (whole : first.trim = second.trim ++ rest) : Plain true ('&' :: rest) := by
  refine ⟨?_, rest, rfl, plainFirst.no_ampersand_behind plainSecond whole⟩
  intro listed
  have behind : ',' ∈ rest := by simpa using listed
  refine plainFirst.single (mem_of_mem_trim ?_)
  rw [whole]
  exact List.mem_append_right _ behind

/-- Inside a rule no selector ends with another one, since both begin with their only ampersand. -/
theorem Plain.not_lead (plainFirst : Plain true first) (plainSecond : Plain true second)
    (whole : first.trim = lead ++ ' ' :: second.trim) : False := by
  obtain ⟨-, restFirst, rfl, absent⟩ := plainFirst
  obtain ⟨-, restSecond, rfl, -⟩ := plainSecond
  rw [trim_cons _ isBlank_ampersand, trim_cons _ isBlank_ampersand] at whole
  cases lead with
  | nil => exact absurd (List.cons.inj whole).1 (by decide)
  | cons c lead =>
    have inside : '&' ∈ trimEnd restFirst := by
      rw [(List.cons.inj whole).2]
      simp
    exact absent ((isPrefix_trimEnd restFirst).subset inside)

end plain

section enter

variable (scope : Scope) {l : Label} {name params selector : Text} {hasBlock : Bool}

theorem enter_of_rule (kind : l.kind = .rule selector) :
    scope.enter l = { scope with selector := some (scope.resolve selector) } := by
  rw [Scope.enter, kind]

theorem enter_nesting (l : Label) (params : Text) :
    scope.enter (l.nesting params) = { scope with selector := some (scope.resolve params) } := rfl

theorem enter_of_media (kind : l.kind = .atRule "media".toList params hasBlock) :
    scope.enter l = { scope with conditions := scope.conditions ++ [("media".toList, params)] } := by
  simp only [Scope.enter, kind]
  rw [if_neg (by decide)]

theorem declared_of_rule (kind : l.kind = .rule selector) : scope.declared l = 0 := by
  rw [Scope.declared, kind]

theorem declared_of_atRule (kind : l.kind = .atRule name params hasBlock) : scope.declared l = 0 := by
  rw [Scope.declared, kind]

end enter

theorem resolve_descendant (scope : Scope) {first second rest : Text} {nested : Bool}
    (plainFirst : Plain nested first) (plainSecond : Plain nested second)
    (whole : first.trim = second.trim ++ rest) :
    Scope.resolve { scope with selector := some (scope.resolve second) } ('&' :: rest) =
      scope.resolve first := by
  have absent := plainFirst.no_ampersand_behind plainSecond whole
  have trimmed : trim ('&' :: rest) = '&' :: rest := by
    rw [trim_cons rest isBlank_ampersand, trimEnd_of_append whole]
  calc
    _ = substitute (scope.resolve second) (['&'] ++ rest) := congrArg _ trimmed
    _ = scope.resolve second ++ rest := by
      rw [substitute_append, substitute_ampersand, substitute_of_not_mem absent]
    _ = scope.resolve first := (scope.resolve_append absent whole).symm

theorem resolve_ancestor (scope : Scope) (outside : scope.selector = none) {first second lead : Text}
    (absent : '&' ∉ lead) (whole : first.trim = lead ++ ' ' :: second.trim) :
    Scope.resolve { scope with selector := some (scope.resolve second) } (lead ++ [' ', '&']) =
      scope.resolve first := by
  have plain : ∀ selector, scope.resolve selector = selector.trim := by
    intro selector
    rw [Scope.resolve, outside]
  have trimmed : trim (lead ++ [' ', '&']) = lead ++ [' ', '&'] := by
    cases lead with
    | nil =>
      -- A trimmed selector does not begin with a blank.
      exact absurd (visible_of_trim whole) (by decide)
    | cons c lead =>
      have behind : trimEnd (lead ++ [' ', '&']) = lead ++ [' ', '&'] := by
        have same := trimEnd_concat (lead ++ [' ']) isBlank_ampersand
        rwa [List.append_assoc] at same
      rw [List.cons_append, trim_cons _ (visible_of_trim whole), behind]
  have blank : '&' ∉ lead ++ [' '] := by simp [absent]
  calc
    _ = substitute (scope.resolve second) (lead ++ [' '] ++ ['&']) := by
      rw [List.append_assoc]
      exact congrArg (substitute (scope.resolve second)) trimmed
    _ = lead ++ [' '] ++ second.trim := by
      rw [substitute_append, substitute_ampersand, substitute_of_not_mem blank, plain]
    _ = scope.resolve first := by rw [plain, whole, List.append_assoc, List.singleton_append]

def opens (nested : Bool) (l : Label) : Bool :=
  nested || l.kind.isRule || l.kind.atName? == some "nest".toList

def FitsLabel (nested : Bool) (l : Label) : Prop := ∀ selector, l.kind = .rule selector → Plain nested selector

mutual
def Fits (nested : Bool) : Tree Label → Prop
  | .node l ts => FitsLabel nested l ∧ FitsAll (opens nested l) ts
def FitsAll (nested : Bool) : List (Tree Label) → Prop
  | [] => True
  | t :: ts => Fits nested t ∧ FitsAll nested ts
end

theorem fitsAll_append (nested : Bool) (ts us : List (Tree Label)) :
    FitsAll nested (ts ++ us) ↔ FitsAll nested ts ∧ FitsAll nested us := by
  induction ts with
  | nil => simp [FitsAll]
  | cons t rest ih => simp [FitsAll, ih, and_assoc]

theorem isSome_enter (scope : Scope) (l : Label) :
    (scope.enter l).selector.isSome = opens scope.selector.isSome l := by
  cases kind : l.kind with
  | rule selector => simp [Scope.enter, opens, kind, Kind.isRule]
  | atRule name params hasBlock =>
    simp only [Scope.enter, opens, kind, Kind.isRule, Kind.atName?, Option.some_beq_some, Bool.or_false]
    split
    next same => rw [beq_iff_eq.mpr same, Bool.or_true, Option.isSome_some]
    next other => rw [beq_eq_false_iff_ne.mpr other, Bool.or_false]
  | root => simp [Scope.enter, opens, kind, Kind.isRule, Kind.atName?]
  | decl property value important => simp [Scope.enter, opens, kind, Kind.isRule, Kind.atName?]
  | comment text => simp [Scope.enter, opens, kind, Kind.isRule, Kind.atName?]

theorem opens_of_rule (nested : Bool) {l : Label} {selector : Text} (kind : l.kind = .rule selector) :
    opens nested l = true := by
  simp [opens, kind, Kind.isRule]

theorem fitsLabel_of_atRule (nested : Bool) {l : Label} {name params : Text} {hasBlock : Bool}
    (kind : l.kind = .atRule name params hasBlock) : FitsLabel nested l := by
  intro selector own
  rw [kind] at own
  cases own

variable {accepts : Text → Bool}

theorem fits_of_rewrites {a b : Tree Label} {as bs : List (Tree Label)} {nested : Bool}
    (rewrites : Rewrites accepts a b as bs) (fitsA : Fits nested a) (fitsB : Fits nested b) :
    FitsAll nested as ∧ FitsAll nested bs := by
  cases rewrites with
  | @descendant inner outer ts us first second separator before kindInner kindOuter shares =>
    obtain ⟨ownA, insideA⟩ := fitsA
    obtain ⟨ownB, insideB⟩ := fitsB
    have plainInner := ownA first kindInner
    obtain ⟨rest, whole, nestedAs⟩ :=
      nestDescendant_of_shares plainInner.single (ownB second kindOuter).single shares
    rw [opens_of_rule nested kindInner] at insideA
    rw [opens_of_rule nested kindOuter] at insideB
    have own : FitsLabel true { inner with kind := .rule ('&' :: rest) } := by
      rintro selector ⟨rfl⟩
      exact plainInner.inside (ownB second kindOuter) whole
    rw [nestedAs separator]
    refine ⟨trivial, ⟨ownB, ?_⟩, trivial⟩
    rw [opens_of_rule nested (show (outer.setBefore before).kind = .rule second from kindOuter),
      fitsAll_append]
    exact ⟨insideB, ⟨own, insideA⟩, trivial⟩
  | @ancestor outer inner ts us first second separator before kindOuter kindInner shares =>
    obtain ⟨-, insideA⟩ := fitsA
    obtain ⟨ownB, insideB⟩ := fitsB
    rw [opens_of_rule nested kindOuter] at insideA
    rw [opens_of_rule nested kindInner] at insideB
    refine ⟨trivial, ⟨ownB, ?_⟩, trivial⟩
    rw [opens_of_rule nested (show (inner.setBefore before).kind = .rule second from kindInner),
      fitsAll_append]
    exact ⟨insideB, ⟨fitsLabel_of_atRule true rfl, insideA⟩, trivial⟩
  | @media rule media first ts us rest selector params hasBlock kindRule kindMedia kindFirst more =>
    obtain ⟨ownA, insideA⟩ := fitsA
    obtain ⟨ownB, ⟨-, insideFirst⟩, insideRest⟩ := fitsB
    rw [opens_of_rule _ kindFirst] at insideFirst
    refine ⟨⟨⟨ownA, ?_⟩, trivial⟩, ⟨ownB, insideRest⟩, trivial⟩
    rw [opens_of_rule nested kindRule] at insideA ⊢
    exact (fitsAll_append true _ _).mpr
      ⟨insideA, ⟨fitsLabel_of_atRule true kindMedia, insideFirst⟩, trivial⟩
  | @mediaWhole rule media first ts us selector params hasBlock before kindRule kindMedia kindFirst =>
    obtain ⟨ownA, insideA⟩ := fitsA
    obtain ⟨-, ⟨-, insideFirst⟩, -⟩ := fitsB
    rw [opens_of_rule _ kindFirst] at insideFirst
    refine ⟨⟨⟨ownA, ?_⟩, trivial⟩, trivial⟩
    rw [opens_of_rule nested (show (rule.setBefore before).kind = .rule selector from kindRule)]
    rw [opens_of_rule nested kindRule] at insideA
    exact (fitsAll_append true _ _).mpr
      ⟨insideA, ⟨fitsLabel_of_atRule true kindMedia, insideFirst⟩, trivial⟩

theorem meaning_of_rewrites {a b : Tree Label} {as bs : List (Tree Label)}
    (rewrites : Rewrites accepts a b as bs) (scope : Scope)
    (fitsA : Fits scope.selector.isSome a) (fitsB : Fits scope.selector.isSome b) :
    Tree.meaningAll scope as + Tree.meaningAll scope bs = a.meaning scope + b.meaning scope := by
  cases rewrites with
  | @descendant inner outer ts us first second separator before kindInner kindOuter shares =>
    have plainInner := fitsA.1 first kindInner
    have plainOuter := fitsB.1 second kindOuter
    obtain ⟨rest, whole, nestedAs⟩ :=
      nestDescendant_of_shares plainInner.single plainOuter.single shares
    have kindKept : (outer.setBefore before).kind = .rule second := kindOuter
    have kindNew : ({ inner with kind := .rule ('&' :: rest) } : Label).kind = .rule ('&' :: rest) := rfl
    rw [nestedAs separator]
    simp only [Tree.meaningAll, Tree.meaning, Tree.meaningAll_append, declared_of_rule _ kindInner,
      declared_of_rule _ kindOuter, declared_of_rule _ kindKept, declared_of_rule _ kindNew,
      enter_of_rule _ kindInner, enter_of_rule _ kindOuter, enter_of_rule _ kindKept,
      enter_of_rule _ kindNew, resolve_descendant scope plainInner plainOuter whole, zero_add, add_zero]
    rw [add_comm]
  | @ancestor outer inner ts us first second separator before kindOuter kindInner shares =>
    have plainOuter := fitsA.1 first kindOuter
    have plainInner := fitsB.1 second kindInner
    obtain ⟨lead, whole, nestedAs⟩ :=
      nestAncestor_of_shares plainOuter.single plainInner.single shares
    have outside : scope.selector = none := by
      cases selector : scope.selector with
      | none => rfl
      | some outer =>
        rw [selector] at plainOuter plainInner
        exact (plainOuter.not_lead plainInner whole).elim
    have absent : '&' ∉ lead := by
      intro listed
      rw [outside] at plainOuter
      refine plainOuter.2 (mem_of_mem_trim ?_)
      rw [whole]
      exact List.mem_append_left _ listed
    have kindKept : (inner.setBefore before).kind = .rule second := kindInner
    have kindNew : (outer.nesting (lead ++ [' ', '&'])).kind =
        .atRule "nest".toList (lead ++ [' ', '&']) true := rfl
    rw [nestedAs separator]
    simp only [Tree.meaningAll, Tree.meaning, Tree.meaningAll_append, declared_of_rule _ kindInner,
      declared_of_rule _ kindOuter, declared_of_rule _ kindKept, declared_of_atRule _ kindNew,
      enter_of_rule _ kindInner, enter_of_rule _ kindOuter, enter_of_rule _ kindKept, enter_nesting,
      resolve_ancestor scope outside absent whole, zero_add, add_zero]
    rw [add_comm]
  | @media rule media first ts us rest selector params hasBlock kindRule kindMedia kindFirst more =>
    have kindWrapper : (media.wrapping first).kind = .atRule "media".toList params hasBlock := kindMedia
    have same : Scope.resolve
        { scope with conditions := scope.conditions ++ [("media".toList, params)] } selector =
          scope.resolve selector := rfl
    simp only [Tree.meaningAll, Tree.meaning, Tree.meaningAll_append, declared_of_rule _ kindRule,
      declared_of_rule _ kindFirst, declared_of_atRule _ kindMedia, declared_of_atRule _ kindWrapper,
      enter_of_rule _ kindRule, enter_of_rule _ kindFirst, enter_of_media _ kindMedia,
      enter_of_media _ kindWrapper, same, zero_add, add_zero]
    rw [add_assoc]
  | @mediaWhole rule media first ts us selector params hasBlock before kindRule kindMedia kindFirst =>
    have kindKept : (rule.setBefore before).kind = .rule selector := kindRule
    have kindWrapper : (media.wrapping first).kind = .atRule "media".toList params hasBlock := kindMedia
    have same : Scope.resolve
        { scope with conditions := scope.conditions ++ [("media".toList, params)] } selector =
          scope.resolve selector := rfl
    simp only [Tree.meaningAll, Tree.meaning, Tree.meaningAll_append, declared_of_rule _ kindRule,
      declared_of_rule _ kindKept, declared_of_rule _ kindFirst, declared_of_atRule _ kindMedia,
      declared_of_atRule _ kindWrapper, enter_of_rule _ kindRule, enter_of_rule _ kindKept,
      enter_of_rule _ kindFirst, enter_of_media _ kindMedia, enter_of_media _ kindWrapper, same,
      zero_add, add_zero]

theorem meaning_of_children (scope : Scope) (l : Label) (front behind ts ts' : List (Tree Label))
    (fits : Fits scope.selector.isSome (.node l (front ++ (ts ++ behind))))
    (kept : FitsAll (scope.enter l).selector.isSome ts →
      FitsAll (scope.enter l).selector.isSome ts' ∧
        Tree.meaningAll (scope.enter l) ts' = Tree.meaningAll (scope.enter l) ts) :
    Fits scope.selector.isSome (.node l (front ++ (ts' ++ behind))) ∧
      Tree.meaning scope (.node l (front ++ (ts' ++ behind))) =
        Tree.meaning scope (.node l (front ++ (ts ++ behind))) := by
  obtain ⟨own, inside⟩ := fits
  rw [← isSome_enter, fitsAll_append, fitsAll_append] at inside
  obtain ⟨ahead, here, after⟩ := inside
  obtain ⟨stays, same⟩ := kept here
  refine ⟨⟨own, ?_⟩, ?_⟩
  · rw [← isSome_enter, fitsAll_append, fitsAll_append]
    exact ⟨ahead, stays, after⟩
  · simp only [Tree.meaning, Tree.meaningAll_append, same]

theorem meaning_of_step {t t' : Tree Label} (step : Step accepts t t') (scope : Scope)
    (fits : Fits scope.selector.isSome t) :
    Fits scope.selector.isSome t' ∧ t'.meaning scope = t.meaning scope := by
  induction step generalizing scope with
  | here changed =>
    cases changed with
    | @forward a b as bs l front behind rewrites =>
      rw [List.append_assoc]
      apply meaning_of_children scope l front behind [a, b] (as ++ bs) fits
      rintro ⟨fitsA, fitsB, -⟩
      have same := meaning_of_rewrites rewrites (scope.enter l) fitsA fitsB
      refine ⟨(fitsAll_append _ _ _).mpr (fits_of_rewrites rewrites fitsA fitsB), ?_⟩
      simp only [Tree.meaningAll, Tree.meaningAll_append, same, add_zero]
    | @backward a b as bs l front behind rewrites =>
      rw [List.append_assoc]
      apply meaning_of_children scope l front behind [b, a] (bs ++ as) fits
      rintro ⟨fitsB, fitsA, -⟩
      have same := meaning_of_rewrites rewrites (scope.enter l) fitsA fitsB
      refine ⟨(fitsAll_append _ _ _).mpr (fits_of_rewrites rewrites fitsA fitsB).symm, ?_⟩
      rw [add_comm, add_comm (a.meaning _)] at same
      simp only [Tree.meaningAll, Tree.meaningAll_append, same, add_zero]
  | @under t t' l front behind deeper ih =>
    apply meaning_of_children scope l front behind [t] [t'] fits
    rintro ⟨here, -⟩
    obtain ⟨stays, same⟩ := ih (scope.enter l) here
    refine ⟨⟨stays, trivial⟩, ?_⟩
    simp only [Tree.meaningAll, same]

theorem meaning_of_steps {t t' : Tree Label} (steps : Relation.ReflTransGen (Step accepts) t t')
    (fits : Fits false t) : Fits false t' ∧ t'.meaning {} = t.meaning {} := by
  induction steps with
  | refl => exact ⟨fits, rfl⟩
  | tail _ step ih =>
    obtain ⟨stays, same⟩ := meaning_of_step step {} ih.1
    exact ⟨stays, same.trans ih.2⟩

theorem fitsAll_map (nested : Bool) (f : NodeId → Tree Label) (ids : List NodeId)
    (each : ∀ id ∈ ids, Fits nested (f id)) : FitsAll nested (ids.map f) := by
  induction ids with
  | nil => trivial
  | cons id rest ih =>
    exact ⟨each id List.mem_cons_self, ih fun other listed => each other (List.mem_cons_of_mem _ listed)⟩

end Nesting

namespace Sheet

open Nesting

theorem Linked.fits_of_no_rules {s : Sheet} (linked : s.Linked) (id : NodeId) (nested : Bool)
    (noRules : ∀ x, s.Under x id → ¬ (s.kind x).isRule) : Fits nested (s.tree id) := by
  induction id using linked.induction_below generalizing nested with
  | step id ih =>
    rw [linked.tree_eq]
    refine ⟨?_, fitsAll_map _ _ _ fun child listed => ih child listed _ fun x under => ?_⟩
    · intro selector kind
      refine absurd ?_ (noRules id (under_refl s id))
      rw [show s.kind id = .rule selector from kind]
      rfl
    · exact noRules x (under.trans ((under_refl s id).step (linked.parent_of_mem listed)))

theorem Flat.fits {s : Sheet} (flat : s.Flat) (linked : s.Linked) (id : NodeId)
    (inside : s.Under id root) : Fits false (s.tree id) := by
  induction id using linked.induction_below with
  | step id ih =>
    have listed : id ∈ root :: s.descendants root := by
      by_cases top : id = root
      · exact List.mem_cons.mpr (Or.inl top)
      · exact List.mem_cons_of_mem _ (linked.mem_descendants inside top)
    rw [linked.tree_eq]
    refine ⟨?_, fitsAll_map _ _ _ fun child isChild => ?_⟩
    · intro selector kind
      apply flat.plain id listed
      rw [show s.selector? id = some selector from congrArg Kind.selector? kind]
      exact List.mem_singleton_self selector
    · have up := linked.parent_of_mem isChild
      by_cases isRule : (s.kind id).isRule
      · apply linked.fits_of_no_rules
        intro x under isRule'
        have below : x ∈ s.descendants id := linked.mem_descendants
          (under.trans ((under_refl s id).step up)) (linked.ne_of_under_child up under (under_refl s id))
        apply flat.leaves id listed isRule x below
        cases kind : s.kind x <;> simp_all [Kind.isRule, Kind.isRuleLike]
      · have stays : opens false (s.label id) = false := by
          have noNest := flat.no_nest id listed
          have notRule : (s.label id).kind.isRule = false := Bool.eq_false_of_not_eq_true isRule
          rw [opens, notRule, Bool.false_or, Bool.false_or, beq_eq_false_iff_ne]
          exact noNest
        rw [stays]
        exact ih child isChild (inside.step up)

end Sheet

/-- A run over a flat sheet keeps its meaning. -/
theorem Rule.meaning_check {source : String} {s : Sheet} (parsed : Sheet.parse source = .ok s)
    (flat : s.Flat) (rule : Rule) (session : Session) :
    (rule.check (s, session)).1.meaning = s.meaning := by
  have laid := Sheet.laid_of_parse parsed
  have run := rule.reaches_check laid session
  have fits := flat.fits laid.linked Sheet.root (Sheet.under_refl s Sheet.root)
  exact (Nesting.meaning_of_steps run.steps fits).2

/-- All three relations in one run, one of them in a media block. -/
theorem Rule.meaning_check_all_relations :
    ∃ s, Sheet.parse
        "a\x7bp:1\x7da b\x7bq:2\x7dx a\x7br:3\x7d@media m\x7ba\x7bs:4\x7da c\x7bt:5\x7d\x7d" = .ok s ∧
      s.Flat ∧ (({} : Rule).check (s, { fix := true })).1.meaning = s.meaning := by
  have accepted : ((Sheet.parse
      "a\x7bp:1\x7da b\x7bq:2\x7dx a\x7br:3\x7d@media m\x7ba\x7bs:4\x7da c\x7bt:5\x7d\x7d").toOption.any
        fun s => decide s.Flat) = true := by decide +kernel
  cases parsed : Sheet.parse
      "a\x7bp:1\x7da b\x7bq:2\x7dx a\x7br:3\x7d@media m\x7ba\x7bs:4\x7da c\x7bt:5\x7d\x7d" with
  | error e => simp [parsed, Except.toOption] at accepted
  | ok s =>
    have flat : s.Flat := by simpa [parsed, Except.toOption] using accepted
    exact ⟨s, rfl, flat, Rule.meaning_check parsed flat {} { fix := true }⟩

end NestLint
