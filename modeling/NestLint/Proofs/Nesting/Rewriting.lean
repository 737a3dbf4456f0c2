import Mathlib.Algebra.BigOperators.Group.List.Basic
import NestLint.Nesting.Apply
import NestLint.Proofs.Sheet.Moves

/-!
Nesting as rewriting of trees. A matching pair of neighbours is replaced by what is left of it: the
first of the pair goes into the second, or a media block goes into the rule beside it. `Rewrites`
says so for a pair by itself, `Rewritten` for a node that has the pair among its children, and
`Step` for a tree with such a node somewhere. Two things are left open. The node that stays keeps what
stands before it or takes over what stood before the node that leaves; and a selector without a comma
may bring any separator, since there is nothing to set apart.
-/

namespace NestLint

namespace Tree

variable {α M : Type} [AddCommMonoid M]

def total (f : α → M) (t : Tree α) : M := (t.preorder.map f).sum

def totalAll (f : α → M) (ts : List (Tree α)) : M := ((preorderAll ts).map f).sum

variable (f : α → M)

theorem total_node (a : α) (ts : List (Tree α)) : total f (.node a ts) = f a + totalAll f ts := by
  rw [total, preorder, List.map_cons, List.sum_cons, totalAll]

@[simp] theorem totalAll_nil : totalAll f [] = 0 := rfl

@[simp] theorem totalAll_cons (t : Tree α) (ts : List (Tree α)) :
    totalAll f (t :: ts) = total f t + totalAll f ts := by
  rw [totalAll, preorderAll, List.map_append, List.sum_append, total, totalAll]

@[simp] theorem totalAll_append (ts us : List (Tree α)) :
    totalAll f (ts ++ us) = totalAll f ts + totalAll f us := by
  induction ts with
  | nil => rw [List.nil_append, totalAll_nil, zero_add]
  | cons t rest ih => rw [List.cons_append, totalAll_cons, totalAll_cons, ih, add_assoc]

end Tree

namespace Label

def nesting (l : Label) (params : Text) : Label where
  kind := .atRule "nest".toList params true
  raws := { l.raws with afterName := some [' '] }
  source := l.source

def wrapping (media first : Label) : Label :=
  { media with
    raws :=
      { media.raws with
        before := first.raws.before, after := first.raws.after
        semicolon := first.raws.semicolon } }

end Label

namespace Nesting

/-- No selector of the two lists is empty, and the filter accepts what `leftOver` finds for every
selector of the first and every selector of the second. -/
def Shares (accepts : Text → Bool) (leftOver : Text → Text → Option Text)
    (first second : Text) : Prop :=
  (∀ selector ∈ SelectorList.split first, selector ≠ []) ∧
    (∀ selector ∈ SelectorList.split second, selector ≠ []) ∧
    allPairs accepts leftOver (SelectorList.split first) (SelectorList.split second) = true

/-- Where the selectors of a list are set apart by something, it is by the separator. -/
def Separates (separator selector : Text) : Prop :=
  ∀ present, SelectorList.separator? selector = some present → separator = present

/-- What becomes of the two nodes of a matching pair. -/
inductive Rewrites (accepts : Text → Bool) :
    Tree Label → Tree Label → List (Tree Label) → List (Tree Label) → Prop
  | descendant {inner outer : Label} {ts us : List (Tree Label)} {first second : Text}
      (separator : Text) (before : Option Text)
      (kindInner : inner.kind = .rule first) (kindOuter : outer.kind = .rule second)
      (shares : Shares accepts suffix? first second) (separates : Separates separator first)
      (passed : before = outer.raws.before ∨ before = inner.raws.before) :
      Rewrites accepts (.node inner ts) (.node outer us) []
        [.node (outer.setBefore before) (us ++
          [.node
            { inner with
              kind := .rule (Text.join separator ((SelectorList.split first).map
                (nestDescendant (SelectorList.split second)))) } ts])]
  | ancestor {outer inner : Label} {ts us : List (Tree Label)} {first second : Text}
      (separator : Text) (before : Option Text)
      (kindOuter : outer.kind = .rule first) (kindInner : inner.kind = .rule second)
      (shares : Shares accepts lead? first second) (separates : Separates separator first)
      (passed : before = inner.raws.before ∨ before = outer.raws.before) :
      Rewrites accepts (.node outer ts) (.node inner us) []
        [.node (inner.setBefore before) (us ++
          [.node
            (outer.nesting (Text.join separator ((SelectorList.split first).map
              (nestAncestor (SelectorList.split second))))) ts])]
  | media {rule media first : Label} {ts us rest : List (Tree Label)} {selector params : Text}
      {hasBlock : Bool} (kindRule : rule.kind = .rule selector)
      (kindMedia : media.kind = .atRule "media".toList params hasBlock)
      (kindFirst : first.kind = .rule selector) (more : rest ≠ []) :
      Rewrites accepts (.node rule ts) (.node media (.node first us :: rest))
        [.node rule (ts ++ [.node (media.wrapping first) us])] [.node media rest]
  | mediaWhole {rule media first : Label} {ts us : List (Tree Label)} {selector params : Text}
      {hasBlock : Bool} (before : Option Text) (kindRule : rule.kind = .rule selector)
      (kindMedia : media.kind = .atRule "media".toList params hasBlock)
      (kindFirst : first.kind = .rule selector)
      (passed : before = rule.raws.before ∨ before = media.raws.before) :
      Rewrites accepts (.node rule ts) (.node media [.node first us])
        [.node (rule.setBefore before) (ts ++ [.node (media.wrapping first) us])] []

inductive Rewritten (accepts : Text → Bool) : Tree Label → Tree Label → Prop
  | forward {a b : Tree Label} {as bs : List (Tree Label)} (l : Label)
      (front behind : List (Tree Label)) (rewrites : Rewrites accepts a b as bs) :
      Rewritten accepts (.node l (front ++ a :: b :: behind)) (.node l (front ++ (as ++ bs) ++ behind))
  | backward {a b : Tree Label} {as bs : List (Tree Label)} (l : Label)
      (front behind : List (Tree Label)) (rewrites : Rewrites accepts a b as bs) :
      Rewritten accepts (.node l (front ++ b :: a :: behind)) (.node l (front ++ (bs ++ as) ++ behind))

/-- Two neighbours somewhere in the tree are rewritten. -/
abbrev Step (accepts : Text → Bool) : Tree Label → Tree Label → Prop :=
  Tree.Inside (Rewritten accepts)

end Nesting

end NestLint
