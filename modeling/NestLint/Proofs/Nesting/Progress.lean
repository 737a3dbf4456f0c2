import Mathlib.Algebra.Order.BigOperators.Group.List
import Mathlib.Tactic.Linarith
import NestLint.Proofs.Nesting.Rewriting
import NestLint.Proofs.Sheet.Alike
import NestLint.Proofs.Sheet.Subtree

/-!
Rewriting never comes back. A step takes a rule away, or it keeps the number of rules and puts nodes
deeper. So a tree that has been rewritten at least once is another tree. Nor does rewriting go on
forever: it adds no node, and in a tree of so many nodes there is only so much depth to gain, which
makes one number, the rank, that every step lowers.
-/

namespace NestLint

namespace Tree

variable {α : Type}

mutual
def depths (depth : Nat) : Tree α → Nat
  | .node _ ts => depth + depthsAll (depth + 1) ts
def depthsAll (depth : Nat) : List (Tree α) → Nat
  | [] => 0
  | t :: ts => depths depth t + depthsAll depth ts
end

@[simp] theorem depthsAll_append (depth : Nat) (ts us : List (Tree α)) :
    depthsAll depth (ts ++ us) = depthsAll depth ts + depthsAll depth us := by
  induction ts with
  | nil => rw [List.nil_append, depthsAll, Nat.zero_add]
  | cons t rest ih => rw [List.cons_append, depthsAll, depthsAll, ih, Nat.add_assoc]

mutual
theorem depths_le_succ (depth : Nat) (t : Tree α) : depths depth t ≤ depths (depth + 1) t := by
  cases t with
  | node a ts =>
    have deeper := depthsAll_le_succ (depth + 1) ts
    rw [depths, depths]
    omega
theorem depthsAll_le_succ (depth : Nat) (ts : List (Tree α)) :
    depthsAll depth ts ≤ depthsAll (depth + 1) ts := by
  cases ts with
  | nil => exact Nat.le_refl _
  | cons t rest =>
    have first := depths_le_succ depth t
    have later := depthsAll_le_succ depth rest
    rw [depthsAll, depthsAll]
    omega
end

mutual
theorem depths_le (depth : Nat) (t : Tree α) : depths depth t ≤ t.size * (depth + t.size) := by
  cases t with
  | node a ts =>
    have inside := depthsAll_le (depth + 1) ts
    rw [depths, size]
    nlinarith
theorem depthsAll_le (depth : Nat) (ts : List (Tree α)) :
    depthsAll depth ts ≤ sizeAll ts * (depth + sizeAll ts) := by
  cases ts with
  | nil => exact Nat.zero_le _
  | cons t rest =>
    have first := depths_le depth t
    have later := depthsAll_le depth rest
    rw [depthsAll, sizeAll]
    nlinarith
end

mutual
theorem depths_map {β : Type} (f : α → β) (depth : Nat) (t : Tree α) :
    depths depth (t.map f) = depths depth t := by
  cases t with
  | node a ts => rw [map, depths, depths, depthsAll_mapAll f (depth + 1) ts]
theorem depthsAll_mapAll {β : Type} (f : α → β) (depth : Nat) (ts : List (Tree α)) :
    depthsAll depth (mapAll f ts) = depthsAll depth ts := by
  cases ts with
  | nil => rfl
  | cons t rest =>
    rw [mapAll, depthsAll, depthsAll, depths_map f depth t, depthsAll_mapAll f depth rest]
end

end Tree

namespace Nesting

open NestLint.Tree

def countRule (l : Label) : Nat := if l.kind.isRule then 1 else 0

theorem countRule_of_rule {l : Label} {selector : Text} (kind : l.kind = .rule selector) :
    countRule l = 1 := by
  simp [countRule, kind, Kind.isRule]

theorem countRule_of_atRule {l : Label} {name params : Text} {hasBlock : Bool}
    (kind : l.kind = .atRule name params hasBlock) : countRule l = 0 := by
  simp [countRule, kind, Kind.isRule]

/-- The second tree has fewer rules, or as many and its nodes are deeper. -/
def Ahead (t t' : Tree Label) : Prop :=
  total countRule t' < total countRule t ∨
    total countRule t' = total countRule t ∧ ∀ depth, depths depth t < depths depth t'

theorem Ahead.trans {t t' t'' : Tree Label} (first : Ahead t t') (second : Ahead t' t'') :
    Ahead t t'' := by
  rcases first with fewer | ⟨same, deeper⟩
  · rcases second with fewer' | ⟨same', -⟩
    · exact Or.inl (Nat.lt_trans fewer' fewer)
    · exact Or.inl (same' ▸ fewer)
  · rcases second with fewer' | ⟨same', deeper'⟩
    · exact Or.inl (same ▸ fewer')
    · exact Or.inr ⟨same'.trans same, fun depth => Nat.lt_trans (deeper depth) (deeper' depth)⟩

theorem not_ahead_self (t : Tree Label) : ¬ Ahead t t := by
  rintro (fewer | ⟨-, deeper⟩)
  · exact Nat.lt_irrefl _ fewer
  · exact Nat.lt_irrefl _ (deeper 0)

variable {accepts : Text → Bool}

theorem ahead_of_rewrites {a b : Tree Label} {as bs : List (Tree Label)}
    (rewrites : Rewrites accepts a b as bs) :
    totalAll countRule as + totalAll countRule bs < total countRule a + total countRule b ∨
      totalAll countRule as + totalAll countRule bs = total countRule a + total countRule b ∧
        ∀ depth, depths depth a + depths depth b < depthsAll depth as + depthsAll depth bs := by
  cases rewrites with
  | @descendant inner outer ts us _ _ separator before kindInner kindOuter shares =>
    -- The rule that moves is one level deeper, with all that it holds.
    right
    have kept : countRule (outer.setBefore before) = 1 := countRule_of_rule kindOuter
    constructor
    · simp only [totalAll_nil, totalAll_cons, totalAll_append, total_node, kept,
        countRule_of_rule kindInner, countRule_of_rule kindOuter]
      rw [countRule_of_rule rfl]
      omega
    · intro depth
      have deeper := depthsAll_le_succ (depth + 1) ts
      simp only [depths, depthsAll, depthsAll_append]
      omega
  | @ancestor outer inner _ _ _ _ separator before kindOuter kindInner shares =>
    left
    have kept : countRule (inner.setBefore before) = 1 := countRule_of_rule kindInner
    simp only [totalAll_nil, totalAll_cons, totalAll_append, total_node, kept,
      countRule_of_rule kindInner, countRule_of_rule kindOuter]
    rw [countRule_of_atRule rfl]
    omega
  | @media rule media first _ _ _ _ _ _ kindRule kindMedia kindFirst more =>
    left
    have wrapper : countRule (media.wrapping first) = 0 := countRule_of_atRule kindMedia
    simp only [totalAll_nil, totalAll_cons, totalAll_append, total_node, wrapper,
      countRule_of_rule kindRule, countRule_of_rule kindFirst, countRule_of_atRule kindMedia]
    omega
  | @mediaWhole rule media first _ _ _ _ _ before kindRule kindMedia kindFirst =>
    left
    have wrapper : countRule (media.wrapping first) = 0 := countRule_of_atRule kindMedia
    have kept : countRule (rule.setBefore before) = 1 := countRule_of_rule kindRule
    simp only [totalAll_nil, totalAll_cons, totalAll_append, total_node, wrapper, kept,
      countRule_of_rule kindRule, countRule_of_rule kindFirst, countRule_of_atRule kindMedia]
    omega

theorem ahead_of_children (l : Label) (front behind ts ts' : List (Tree Label))
    (ahead : totalAll countRule ts' < totalAll countRule ts ∨
      totalAll countRule ts' = totalAll countRule ts ∧
        ∀ depth, depthsAll depth ts < depthsAll depth ts') :
    Ahead (.node l (front ++ (ts ++ behind))) (.node l (front ++ (ts' ++ behind))) := by
  rcases ahead with fewer | ⟨same, deeper⟩
  · left
    simp only [total_node, totalAll_append]
    omega
  · right
    constructor
    · simp only [total_node, totalAll_append, same]
    · intro depth
      have lower := deeper (depth + 1)
      simp only [depths, depthsAll_append]
      omega

theorem ahead_of_step {t t' : Tree Label} (step : Step accepts t t') : Ahead t t' := by
  induction step with
  | here changed =>
    cases changed with
    | @forward a b as bs l front behind rewrites =>
      rw [List.append_assoc]
      apply ahead_of_children l front behind [a, b] (as ++ bs)
      simpa only [totalAll_append, totalAll_cons, totalAll_nil, depthsAll_append, depthsAll,
        add_zero] using ahead_of_rewrites rewrites
    | @backward a b as bs l front behind rewrites =>
      rw [List.append_assoc]
      apply ahead_of_children l front behind [b, a] (bs ++ as)
      simpa only [totalAll_append, totalAll_cons, totalAll_nil, depthsAll_append, depthsAll,
        add_zero, zero_add, add_comm (total _ a), add_comm (totalAll _ as), add_comm (depths _ a),
        add_comm (depthsAll _ as)] using ahead_of_rewrites rewrites
  | @under t t' l front behind deeper ih =>
    apply ahead_of_children l front behind [t] [t']
    simpa only [totalAll_cons, totalAll_nil, depthsAll, add_zero, Ahead] using ih

theorem ne_of_steps {t t' : Tree Label} (steps : Relation.TransGen (Step accepts) t t') : t' ≠ t := by
  have ahead : Ahead t t' := by
    induction steps with
    | single step => exact ahead_of_step step
    | tail _ step ih => exact ih.trans (ahead_of_step step)
  rintro rfl
  exact not_ahead_self t' ahead

theorem size_of_rewrites {a b : Tree Label} {as bs : List (Tree Label)}
    (rewrites : Rewrites accepts a b as bs) : sizeAll as + sizeAll bs ≤ a.size + b.size := by
  cases rewrites <;> simp only [sizeAll, size, sizeAll_append] <;> omega

theorem size_of_step {t t' : Tree Label} (step : Step accepts t t') : t'.size ≤ t.size := by
  induction step with
  | here changed =>
    cases changed with
    | forward l front behind rewrites =>
      have fewer := size_of_rewrites rewrites
      simp only [size, sizeAll, sizeAll_append]
      omega
    | backward l front behind rewrites =>
      have fewer := size_of_rewrites rewrites
      simp only [size, sizeAll, sizeAll_append]
      omega
  | under l front behind deeper ih =>
    simp only [size, sizeAll, sizeAll_append]
    omega

/-- How far a tree of at most `bound` nodes is from the end: the number of its rules, and then the depth
that is left to gain. -/
def rank (bound : Nat) (t : Tree Label) : Nat :=
  total countRule t * (bound * bound + 1) + (bound * bound - depths 0 t)

variable {bound : Nat} {t t' : Tree Label}

theorem depths_le_bound (small : t.size ≤ bound) : depths 0 t ≤ bound * bound := by
  have most := depths_le 0 t
  rw [Nat.zero_add] at most
  exact Nat.le_trans most (Nat.mul_le_mul small small)

theorem rank_of_step (step : Step accepts t t') (small : t.size ≤ bound) :
    rank bound t' + 1 ≤ rank bound t := by
  have deepest := depths_le_bound (Nat.le_trans (size_of_step step) small)
  unfold rank
  rcases ahead_of_step step with fewer | ⟨same, deeper⟩
  · -- A rule less outweighs all depth.
    have weight := Nat.mul_le_mul_right (bound * bound + 1) (Nat.succ_le_of_lt fewer)
    rw [Nat.succ_mul] at weight
    omega
  · have gained := deeper 0
    rw [same]
    omega

theorem rank_lt (small : t.size ≤ bound) : rank bound t < (bound + 1) * (bound * bound + 1) := by
  have rules : total countRule t ≤ bound := by
    refine Nat.le_trans ?_ small
    rw [total, ← length_preorder]
    refine (List.sum_le_card_nsmul _ 1 fun n listed => ?_).trans (by simp)
    obtain ⟨l, -, rfl⟩ := List.mem_map.mp listed
    unfold countRule
    split <;> omega
  have weight := Nat.mul_le_mul_right (bound * bound + 1) rules
  rw [rank, Nat.succ_mul]
  omega

theorem rank_of_bare (same : t.map Label.bare = t'.map Label.bare) : rank bound t = rank bound t' := by
  have unchanged : ∀ u : Tree Label, rank bound (u.map Label.bare) = rank bound u := by
    intro u
    rw [rank, rank, depths_map, total, total, preorder_map, List.map_map]
    rfl
  rw [← unchanged t, same, unchanged t']

end Nesting

end NestLint
