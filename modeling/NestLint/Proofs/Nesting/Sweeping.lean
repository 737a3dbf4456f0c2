import Mathlib.Data.List.Chain
import NestLint.Proofs.Nesting.Shifting

/-!
What a fixing run keeps up while it works at a node. Every row of siblings has been swept as far as the
walk has come: two neighbours are parted unless the second one is still pending or is the node itself. The
row inside the node is left out, since the walk goes there next. But a node at the top of the sheet may
turn into a nesting at-rule, whose row is not visited any more; so what it has gathered is parted as well,
and stays clear of the rule that stands before the node.
-/

namespace NestLint

namespace Sheet

open Nesting

/-- Selectors have the form that their place asks for, and media blocks hold nothing. -/
structure Tame (s : Sheet) : Prop where
  plain : ∀ {id parent selector}, s.parent id = some parent → s.kind id = .rule selector →
    Plain (parent != root) selector
  media : ∀ {id}, (s.kind id).atName? = some "media".toList → s.children id = []

theorem Tame.quiet {s : Sheet} (tame : s.Tame) (id : NodeId) : mediaFirstRule? s id = none := by
  unfold mediaFirstRule?
  split
  next isMedia => rw [firstChild, tame.media isMedia, List.head?_nil, Option.bind_none]
  next => rfl

theorem Tame.plain_of_ne_root {s : Sheet} (tame : s.Tame) {id parent : NodeId} {selector : Text}
    (up : s.parent id = some parent) (kind : s.kind id = .rule selector) (inner : parent ≠ root) :
    Plain true selector := by
  have plain := tame.plain up kind
  rwa [bne_iff_ne.mpr inner] at plain

end Sheet

namespace Nesting

open Sheet

variable {accepts : Text → Bool} {s s' : Sheet} {place a b moved node prev : NodeId}
  {front behind : List NodeId} {first second : Text}

def Cleared (accepts : Text → Bool) (s : Sheet) (node a b : NodeId) : Prop :=
  b = node ∨ b ∈ s.pending ∨ Parted accepts s a b

namespace Shifted

theorem children_cases (shifted : Shifted s s' place a b moved front behind) (x : NodeId) :
    x = place ∧ s'.children x = front ++ b :: behind ∨ x = b ∧ s'.children x = s.children b ++ [moved] ∨
      x = moved ∧ s'.children x = s.children a ∨ s'.children x = [] ∨
      x ≠ place ∧ x ≠ a ∧ s'.children x = s.children x := by
  by_cases isPlace : x = place
  · exact Or.inl ⟨isPlace, isPlace ▸ shifted.row⟩
  by_cases isB : x = b
  · exact Or.inr (Or.inl ⟨isB, isB ▸ shifted.grown⟩)
  by_cases isMoved : x = moved
  · exact Or.inr (Or.inr (Or.inl ⟨isMoved, isMoved ▸ shifted.held⟩))
  by_cases isA : x = a
  · rcases shifted.gone with same | ⟨-, -, empty⟩
    · exact absurd (isA.trans same.symm) isMoved
    · exact Or.inr (Or.inr (Or.inr (Or.inl (isA ▸ empty))))
  · exact Or.inr (Or.inr (Or.inr (Or.inr ⟨isPlace, isA, shifted.children x isPlace isA isB isMoved⟩)))

theorem cleared (shifted : Shifted s s' place a b moved front behind) {p n : NodeId}
    (kindP : s'.kind p = s.kind p) (kindN : s'.kind n = s.kind n)
    (clear : Cleared accepts s node p n) : Cleared accepts s' node p n := by
  rcases clear with same | waits | parted
  · exact Or.inl same
  · exact Or.inr (Or.inl (by rwa [shifted.pending]))
  · exact Or.inr (Or.inr (parted.of_kinds_eq kindP kindN))

theorem moved_ne_root (shifted : Shifted s s' place a b moved front behind) (spaced : s.Spaced)
    (kindA : s.kind a = .rule first) : moved ≠ root := by
  rcases shifted.gone with same | ⟨new, -⟩
  · exact same ▸ ne_root_of_rule spaced kindA
  · exact (Nat.lt_of_lt_of_le spaced.root_stored new).ne'

variable (shifted : Shifted s s' place a b moved front behind) (spaced : s.Spaced)
  (beside : s.Beside place a b front behind)

include shifted spaced beside

theorem kind_of_mem {x c : NodeId} (listed : c ∈ s.children x) (other : x ≠ place) :
    s'.kind c = s.kind c := by
  apply shifted.kind c (spaced.linked.stored_of_mem listed)
  rintro rfl
  have up := spaced.linked.parent_of_mem listed
  rw [beside.up_left spaced.linked] at up
  exact other (Option.some.inj up).symm

theorem kind_of_mem_row {c : NodeId} (listed : c ∈ front ++ b :: behind) :
    s.parent c = some place ∧ s'.kind c = s.kind c := by
  have linked := spaced.linked
  have apart : s.parent c = some place ∧ c ≠ a := by
    rcases List.mem_append.mp listed with early | late
    · have other := beside.up_other linked (Or.inl early)
      exact ⟨other.1, other.2.1⟩
    · rcases List.mem_cons.mp late with rfl | late
      · exact ⟨beside.up_right linked, (beside.ne linked).symm⟩
      · have other := beside.up_other linked (Or.inr late)
        exact ⟨other.1, other.2.1⟩
  exact ⟨apart.1, shifted.kind c (stored_of_parent apart.1) apart.2⟩

theorem tame (tame : s.Tame) (kindA : s.kind a = .rule first) (kindB : s.kind b = .rule second) :
    s'.Tame := by
  have linked := spaced.linked
  have notPlaceB := beside.symm.ne_place linked
  have kindB' : s'.kind b = .rule second := by
    rw [shifted.kind b (stored_of_parent (beside.up_right linked)) (beside.ne linked).symm, kindB]
  have same : ∀ {x id selector}, x ≠ place → id ∈ s.children x → s'.kind id = .rule selector →
      Plain (x != root) selector := by
    intro x id selector other listed kind
    rw [shifted.kind_of_mem spaced beside listed other] at kind
    exact tame.plain (linked.parent_of_mem listed) kind
  constructor
  · intro id parent selector up kind
    have listed := shifted.spaced.linked.mem_of_parent up
    rcases shifted.children_cases parent with
      ⟨rfl, row⟩ | ⟨rfl, row⟩ | ⟨rfl, row⟩ | row | ⟨other, -, row⟩
    · rw [row] at listed
      obtain ⟨upId, sameKind⟩ := shifted.kind_of_mem_row spaced beside listed
      exact tame.plain upId (sameKind ▸ kind)
    · rw [row, List.mem_append, List.mem_singleton] at listed
      rcases listed with old | rfl
      · exact same notPlaceB old kind
      · rw [bne_iff_ne.mpr (ne_root_of_rule spaced kindB)]
        rcases shifted.inward with ⟨own, isOwn, plain⟩ | ⟨params, isNest⟩
        · rw [isOwn, Kind.rule.injEq] at kind
          exact kind ▸ plain
        · rw [isNest] at kind
          cases kind
    · rw [row] at listed
      have plain := same (beside.ne_place linked) listed kind
      rw [bne_iff_ne.mpr (ne_root_of_rule spaced kindA)] at plain
      rwa [bne_iff_ne.mpr (shifted.moved_ne_root spaced kindA)]
    · rw [row] at listed
      cases listed
    · rw [row] at listed
      exact same other listed kind
  · intro id isMedia
    rcases shifted.children_cases id with
      ⟨rfl, row⟩ | ⟨rfl, row⟩ | ⟨rfl, row⟩ | row | ⟨-, notA, row⟩
    · have listed := linked.mem_of_parent (beside.up_left linked)
      rw [shifted.kind id (stored_of_child listed) (beside.ne_place linked).symm] at isMedia
      rw [tame.media isMedia] at listed
      cases listed
    · rw [kindB'] at isMedia
      cases isMedia
    · rcases shifted.inward with ⟨own, isOwn, -⟩ | ⟨params, isNest⟩
      · rw [isOwn] at isMedia
        cases isMedia
      · rw [isNest] at isMedia
        exact absurd (Option.some.inj isMedia) (by decide)
    · exact row
    · rw [row]
      by_cases old : id < s.nodes.size
      · exact tame.media (shifted.kind id old notA ▸ isMedia)
      · exact children_of_not_stored (Nat.not_lt.mp old)

theorem chain {x : NodeId} (other : x ≠ place) (swept : (s.children x).IsChain (Cleared accepts s node)) :
    (s.children x).IsChain (Cleared accepts s' node) := by
  refine swept.imp_of_mem_imp fun p n listedP listedN clear => ?_
  exact shifted.cleared (shifted.kind_of_mem spaced beside listedP other)
    (shifted.kind_of_mem spaced beside listedN other) clear

theorem chain_row {ids : List NodeId} (part : ids ⊆ front ++ b :: behind)
    (swept : ids.IsChain (Cleared accepts s node)) : ids.IsChain (Cleared accepts s' node) := by
  refine swept.imp_of_mem_imp fun p n listedP listedN clear => ?_
  exact shifted.cleared (shifted.kind_of_mem_row spaced beside (part listedP)).2
    (shifted.kind_of_mem_row spaced beside (part listedN)).2 clear

theorem chain_parted {x : NodeId} (other : x ≠ place) (parted : (s.children x).IsChain (Parted accepts s)) :
    (s.children x).IsChain (Parted accepts s') := by
  refine parted.imp_of_mem_imp fun p n listedP listedN apart => ?_
  exact apart.of_kinds_eq (shifted.kind_of_mem spaced beside listedP other)
    (shifted.kind_of_mem spaced beside listedN other)

theorem fresh (kindB : s.kind b = .rule second) (notPlace : place ∉ s.pending) (notA : a ∉ s.pending)
    (notB : b ∉ s.pending)
    (leaves : ∀ n ∈ s.pending, s.parent n = some root → ∀ c ∈ s.children n, (s.kind c).isRule = false) :
    ∀ n ∈ s'.pending, s'.parent n = some root → ∀ c ∈ s'.children n, (s'.kind c).isRule = false := by
  intro n waits up c listed
  rw [shifted.pending] at waits
  have linked := spaced.linked
  obtain ⟨container, -, upN⟩ := linked.parent_of_pending waits
  have upRoot : s.parent n = some root := by
    have top := shifted.spaced.linked.mem_of_parent up
    rcases shifted.children_cases root with
      ⟨isPlace, row⟩ | ⟨isB, -⟩ | ⟨isMoved, row⟩ | row | ⟨-, -, row⟩
    · rw [row] at top
      exact isPlace ▸ (shifted.kind_of_mem_row spaced beside top).1
    · exact absurd isB.symm (ne_root_of_rule spaced kindB)
    · rw [row] at top
      rcases shifted.gone with same | ⟨new, -⟩
      · rw [isMoved, same]
        exact linked.parent_of_mem top
      · exact absurd isMoved (Nat.lt_of_lt_of_le spaced.root_stored new).ne
    · rw [row] at top
      cases top
    · rw [row] at top
      exact linked.parent_of_mem top
  rcases shifted.children_cases n with
    ⟨rfl, -⟩ | ⟨rfl, -⟩ | ⟨rfl, row⟩ | row | ⟨other, -, row⟩
  · exact absurd waits notPlace
  · exact absurd waits notB
  · rcases shifted.gone with same | ⟨new, -⟩
    · exact absurd (same ▸ waits) notA
    · exact absurd (stored_of_parent upN) (Nat.not_lt.mpr new)
  · rw [row] at listed
    cases listed
  · rw [row] at listed
    rw [shifted.kind_of_mem spaced beside listed other]
    exact leaves n waits upRoot c listed

end Shifted

/-- What a node at the top of the sheet has taken in: its row is parted, and if the last of it is a rule,
that rule, read as it would stand outside, is clear of the sibling before the node. -/
structure Gathered (accepts : Text → Bool) (s : Sheet) (node : NodeId) : Prop where
  parted : (s.children node).IsChain (Parted accepts s)
  last : ∀ {front behind prev last rest selector outer},
    s.children root = front ++ prev :: node :: behind → last ∈ (s.children node).getLast? →
    s.kind last = .rule ('&' :: rest) → s.kind node = .rule selector → s.kind prev = .rule outer →
    ∃ whole, Plain false whole ∧ whole.trim = selector.trim ++ rest ∧ Clear accepts whole outer

/-- What holds all through a walk. -/
structure Underway (s : Sheet) : Prop where
  spaced : s.Spaced
  tame : s.Tame
  stacked : s.Stacked s.containers
  shut : ∀ c ∈ s.containers, c ∉ s.pending
  /-- What is pending at the top of the sheet holds no rules yet. -/
  fresh : ∀ n ∈ s.pending, s.parent n = some root → ∀ c ∈ s.children n, (s.kind c).isRule = false

/-- What holds in the middle of a walk while a node is being settled. -/
structure Sweeping (accepts : Text → Bool) (s : Sheet) (node : NodeId) : Prop extends Underway s where
  /-- The node has been taken up, and all that stands behind it is pending. -/
  done : node ∉ s.pending
  behind : ∀ {place front behind}, s.children place = front ++ node :: behind → ∀ y ∈ behind, y ∈ s.pending
  /-- The node hangs in the open containers, or nowhere and holds nothing. -/
  above : ∀ {place}, s.parent node = some place → place ∉ s.pending ∧ ∀ c ∈ s.containers, s.Under place c
  held : s.parent node = none → s.children node = []
  rows : ∀ place, place ≠ node → (s.children place).IsChain (Cleared accepts s node)
  gathered : s.parent node = some root → Gathered accepts s node

namespace Sweeping

variable (sweeping : Sweeping accepts s node)

include sweeping

theorem not_open {x : NodeId} (up : s.parent node = some place) (upX : s.parent x = some place) :
    x ∉ s.containers := fun isOpen =>
  sweeping.spaced.linked.not_under_child upX ((sweeping.above up).2 x isOpen)

theorem prev_not_pending (row : s.children place = front ++ prev :: node :: behind) : prev ∉ s.pending :=
  fun waits => sweeping.done (sweeping.spaced.linked.pending_of_before row waits)

theorem parted_before {earlier : NodeId} (row : s.children place = front ++ earlier :: prev :: node :: behind) :
    Parted accepts s earlier prev := by
  have linked := sweeping.spaced.linked
  have row' : s.children place = (front ++ [earlier]) ++ prev :: node :: behind := by simp [row]
  have notPlace : place ≠ node := by
    rintro rfl
    have up := linked.parent_of_mem (show place ∈ s.children place by rw [row]; simp)
    exact linked.not_under_child up (under_refl s place)
  have notNode : prev ≠ node := by
    rintro rfl
    have once := linked.nodup place
    rw [row'] at once
    simp [List.nodup_append] at once
  have chain := sweeping.rows place notPlace
  rw [row] at chain
  rcases (List.isChain_append_cons_cons.mp chain).2.1 with same | waits | parted
  · exact absurd same notNode
  · exact absurd waits (sweeping.prev_not_pending row')
  · exact parted

theorem absorb (row : s.children place = front ++ prev :: node :: behind) (kindPrev : s.kind prev = .rule first)
    (kindNode : s.kind node = .rule second) (shifted : Shifted s s' place prev node moved front behind)
    (containers : s'.containers = s.containers) (same : ∀ x, s.Under place x → s'.parent x = s.parent x)
    (stacked : s'.Stacked s'.containers) (gathered : place = root → Gathered accepts s' node) :
    Sweeping accepts s' node := by
  have spaced := sweeping.spaced
  have linked := spaced.linked
  have beside : s.Beside place prev node front behind := Or.inl row
  have up := beside.up_right linked
  have up' : s'.parent node = some place :=
    shifted.spaced.linked.parent_of_mem (by rw [shifted.row]; simp)
  obtain ⟨notPlace, inside⟩ := sweeping.above up
  have notPrev := sweeping.prev_not_pending row
  refine ⟨⟨shifted.spaced, shifted.tame spaced beside sweeping.tame kindPrev kindNode, stacked, ?_,
    shifted.fresh spaced beside kindNode notPlace notPrev sweeping.done sweeping.fresh⟩, ?_,
    fun {x front' behind'} row' y listed => ?_, fun {x} upX => ?_, fun free => ?_, fun x other => ?_, fun top => ?_⟩
  · rw [containers, shifted.pending]
    exact sweeping.shut
  · rw [shifted.pending]
    exact sweeping.done
  · obtain ⟨-, -, rfl⟩ := shifted.spaced.linked.row_unique shifted.row row'
    rw [shifted.pending]
    exact sweeping.behind (show s.children place = (front ++ [prev]) ++ node :: behind' by simp [row]) y listed
  · obtain rfl : place = x := Option.some.inj (up'.symm.trans upX)
    rw [shifted.pending, containers]
    exact ⟨notPlace, fun c isOpen => (inside c isOpen).to_same_above same⟩
  · rw [up'] at free
    cases free
  · rcases shifted.children_cases x with ⟨rfl, isRow⟩ | ⟨isNode, -⟩ | ⟨-, isRow⟩ | isRow | ⟨notPlace, -, isRow⟩
    · -- The node moves up to the sibling before the one that has gone.
      have chain := sweeping.rows x other
      rw [row, List.isChain_append] at chain
      obtain ⟨early, late, -⟩ := chain
      rw [isRow, List.isChain_append]
      refine ⟨shifted.chain_row spaced beside (by simp) early,
        shifted.chain_row spaced beside (by simp) late.tail, fun p _ n isFirst => Or.inl ?_⟩
      exact (Option.some.inj isFirst).symm
    · exact absurd isNode other
    · rw [isRow]
      exact shifted.chain spaced beside (beside.ne_place linked) (sweeping.rows prev (beside.ne linked))
    · rw [isRow]
      exact List.isChain_nil
    · rw [isRow]
      exact shifted.chain spaced beside notPlace (sweeping.rows x other)
  · exact gathered (Option.some.inj (up'.symm.trans top))

theorem give (row : s.children place = front ++ prev :: node :: behind) (kindNode : s.kind node = .rule first)
    (kindPrev : s.kind prev = .rule second) (shifted : Shifted s s' place node prev moved front behind)
    (containers : s'.containers = s.containers) (same : ∀ x, s.Under place x → s'.parent x = s.parent x)
    (stacked : s'.Stacked s'.containers)
    (handed : moved ≠ node → (s'.kind moved).isRule = false ∧ (s.children node).IsChain (Parted accepts s)) :
    Sweeping accepts s' node := by
  have spaced := sweeping.spaced
  have linked := spaced.linked
  have linked' := shifted.spaced.linked
  have beside : s.Beside place node prev front behind := Or.inr row
  have up := beside.up_left linked
  have upPrev : s'.parent prev = some place := linked'.parent_of_mem (by rw [shifted.row]; simp)
  obtain ⟨notPlace, inside⟩ := sweeping.above up
  have notPrev := sweeping.prev_not_pending row
  -- Either the node is the last child of its sibling now, or it hangs nowhere and holds nothing.
  have hangs : s'.parent node = some prev ∧ moved = node ∨ s'.parent node = none ∧ s'.children node = [] := by
    rcases shifted.gone with rfl | ⟨-, free, empty⟩
    · exact Or.inl ⟨linked'.parent_of_mem (by rw [shifted.grown]; simp), rfl⟩
    · exact Or.inr ⟨free, empty⟩
  have below : ∀ {x}, s'.parent node = some x → x = prev ∧ moved = node := by
    intro x upX
    rcases hangs with ⟨upNode, isNode⟩ | ⟨free, -⟩
    · exact ⟨Option.some.inj (upX.symm.trans upNode), isNode⟩
    · rw [free] at upX
      cases upX
  refine ⟨⟨shifted.spaced, shifted.tame spaced beside sweeping.tame kindNode kindPrev, stacked, ?_,
    shifted.fresh spaced beside kindPrev notPlace sweeping.done notPrev sweeping.fresh⟩, ?_,
    fun {x front' behind'} row' y listed => ?_, fun {x} upX => ?_, fun free => ?_, fun x other => ?_, fun top => ?_⟩
  · rw [containers, shifted.pending]
    exact sweeping.shut
  · rw [shifted.pending]
    exact sweeping.done
  · obtain ⟨-, rfl⟩ := below (linked'.parent_of_mem (by rw [row']; simp))
    obtain ⟨-, -, rfl⟩ := linked'.row_unique shifted.grown row'
    cases listed
  · obtain ⟨rfl, -⟩ := below upX
    rw [shifted.pending, containers]
    exact ⟨notPrev, fun c isOpen => ((inside c isOpen).to_same_above same).step upPrev⟩
  · rcases hangs with ⟨upNode, -⟩ | ⟨-, empty⟩
    · rw [upNode] at free
      cases free
    · exact empty
  · rcases shifted.children_cases x with
      ⟨rfl, isRow⟩ | ⟨rfl, isRow⟩ | ⟨isMoved, isRow⟩ | isRow | ⟨notPlace, -, isRow⟩
    · -- What stood behind the node stands behind its sibling now, and is pending.
      have chain := sweeping.rows x other
      rw [row, List.isChain_split] at chain
      obtain ⟨early, late⟩ := chain
      rw [isRow, List.isChain_split]
      refine ⟨shifted.chain_row spaced beside (by simp) early, List.isChain_cons.mpr ⟨fun y isFirst => ?_, ?_⟩⟩
      · refine Or.inr (Or.inl ?_)
        rw [shifted.pending]
        exact sweeping.behind (show s.children x = (front ++ [prev]) ++ node :: behind by simp [row]) y
          (List.mem_of_mem_head? isFirst)
      · exact shifted.chain_row spaced beside (by simp) late.tail.tail
    · rw [isRow, List.isChain_append]
      refine ⟨shifted.chain spaced beside (beside.symm.ne_place linked) (sweeping.rows x other),
        List.isChain_singleton moved, fun p _ n isFirst => ?_⟩
      obtain rfl : moved = n := Option.some.inj isFirst
      by_cases isNode : moved = node
      · exact Or.inl isNode
      · exact Or.inr (Or.inr (parted_of_not_isRule (handed isNode).1))
    · rw [isRow]
      have parted := (handed (isMoved ▸ other)).2
      exact (shifted.chain_parted spaced beside (beside.ne_place linked) parted).imp fun _ _ apart =>
        Or.inr (Or.inr apart)
    · rw [isRow]
      exact List.isChain_nil
    · rw [isRow]
      exact shifted.chain spaced beside notPlace (sweeping.rows x other)
  · obtain ⟨isRoot, -⟩ := below top
    exact absurd isRoot.symm (ne_root_of_rule spaced kindPrev)

theorem gathered_absorb (row : s.children root = front ++ prev :: node :: behind)
    (shifted : Shifted s s' root prev node moved front behind)
    (link : ∀ last ∈ (s.children node).getLast?, Parted accepts s' last moved)
    (outside : ∀ {front' earlier rest selector outer},
      s.children root = front' ++ earlier :: prev :: node :: behind → s'.kind moved = .rule ('&' :: rest) →
      s.kind node = .rule selector → s.kind earlier = .rule outer →
      ∃ whole, Plain false whole ∧ whole.trim = selector.trim ++ rest ∧ Clear accepts whole outer) :
    Gathered accepts s' node := by
  have spaced := sweeping.spaced
  have linked := spaced.linked
  have beside : s.Beside root prev node front behind := Or.inl row
  have gathered := sweeping.gathered (beside.up_right linked)
  constructor
  · rw [shifted.grown, List.isChain_append]
    refine ⟨shifted.chain_parted spaced beside (beside.symm.ne_place linked) gathered.parted,
      List.isChain_singleton moved, fun last isLast n isFirst => ?_⟩
    obtain rfl : moved = n := Option.some.inj isFirst
    exact link last isLast
  · intro front' behind' earlier last rest selector outer row' isLast kindLast kindNode kindEarlier
    rw [shifted.grown, List.getLast?_concat] at isLast
    obtain rfl : moved = last := Option.some.inj isLast
    obtain ⟨-, isFront, rfl⟩ := shifted.spaced.linked.row_unique shifted.row
      (show s'.children root = (front' ++ [earlier]) ++ node :: behind' by simp [row'])
    have sameNode := (shifted.kind_of_mem_row spaced beside (c := node) (by simp)).2
    have sameEarlier := (shifted.kind_of_mem_row spaced beside (c := earlier) (by simp [← isFront])).2
    have wasRow : s.children root = front' ++ earlier :: prev :: node :: behind' := by simp [row, ← isFront]
    exact outside wasRow kindLast (sameNode ▸ kindNode) (sameEarlier ▸ kindEarlier)

/-- A rule that goes into the node is parted from the rule that went in before it: outside they were
clear of each other. -/
theorem gathered_absorb_descendant (row : s.children root = front ++ prev :: node :: behind)
    (kindPrev : s.kind prev = .rule first) (kindNode : s.kind node = .rule second)
    (shares : Shares accepts suffix? first second)
    (shifted : Shifted s s' root prev node prev front behind) {rest : Text}
    (whole : first.trim = second.trim ++ rest) (kindMoved : s'.kind prev = .rule ('&' :: rest)) :
    Gathered accepts s' node := by
  have spaced := sweeping.spaced
  have linked := spaced.linked
  have beside : s.Beside root prev node front behind := Or.inl row
  have upNode := beside.up_right linked
  have plainPrev : Plain false first := sweeping.tame.plain (beside.up_left linked) kindPrev
  have plainNode : Plain false second := sweeping.tame.plain upNode kindNode
  have full : second.trim ≠ [] := ((shares_iff suffix? plainPrev.single plainNode.single).mp shares).2.1
  refine sweeping.gathered_absorb row shifted ?_ ?_
  · intro last isLast own other kindLast kindOther
    rw [kindMoved, Kind.rule.injEq] at kindOther
    have listed := List.mem_of_mem_getLast? isLast
    rw [shifted.kind_of_mem spaced beside listed (beside.symm.ne_place linked)] at kindLast
    obtain ⟨-, restLast, rfl, -⟩ := sweeping.tame.plain_of_ne_root (linked.parent_of_mem listed) kindLast
      (ne_root_of_rule spaced kindNode)
    obtain ⟨text, plain, isText, clear⟩ :=
      (sweeping.gathered upNode).last row isLast kindLast kindNode kindPrev
    rw [← kindOther]
    exact clear.inside plainNode plain plainPrev full isText whole
  · intro front' earlier rest' selector outer row' kindMoved' kindNode' kindEarlier
    rw [kindMoved, Kind.rule.injEq, List.cons.injEq] at kindMoved'
    rw [kindNode, Kind.rule.injEq] at kindNode'
    obtain ⟨-, rfl⟩ := kindMoved'
    subst kindNode'
    exact ⟨first, plainPrev, whole, (sweeping.parted_before row' outer first kindEarlier kindPrev).symm⟩

theorem apply {m : Match} (found : matchAt accepts s node = some m) : Sweeping accepts (m.apply s) node := by
  have spaced := sweeping.spaced
  have linked := spaced.linked
  obtain ⟨prev, isPrev, pair, holds⟩ := pair_of_matchAt found
  obtain ⟨place, front, behind, up, row⟩ := row_of_prev? isPrev
  obtain ⟨place', up', nested⟩ := nested_apply spaced found
  obtain rfl : place' = place := Option.some.inj (up'.symm.trans up)
  have upPrev : s.parent prev = some place' := linked.parent_of_mem (by rw [row]; simp)
  have containers := containers_apply m s
  have same : ∀ x, s.Under place' x → (m.apply s).parent x = s.parent x := fun x higher =>
    nested.parent_above linked (stored_of_child (linked.mem_of_parent up)) higher
  have stacked : (m.apply s).Stacked (m.apply s).containers := by
    rw [containers]
    cases opened : s.containers with
    | nil => exact ⟨by simp, List.Pairwise.nil⟩
    | cons c outer =>
      have stacked := sweeping.stacked
      rw [opened] at stacked
      refine stacked.of_same_above fun x higher => same x (((sweeping.above up).2 c ?_).trans higher)
      rw [opened]
      exact List.mem_cons_self
  have notPrev := sweeping.prev_not_pending row
  have shutNode := sweeping.not_open up up
  have shutPrev := sweeping.not_open up upPrev
  obtain ⟨relation, rule1, rule2⟩ := m
  cases relation with
  | descendant =>
    obtain ⟨first, second, kind1, kind2, shares⟩ := holds_descendant_iff.mp holds
    rcases pair with ⟨rfl, rfl⟩ | ⟨rfl, rfl⟩
    · obtain ⟨rest, whole, kindMoved, shifted⟩ := shifted_applyDescendant spaced (Or.inr row) kind1 kind2
        (sweeping.tame.plain up kind1) (sweeping.tame.plain upPrev kind2) shares sweeping.done shutPrev
      exact sweeping.give row kind1 kind2 shifted containers same stacked fun other => absurd rfl other
    · obtain ⟨rest, whole, kindMoved, shifted⟩ := shifted_applyDescendant spaced (Or.inl row) kind1 kind2
        (sweeping.tame.plain upPrev kind1) (sweeping.tame.plain up kind2) shares notPrev shutNode
      refine sweeping.absorb row kind1 kind2 shifted containers same stacked ?_
      rintro rfl
      exact sweeping.gathered_absorb_descendant row kind1 kind2 shares shifted whole kindMoved
  | ancestor =>
    obtain ⟨first, second, kind1, kind2, shares⟩ := holds_ancestor_iff.mp holds
    have stored : ∀ c ∈ s.containers, c < s.nodes.size := fun c isOpen =>
      (sweeping.stacked.inside c isOpen).stored spaced.root_stored
    -- Inside a rule no selector ends with another one.
    have top : ∀ {x y}, s.parent x = some place' → s.parent y = some place' → s.kind x = .rule first →
        s.kind y = .rule second → place' = root := by
      intro x y upX upY kindX kindY
      by_contra inner
      exact not_shares_lead (sweeping.tame.plain_of_ne_root upX kindX inner)
        (sweeping.tame.plain_of_ne_root upY kindY inner) shares
    rcases pair with ⟨rfl, rfl⟩ | ⟨rfl, rfl⟩
    · obtain ⟨⟨params, isNest⟩, shifted⟩ := shifted_applyAncestor spaced (Or.inr row) kind1 kind2
        sweeping.done shutNode shutPrev stored
      refine sweeping.give row kind1 kind2 shifted containers same stacked fun _ => ⟨?_, ?_⟩
      · exact congrArg Kind.isRule isNest
      · exact (sweeping.gathered (top up upPrev kind1 kind2 ▸ up)).parted
    · obtain ⟨⟨params, isNest⟩, shifted⟩ := shifted_applyAncestor spaced (Or.inl row) kind1 kind2
        notPrev shutPrev shutNode stored
      refine sweeping.absorb row kind1 kind2 shifted containers same stacked ?_
      rintro rfl
      refine sweeping.gathered_absorb row shifted (fun last _ => ?_) fun {_ _ rest _ _} _ kindMoved => ?_
      · exact parted_of_not_isRule (congrArg Kind.isRule isNest)
      · exact absurd (isNest.symm.trans kindMoved) (by simp)
  | media =>
    simp only [Relation.holds, sweeping.tame.quiet] at holds
    split at holds
    next none => cases none
    next => cases holds

end Sweeping

end Nesting

end NestLint
