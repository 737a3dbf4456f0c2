import NestLint.Proofs.Nesting.Sweeping
import NestLint.Proofs.Sheet.Tiling

/-!
One fixing run is enough for a sheet of plain rules: afterwards no two neighbours can be nested any more.
Between two visits, every row has been swept except for what is still pending. A visit takes up the next
pending node, settles it, and adds its children to what is pending; so at the end, when nothing is pending,
every row has been swept.
-/

namespace NestLint

namespace Nesting

open Sheet

variable {accepts : Text → Bool} {s s' : Sheet} {node child : NodeId} {cursor : Cursor} {outer : List Cursor}

theorem Underway.withCursors (underway : Underway s) {cursors : List Cursor}
    (stacked : s.Stacked (cursors.map Cursor.container))
    (opened : ∀ c ∈ cursors.map Cursor.container, c ∈ s.containers)
    (waits : ∀ n ∈ ({ s with cursors := cursors } : Sheet).pending, n ∈ s.pending) :
    Underway { s with cursors := cursors } where
  spaced := underway.spaced.of_nodes_eq rfl
  tame := ⟨underway.tame.plain, underway.tame.media⟩
  stacked := stacked.of_nodes_eq rfl
  shut c isOpen waiting := underway.shut c (opened c isOpen) (waits c waiting)
  fresh n waiting := underway.fresh n (waits n waiting)

/-- What holds between two visits: neighbours are parted, unless the second one is still pending. -/
structure Swept (accepts : Text → Bool) (s : Sheet) : Prop extends Underway s where
  rows : ∀ place, (s.children place).IsChain fun a b => b ∈ s.pending ∨ Parted accepts s a b

namespace Swept

theorem leave (swept : Swept accepts s) (cursors : s.cursors = cursor :: outer)
    (next : (s.children cursor.container)[cursor.next]? = none) :
    Swept accepts { s with cursors := outer } := by
  have waits := pending_leave cursors next
  have stacked := swept.stacked
  have containers : s.containers = cursor.container :: outer.map Cursor.container := by
    rw [containers, cursors, List.map_cons]
  rw [containers] at stacked
  refine ⟨swept.toUnderway.withCursors stacked.tail (fun c isOpen => ?_) (fun n => waits ▸ id), fun place => ?_⟩
  · rw [containers]
    exact List.mem_cons_of_mem _ isOpen
  · rw [waits]
    exact swept.rows place

theorem take (swept : Swept accepts s) (cursors : s.cursors = cursor :: outer)
    (next : (s.children cursor.container)[cursor.next]? = some child) :
    Sweeping accepts { s with cursors := { cursor with next := cursor.next + 1 } :: outer } child := by
  have linked := swept.spaced.linked
  have up := linked.parent_of_mem (List.mem_of_getElem? next)
  have waits := pending_next cursors next
  have stacked := swept.stacked
  have once := linked.nodup_pending stacked
  rw [waits, List.nodup_cons] at once
  have containers : s.containers = cursor.container :: outer.map Cursor.container := by
    rw [containers, cursors, List.map_cons]
  rw [containers] at stacked
  have underway : Underway { s with cursors := { cursor with next := cursor.next + 1 } :: outer } := by
    refine swept.toUnderway.withCursors stacked (fun c isOpen => ?_) fun n waiting => ?_
    · rw [containers]
      exact isOpen
    · rw [waits]
      exact List.mem_cons_of_mem child waiting
  obtain ⟨inside, isChild⟩ := List.getElem?_eq_some_iff.mp next
  have row : s.children cursor.container = (s.children cursor.container).take cursor.next ++
      child :: (s.children cursor.container).drop (cursor.next + 1) := by
    rw [← isChild, ← List.drop_eq_getElem_cons inside, List.take_append_drop]
  refine ⟨underway, once.1, fun {place front behind} row' y listed => ?_, fun {place} upChild => ?_, fun free => ?_,
    fun place _ => ?_, fun top => ?_⟩
  · obtain ⟨-, -, rfl⟩ := linked.row_unique row row'
    exact List.mem_append_left _ listed
  · obtain rfl : cursor.container = place := Option.some.inj (up.symm.trans upChild)
    refine ⟨underway.shut _ List.mem_cons_self, fun c isOpen => ?_⟩
    rcases List.mem_cons.mp isOpen with rfl | higher
    · exact under_refl _ cursor.container
    · exact ((List.pairwise_cons.mp stacked.nested).1 c higher).2
  · exact absurd (up.symm.trans free) (by simp)
  · refine (swept.rows place).imp fun {a b} clear => ?_
    rw [waits, List.mem_cons, or_assoc] at clear
    exact clear
  · have leaves := swept.fresh child (by rw [waits]; exact List.mem_cons_self) top
    refine ⟨(swept.rows child).imp_of_mem_imp fun a b _ listed _ => parted_of_not_isRule (leaves b listed), ?_⟩
    intro front behind prev last rest selector outerSelector row isLast isRule
    have leaf := leaves last (List.mem_of_mem_getLast? isLast)
    rw [show s.kind last = .rule ('&' :: rest) from isRule] at leaf
    cases leaf

end Swept

namespace Sweeping

theorem settles {rewrites : Nat} (sweeping : Sweeping accepts s node)
    (settles : Settles accepts node rewrites s s') :
    Sweeping accepts s' node ∧ matchAt accepts s' node = none ∧ s'.containers = s.containers := by
  induction settles with
  | done settled => exact ⟨sweeping, settled, rfl⟩
  | again found _ ih =>
    obtain ⟨after, settled, containers⟩ := ih (sweeping.apply found)
    exact ⟨after, settled, containers.trans (containers_apply _ _)⟩

theorem rows_of_settled (sweeping : Sweeping accepts s node) (settled : matchAt accepts s node = none)
    {place : NodeId} (other : place ≠ node) :
    (s.children place).IsChain fun a b => b ∈ s.pending ∨ Parted accepts s a b := by
  have chain := sweeping.rows place other
  rw [List.isChain_iff_forall_rel_of_append_cons_cons] at chain ⊢
  intro a b front behind row
  rcases chain row with rfl | waits | parted
  · exact Or.inr (parted_of_matchAt_eq_none sweeping.spaced.linked row settled)
  · exact Or.inl waits
  · exact Or.inr parted

theorem enter (sweeping : Sweeping accepts s node) (settled : matchAt accepts s node = none)
    (opened : s.containers ≠ []) :
    Swept accepts (if (s.children node).isEmpty then s else s.enter node) := by
  have linked := sweeping.spaced.linked
  split
  next empty =>
    refine ⟨sweeping.toUnderway, fun place => ?_⟩
    by_cases isNode : place = node
    · rw [isNode, List.isEmpty_iff.mp empty]
      exact List.isChain_nil
    · exact sweeping.rows_of_settled settled isNode
  next full =>
    obtain ⟨place, up⟩ : ∃ place, s.parent node = some place := by
      by_contra free
      rw [← Option.ne_none_iff_exists', not_not] at free
      exact full (List.isEmpty_iff.mpr (sweeping.held free))
    obtain ⟨-, inside⟩ := sweeping.above up
    obtain ⟨c, rest, isOpen⟩ := List.exists_cons_of_ne_nil opened
    have innermost : c ∈ s.containers := by rw [isOpen]; exact List.mem_cons_self
    have stacked := sweeping.stacked
    rw [isOpen] at stacked
    have shutNode := sweeping.not_open up up
    refine ⟨⟨sweeping.spaced.of_nodes_eq rfl, ⟨sweeping.tame.plain, sweeping.tame.media⟩, ?_, ?_, ?_⟩,
      fun x => ?_⟩
    · have pushed := stacked.push linked ((inside c innermost).step up) fun same => shutNode (same ▸ innermost)
      rw [← isOpen] at pushed
      exact pushed.of_nodes_eq rfl
    · intro x isOpen waits
      rw [pending_enter, List.mem_append] at waits
      rcases List.mem_cons.mp isOpen with rfl | higher
      · rcases waits with own | waits
        · exact linked.not_under_child (linked.parent_of_mem own) (under_refl s x)
        · exact sweeping.done waits
      · rcases waits with own | waits
        · exact linked.not_under_child (linked.parent_of_mem own) ((inside x higher).step up)
        · exact sweeping.shut x higher waits
    · intro n waits top
      rw [pending_enter, List.mem_append] at waits
      rcases waits with own | waits
      · -- The root hangs in no open container, since these hang in the root.
        obtain rfl : root = node := Option.some.inj (top.symm.trans (linked.parent_of_mem own))
        exact absurd ((inside c innermost).trans (stacked.inside c List.mem_cons_self)) (linked.not_under_child up)
      · exact sweeping.fresh n waits top
    · rw [pending_enter]
      by_cases isNode : x = node
      · rw [List.isChain_iff_forall_rel_of_append_cons_cons]
        intro a b front behind row
        have row : s.children node = front ++ a :: b :: behind := isNode ▸ row
        exact Or.inl (List.mem_append_left _ (by rw [row]; simp))
      · exact (sweeping.rows_of_settled settled isNode).imp fun _ _ clear =>
          clear.imp_left (List.mem_append_right _)

end Sweeping

theorem Swept.walks {rewrites : Nat} (swept : Swept accepts s) (walks : Walks accepts 0 rewrites s s') :
    s'.Tame ∧ ∀ place, (s'.children place).IsChain (Parted accepts s') := by
  induction walks with
  | @closed s closed =>
    have nothing : s.pending = [] := by
      rw [pending, List.length_eq_zero_iff.mp (Nat.le_zero.mp closed)]
      rfl
    refine ⟨swept.tame, fun place => (swept.rows place).imp fun a b clear => ?_⟩
    rw [nothing] at clear
    exact clear.resolve_left List.not_mem_nil
  | leave _ cursors next _ ih => exact ih (swept.leave cursors next)
  | visit _ cursors next settles _ ih =>
    obtain ⟨sweeping, settled, containers⟩ := (swept.take cursors next).settles settles
    exact ih (sweeping.enter settled (by rw [containers]; exact List.cons_ne_nil _ _))

end Nesting

namespace Kind

variable {kind : Kind}

theorem isRule_of_isContainer (block : kind.isContainer) (inner : kind.isRoot = false)
    (plain : kind.atName?.isSome → kind.isContainer = false) : kind.isRule := by
  cases kind with
  | rule selector => rfl
  | atRule name params hasBlock => exact absurd block (by rw [plain rfl]; decide)
  | root => cases inner
  | decl property value important => cases block
  | comment text => cases block

theorem isContainer_of_isDecl_or_isComment (leaf : kind.isDecl ∨ kind.isComment) : kind.isContainer = false := by
  cases kind with
  | decl property value important => rfl
  | comment text => rfl
  | root => rcases leaf with leaf | leaf <;> cases leaf
  | rule selector => rcases leaf with leaf | leaf <;> cases leaf
  | atRule name params hasBlock => rcases leaf with leaf | leaf <;> cases leaf

theorem isRule_of_not_isContainer (leaf : kind.isContainer = false) : kind.isRule = false := by
  cases kind with
  | rule selector => cases leaf
  | root => rfl
  | atRule name params hasBlock => rfl
  | decl property value important => rfl
  | comment text => rfl

end Kind

namespace Sheet

open Nesting

/-- No at-rule at the top of the sheet has a block, rules hold declarations and comments only, and their
selectors have neither commas nor ampersands. -/
structure Shallow (s : Sheet) : Prop where
  top : ∀ id ∈ s.children root, (s.kind id).atName?.isSome → (s.kind id).isContainer = false
  held : ∀ id ∈ s.descendants root, (s.kind id).isRule → ∀ child ∈ s.children id,
    (s.kind child).isDecl ∨ (s.kind child).isComment
  single : ∀ id ∈ s.descendants root, ∀ selector ∈ (s.selector? id).toList, ',' ∉ selector ∧ '&' ∉ selector

instance (s : Sheet) : Decidable s.Shallow :=
  decidable_of_iff
    ((∀ id ∈ s.children root, (s.kind id).atName?.isSome → (s.kind id).isContainer = false) ∧
      (∀ id ∈ s.descendants root, (s.kind id).isRule → ∀ child ∈ s.children id,
        (s.kind child).isDecl ∨ (s.kind child).isComment) ∧
      ∀ id ∈ s.descendants root, ∀ selector ∈ (s.selector? id).toList, ',' ∉ selector ∧ '&' ∉ selector)
    ⟨fun ⟨top, held, single⟩ => ⟨top, held, single⟩, fun shallow => ⟨shallow.top, shallow.held, shallow.single⟩⟩

variable {source : String} {s : Sheet}

theorem under_root_of_parse (parsed : Sheet.parse source = .ok s) {id : NodeId} (stored : id < s.nodes.size) :
    s.Under id root := by
  rw [(laid_of_parse parsed).linked.under_iff_mem_descendants]
  obtain ⟨t, -, rfl⟩ := exists_tree_of_parse parsed
  rw [descendants_ofTree, List.mem_range'_1]
  by_cases isRoot : id = root
  · exact Or.inl isRoot
  · have positive : 0 < id := Nat.pos_of_ne_zero isRoot
    exact Or.inr ⟨positive, Nat.lt_of_lt_of_le stored (by omega)⟩

namespace Shallow

variable (shallow : s.Shallow) (parsed : Sheet.parse source = .ok s)

include shallow parsed

theorem place_cases {place child : NodeId} (listed : child ∈ s.children place) :
    place = root ∨ s.parent place = some root ∧ (s.kind place).isRule ∧ (s.kind child).isContainer = false := by
  have linked := (laid_of_parse parsed).linked
  have under := under_root_of_parse parsed (stored_of_child listed)
  induction under using Relation.ReflTransGen.head_induction_on generalizing child with
  | refl => exact Or.inl rfl
  | @head place parent up above ih =>
    obtain ⟨_, _, _, around⟩ := exists_standing parsed above
    obtain ⟨inner, _, _, _, _, -, standing, -⟩ := around.exists_gap up
    have block := standing.isContainer_of_child listed
    rcases ih (linked.mem_of_parent up) with rfl | ⟨-, -, leaf⟩
    · have isRule := Kind.isRule_of_isContainer block inner (shallow.top place (linked.mem_of_parent up))
      have below := linked.mem_descendants ((under_refl s root).step up)
        (linked.ne_of_under_child up (under_refl s place) (under_refl s root))
      have held := shallow.held place below isRule child listed
      exact Or.inr ⟨up, isRule, Kind.isContainer_of_isDecl_or_isComment held⟩
    · rw [block] at leaf
      cases leaf

theorem tame : s.Tame := by
  have laid := laid_of_parse parsed
  have linked := laid.linked
  constructor
  · intro id parent selector up kind
    rcases shallow.place_cases parsed (linked.mem_of_parent up) with rfl | ⟨-, -, leaf⟩
    · have below := linked.mem_descendants ((under_refl s root).step up)
        (linked.ne_of_under_child up (under_refl s id) (under_refl s root))
      refine shallow.single id below selector ?_
      rw [selector?, kind]
      exact List.mem_singleton_self selector
    · rw [kind] at leaf
      cases leaf
  · intro id isMedia
    rw [List.eq_nil_iff_forall_not_mem]
    intro child listed
    rcases shallow.place_cases parsed listed with rfl | ⟨-, isRule, -⟩
    · rw [laid.root_kind] at isMedia
      cases isMedia
    · generalize s.kind id = kind at isMedia isRule
      cases kind with
      | rule selector => cases isMedia
      | _ => cases isRule

theorem swept (accepts : Text → Bool) : Nesting.Swept accepts (s.enter root) := by
  have laid := laid_of_parse parsed
  have linked := laid.linked
  have tame := shallow.tame parsed
  have waits : (s.enter root).pending = s.children root := by
    obtain ⟨t, -, rfl⟩ := exists_tree_of_parse parsed
    exact List.append_nil _
  have containers : (s.enter root).containers = [root] := by
    obtain ⟨t, -, rfl⟩ := exists_tree_of_parse parsed
    rfl
  have notRule : ∀ {place child}, child ∈ s.children place → place ≠ root → (s.kind child).isRule = false := by
    intro place child listed other
    obtain ⟨-, -, leaf⟩ := (shallow.place_cases parsed listed).resolve_left other
    exact Kind.isRule_of_not_isContainer leaf
  have rootTop : root ∉ s.children root := fun listed =>
    linked.not_under_child (linked.parent_of_mem listed) (under_refl s root)
  refine ⟨⟨laid.toSpaced.of_nodes_eq rfl, ⟨tame.plain, tame.media⟩, ?_, ?_, ?_⟩, fun place => ?_⟩
  · rw [containers]
    refine ⟨fun id listed => ?_, List.pairwise_singleton _ _⟩
    rw [List.mem_singleton.mp listed]
    exact under_refl _ root
  · rw [containers, waits]
    exact fun c isOpen => List.mem_singleton.mp isOpen ▸ rootTop
  · rw [waits]
    intro n listed _ c isChild
    exact notRule isChild fun same => rootTop (same ▸ listed)
  · rw [waits, List.isChain_iff_forall_rel_of_append_cons_cons]
    intro a b front behind row
    have listed : b ∈ s.children place := by
      rw [show s.children place = front ++ a :: b :: behind from row]
      simp
    by_cases top : place = root
    · exact Or.inl (top ▸ listed)
    · exact Or.inr (parted_of_not_isRule (notRule listed top))

end Shallow

end Sheet

namespace Rule

open Nesting

/-- One fixing run is complete on a shallow sheet: afterwards no relation holds between a node and its
sibling before it, in either direction. -/
theorem check_complete {source : String} {s : Sheet} (parsed : Sheet.parse source = .ok s)
    (shallow : s.Shallow) (rule : Rule) (runs : rule.action.runs = true) {session : Session}
    (fixes : session.fix = true) {node prev : NodeId}
    (isPrev : (rule.check (s, session)).1.prev? node = some prev) (relation : Relation) :
    relation.holds rule.filter.accepts (rule.check (s, session)).1 node prev = false ∧
      relation.holds rule.filter.accepts (rule.check (s, session)).1 prev node = false := by
  obtain ⟨rewrites, s', ends, walks, -⟩ := walks_check rule.filter.accepts
    (Sheet.laid_of_parse parsed).toWellFormed fixes
  have closed : s.cursors = [] := by
    obtain ⟨t, -, rfl⟩ := Sheet.exists_tree_of_parse parsed
    rfl
  rw [closed] at walks
  obtain ⟨tame, swept⟩ := (shallow.swept parsed rule.filter.accepts).walks walks
  rw [check, if_pos runs, ends] at isPrev ⊢
  obtain ⟨place, front, behind, -, row⟩ := Sheet.row_of_prev? isPrev
  have parted := List.isChain_iff_forall_rel_of_append_cons_cons.mp (swept place) row
  exact ⟨holds_of_parted tame.quiet parted.symm relation, holds_of_parted tame.quiet parted relation⟩

/-- A rule that takes in two others and then turns into a nesting at-rule, inside which nothing is visited:
what it has taken in ends up side by side. -/
theorem check_complete_unvisited :
    ∃ s, Sheet.parse "a\x7bp:1\x7dx a b\x7b\x7dx a c\x7b\x7dx a\x7bq:2\x7d" = .ok s ∧ s.Shallow ∧
      (({} : Rule).check (s, { fix := true })).1.prev? 3 = some 4 ∧ ∀ relation : Relation,
        relation.holds (Filter.accepts {}) (({} : Rule).check (s, { fix := true })).1 3 4 = false ∧
          relation.holds (Filter.accepts {}) (({} : Rule).check (s, { fix := true })).1 4 3 = false := by
  have accepted : ((Sheet.parse "a\x7bp:1\x7dx a b\x7b\x7dx a c\x7b\x7dx a\x7bq:2\x7d").toOption.any fun s =>
      decide (s.Shallow ∧ (({} : Rule).check (s, { fix := true })).1.prev? 3 = some 4)) = true := by
    decide +kernel
  cases parsed : Sheet.parse "a\x7bp:1\x7dx a b\x7b\x7dx a c\x7b\x7dx a\x7bq:2\x7d" with
  | error e => simp [parsed, Except.toOption] at accepted
  | ok s =>
    rw [parsed, Except.toOption, Option.any_some, decide_eq_true_eq] at accepted
    obtain ⟨shallow, isPrev⟩ := accepted
    exact ⟨s, rfl, shallow, isPrev,
      check_complete parsed shallow {} (by decide) (show Session.fix { fix := true } = true from rfl) isPrev⟩

end Rule

end NestLint
