import NestLint.Proofs.Source.Tidy
import NestLint.Proofs.Source.Words

/-!
Sheets that have been put together, printed and read again. Reading always succeeds. It gives the nodes
back that have been put together, with one exception: the last statement of a block has no semicolon in
the standard layout, so that comments behind it are taken for a part of it. The sheet that is read is
the one that has been printed exactly when no block closes in such a way.
-/

namespace NestLint

namespace Kind

/-- Behind the last statement of the row there are comments, and nothing else. -/
def Dangling (row : List Kind) : Prop :=
  ∃ front statement comments, row = front ++ statement :: comments ∧ statement.isStatement = true ∧
    comments ≠ [] ∧ ∀ c ∈ comments, c.isComment = true

theorem isContainer_of_isStatement {kind : Kind} (statement : kind.isStatement = true) :
    kind.isContainer = false := by
  simp only [isStatement, Bool.and_eq_true, Bool.not_eq_true'] at statement
  exact statement.1

theorem dangling_cons {kind : Kind} {row : List Kind} :
    Dangling (kind :: row) ↔
      (kind.isStatement = true ∧ row ≠ [] ∧ ∀ c ∈ row, c.isComment = true) ∨ Dangling row := by
  constructor
  · rintro ⟨front, statement, comments, whole, isStatement, full, all⟩
    cases front with
    | nil =>
      obtain ⟨rfl, rfl⟩ := List.cons.inj whole
      exact Or.inl ⟨isStatement, full, all⟩
    | cons first front =>
      exact Or.inr ⟨front, statement, comments, (List.cons.inj whole).2, isStatement, full, all⟩
  · rintro (⟨isStatement, full, all⟩ | ⟨front, statement, comments, rfl, later⟩)
    · exact ⟨[], kind, row, rfl, isStatement, full, all⟩
    · exact ⟨kind :: front, statement, comments, rfl, later⟩

theorem not_dangling_nil : ¬ Dangling [] := by
  rintro ⟨front, statement, comments, whole, -⟩
  simp at whole

instance decidableDangling : (row : List Kind) → Decidable (Dangling row)
  | [] => .isFalse not_dangling_nil
  | _ :: row =>
    have := decidableDangling row
    decidable_of_iff _ dangling_cons.symm

end Kind

namespace Tree

mutual
/-- All nodes are of plain words, and only blocks have children. -/
def Worded : Tree Kind → Prop
  | .node kind ts => kind.Worded ∧ (kind.isContainer = false → ts = []) ∧ WordedAll ts
def WordedAll : List (Tree Kind) → Prop
  | [] => True
  | t :: ts => Worded t ∧ WordedAll ts
end

theorem wordedAll_iff {ts : List (Tree Kind)} : WordedAll ts ↔ ∀ t ∈ ts, t.Worded := by
  induction ts with
  | nil => simp [WordedAll]
  | cons t ts ih => rw [WordedAll, ih, List.forall_mem_cons]

mutual
def reread (depth : Nat) : Tree Kind → Tree Kind
  | .node kind ts => .node kind (rereadAll (depth + 1) ts)
/-- The children of a block that are read where some have been printed: a statement that nothing but
comments follow takes them in. -/
def rereadAll (depth : Nat) : List (Tree Kind) → List (Tree Kind)
  | [] => []
  | t :: ts =>
    if t.label.isStatement && ts.all fun later => later.label.isComment then
      [.node (t.label.swallow (standardAll depth ts)) []]
    else reread depth t :: rereadAll depth ts
end

def rereadSheet (t : Tree Kind) : Tree Kind := .node t.label (rereadAll 0 t.children)

/-- Nothing is lost in a row exactly when it does not dangle and nothing is lost in its trees. -/
theorem rereadAll_eq_iff {depth : Nat} {ts : List (Tree Kind)} (worded : WordedAll ts) :
    rereadAll depth ts = ts ↔ ¬ Kind.Dangling (ts.map label) ∧ ∀ t ∈ ts, reread depth t = t := by
  induction ts with
  | nil => simp [rereadAll, Kind.not_dangling_nil]
  | cons t ts ih =>
    obtain ⟨own, later⟩ := worded
    cases t with
    | node kind us =>
      rw [rereadAll, List.map_cons, Kind.dangling_cons, label, List.forall_mem_cons]
      split
      next swallows =>
        rw [Bool.and_eq_true, List.all_eq_true] at swallows
        obtain rfl : us = [] := own.2.1 (Kind.isContainer_of_isStatement swallows.1)
        cases ts with
        | nil => simp [standardAll, Kind.swallow_nil own.1, Kind.not_dangling_nil, reread, rereadAll]
        | cons u ts =>
          have dangles : kind.isStatement = true ∧ (u :: ts).map label ≠ [] ∧
              ∀ c ∈ (u :: ts).map label, c.isComment = true :=
            ⟨swallows.1, by simp, List.forall_mem_map.mpr swallows.2⟩
          constructor
          · intro same
            exact absurd (congrArg List.length same) (by simp)
          · rintro ⟨keeps, -⟩
            exact absurd (Or.inl dangles) keeps
      next keeps =>
        have apart : ¬ (kind.isStatement = true ∧ ts.map label ≠ [] ∧ ∀ c ∈ ts.map label, c.isComment = true) := by
          rintro ⟨statement, -, all⟩
          rw [Bool.and_eq_true, List.all_eq_true] at keeps
          exact keeps ⟨statement, List.forall_mem_map.mp all⟩
        rw [List.cons.injEq, ih later]
        tauto

theorem remarks_standardAll {depth : Nat} {ts : List (Tree Kind)} (worded : WordedAll ts)
    (comments : ∀ t ∈ ts, t.label.isComment = true) : Source.Remarks (standardAll depth ts) := by
  induction ts with
  | nil => exact .nil
  | cons t ts ih =>
    rw [List.forall_mem_cons] at comments
    obtain ⟨own, later⟩ := worded
    cases t with
    | node kind us =>
      cases kind with
      | comment text => exact .cons depth own.1 (ih later comments.2)
      | _ => cases comments.1

end Tree

namespace Source

open NestLint.Tree Text

theorem yields_nil (rest : Text) : Yields rest [] rest := ⟨[], .done rest, assembles_nil⟩

theorem yields_leaf {text rest : Text} {kind : Kind} (reads : Reads text (.leaf kind) rest) :
    Yields text [.node kind []] rest := ⟨_, .single reads, assembles_leaf kind⟩

theorem Yields.append {text middle rest : Text} {trees trees' : List (Tree Kind)}
    (first : Yields text trees middle) (second : Yields middle trees' rest) :
    Yields text (trees ++ trees') rest := by
  obtain ⟨marks, reading, assembles⟩ := first
  obtain ⟨marks', reading', assembles'⟩ := second
  exact ⟨marks ++ marks', reading.trans reading', assembles_append assembles assembles'⟩

theorem yields_block {text middle close rest : Text} {kind : Kind} {trees : List (Tree Kind)}
    (opens : Reads text (.opened kind) middle) (inside : Yields middle trees close)
    (closes : Reads close .closed rest) : Yields text [.node kind trees] rest := by
  obtain ⟨marks, reading, assembles⟩ := inside
  exact ⟨_, .piece opens (reading.trans (.single closes)), assembles_block kind assembles⟩

theorem Yields.of_gap {gap text : Text} {trees : List (Tree Kind)} (all : ∀ c ∈ gap, isGap c = true)
    (yields : Yields (gap ++ text) trees []) : Yields text trees [] := by
  obtain ⟨marks, reading, assembles⟩ := yields
  refine ⟨marks, ?_, assembles⟩
  generalize whole : gap ++ text = full at reading
  cases reading with
  | done =>
    rw [(List.append_eq_nil_iff.mp whole).2]
    exact .done []
  | piece first later =>
    subst whole
    exact .piece ((reads_gap_append all).mp first) later

mutual
theorem yields_standard (t : Tree Kind) (worded : t.Worded) (block : t.label.isContainer = true)
    (depth : Nat) (semicolon : Bool) {gap : Text} (all : ∀ c ∈ gap, isGap c = true) (rest : Text) :
    Yields (gap ++ (t.standard depth semicolon ++ rest)) [t.reread depth] rest := by
  cases t with
  | node kind ts =>
    obtain ⟨own, -, below⟩ := worded
    rw [label] at block
    have opens := fun body => (reads_gap_append all).mpr (reads_standardHead own block body)
    rw [standard, if_pos block, reread]
    cases ts with
    | nil =>
      have whole : kind.standardHead ++ [' '] ++ '{' :: standardAll (depth + 1) [] ++
          (if ([] : List (Tree Kind)).isEmpty then [] else newLine depth) ++ ['}'] ++ rest =
            kind.standardHead ++ [' '] ++ '{' :: ('}' :: rest) := by simp [standardAll]
      rw [whole]
      exact yields_block (opens _) (yields_nil _) fun _ => rfl
    | cons u us =>
      have whole : kind.standardHead ++ [' '] ++ '{' :: standardAll (depth + 1) (u :: us) ++
          (if (u :: us).isEmpty then [] else newLine depth) ++ ['}'] ++ rest =
            kind.standardHead ++ [' '] ++ '{' :: (standardAll (depth + 1) (u :: us) ++
              (newLine depth ++ '}' :: rest)) := by simp
      rw [whole]
      exact yields_block (opens _) (yields_standardAll (u :: us) below (depth + 1)
        (Or.inr ⟨depth, rest, rfl⟩)) (reads_closed (gap_newLine depth) rest)
theorem yields_standardAll (ts : List (Tree Kind)) (worded : WordedAll ts) (depth : Nat) {tail : Text}
    (ends : BlockEnd tail) : Yields (standardAll depth ts ++ tail) (rereadAll depth ts) tail := by
  cases ts with
  | nil => exact yields_nil tail
  | cons t ts =>
    obtain ⟨own, later⟩ := worded
    have behind := yields_standardAll ts later depth ends
    have line := gap_newLine depth
    rw [standardAll, rereadAll]
    cases t with
    | node kind us =>
      rw [label]
      by_cases block : kind.isContainer = true
      · have noStatement : kind.isStatement = false := by simp [Kind.isStatement, block]
        rw [noStatement, Bool.false_and, if_neg Bool.false_ne_true, List.append_assoc, List.append_assoc]
        exact (yields_standard (.node kind us) own block depth _ line _).append behind
      · rw [Bool.not_eq_true] at block
        obtain rfl : us = [] := own.2.1 block
        rw [standard, if_neg (Bool.not_eq_true _ ▸ block)]
        by_cases last : (kind.isStatement && ts.all fun later => later.label.isComment) = true
        · -- No semicolon sets the statement apart: with all that is left of the row it is one piece.
          rw [if_pos last]
          rw [Bool.and_eq_true, List.all_eq_true] at last
          have noOther : (ts.any fun later => !later.label.isComment) = false := by
            simpa using last.2
          have remarks : Remarks (standardAll depth ts) := remarks_standardAll later last.2
          have reads := reads_lastStatement own.1 last.1 remarks ends
          rw [noOther, List.append_assoc, List.append_assoc, ← List.append_assoc (kind.standardLeaf false)]
          exact yields_leaf ((reads_gap_append line).mpr reads)
        · have apart : kind.isComment = true ∨ (ts.any fun later => !later.label.isComment) = true := by
            cases comment : kind.isComment <;> simp_all [Kind.isStatement]
          have reads := reads_standardLeaf own.1 block apart (standardAll depth ts ++ tail)
          rw [if_neg last, List.append_assoc, List.append_assoc]
          exact (yields_leaf ((reads_gap_append line).mpr reads)).append behind
end

theorem parse_standardSheet {ts : List (Tree Kind)} (worded : WordedAll ts) :
    ∃ u, parse (Tree.node .root ts).standardSheet = .ok u ∧
      u.map Label.kind = (Tree.node .root ts).rereadSheet := by
  have yields := yields_standardAll ts worded 0 (Or.inl rfl)
  rw [List.append_nil] at yields
  apply parse_of_yields _ (List.forall_mem_nil _)
  cases ts with
  | nil => exact yields
  | cons t ts =>
    rw [standardAll, List.append_assoc] at yields
    exact yields.of_gap (gap_newLine 0)

end Source

namespace Sheet

namespace Synthesized

variable {s : Sheet} (made : s.Synthesized)

include made

theorem wordedAll_children {id : NodeId} (under : s.Under id root) :
    Tree.WordedAll ((s.children id).map s.kinds) := by
  have linked := made.wellFormed.linked
  induction id using linked.induction_below with
  | step id ih =>
    refine Tree.wordedAll_iff.mpr (List.forall_mem_map.mpr fun child listed => ?_)
    have up := linked.parent_of_mem listed
    have below := under.step up
    have notRoot : child ≠ root := by
      rintro rfl
      exact linked.not_under_child up under
    rw [linked.kinds_eq]
    refine ⟨made.worded (below.stored made.wellFormed.root_stored) notRoot, fun leaf => ?_, ih child listed below⟩
    rw [made.children_eq_nil leaf, List.map_nil]

theorem exists_parse : ∃ s', parse s.css = .ok s' ∧ s'.kinds root = (s.kinds root).rereadSheet := by
  have formed := made.wellFormed
  have top : s.kinds root = .node .root ((s.children root).map s.kinds) := by
    rw [formed.linked.kinds_eq, formed.root_kind]
  obtain ⟨u, read, kinds⟩ := Source.parse_standardSheet (made.wordedAll_children (under_refl s root))
  refine ⟨_, parse_of_tree (t := u) ?_, ?_⟩
  · rw [css, String.toList_ofList, made.nodeCss_eq, top, read]
  · rw [Sheet.kinds, tree_ofTree, Tree.kinds_moved, kinds, top]

theorem rereadAll_children_iff {id : NodeId} (under : s.Under id root) (depth : Nat) :
    Tree.rereadAll depth ((s.children id).map s.kinds) = (s.children id).map s.kinds ↔
      ∀ x, s.Under x id → ¬ Kind.Dangling ((s.children x).map s.kind) := by
  have linked := made.wellFormed.linked
  induction id using linked.induction_below generalizing depth with
  | step id ih =>
    have labels : ((s.children id).map s.kinds).map Tree.label = (s.children id).map s.kind := by
      rw [List.map_map]
      exact List.map_congr_left fun child _ => linked.label_kinds child
    rw [Tree.rereadAll_eq_iff (made.wordedAll_children under), labels, List.forall_mem_map]
    have each : ∀ child ∈ s.children id, (Tree.reread depth (s.kinds child) = s.kinds child ↔
        ∀ x, s.Under x child → ¬ Kind.Dangling ((s.children x).map s.kind)) := by
      intro child listed
      refine Iff.trans ?_ (ih child listed (under.step (linked.parent_of_mem listed)) (depth + 1))
      rw [linked.kinds_eq child, Tree.reread, Tree.node.injEq, and_iff_right rfl]
    constructor
    · rintro ⟨own, below⟩ x within
      rcases Relation.ReflTransGen.cases_tail within with rfl | ⟨child, deeper, up⟩
      · exact own
      · have listed := linked.mem_of_parent up
        exact (each child listed).mp (below child listed) x deeper
    · intro all
      refine ⟨all id (under_refl s id), fun child listed => (each child listed).mpr fun x deeper => ?_⟩
      exact all x (deeper.trans ((under_refl s id).step (linked.parent_of_mem listed)))

/-- The text of a sheet that has been put together from words is read. The nodes that are read are those
that have been put together, of the same kinds and in the same order, exactly when behind the last
statement of no block and of the sheet there are comments only; and where there are, the statement takes
them in. -/
theorem parse_css : ∃ s', parse s.css = .ok s' ∧
    s'.kinds root = (s.kinds root).rereadSheet ∧
    (s'.kinds root = s.kinds root ↔
      ∀ x, s.Under x root → ¬ Kind.Dangling ((s.children x).map s.kind)) := by
  obtain ⟨s', read, kinds⟩ := made.exists_parse
  refine ⟨s', read, kinds, ?_⟩
  have linked := made.wellFormed.linked
  rw [kinds, ← made.rereadAll_children_iff (under_refl s root) 0, linked.kinds_eq, Tree.rereadSheet,
    Tree.node.injEq]
  exact and_iff_right rfl

end Synthesized

/-- A comment, an important declaration and a nested block in a rule, and an at-rule without parameters
behind it. -/
theorem Synthesized.parse_css_nested : ∃ s s' : Sheet, s.Synthesized ∧
    s.css = "a \x7b\n    /* n */\n    b: c !important;\n    @media x \x7b\n        d: e\n    \x7d\n\x7d\n@import" ∧
    Sheet.parse s.css = .ok s' ∧ s'.kinds root = s.kinds root := by
  have made : (((((((Sheet.empty.hang root (.rule ['a'])).hang 1 (.comment ['n'])).hang 1
      (.decl ['b'] ['c'] true)).hang 1 (.atRule "media".toList ['x'] true)).hang 4
      (.decl ['d'] ['e'] false)).hang root (.atRule "import".toList [] false))).Synthesized := by
    refine Synthesized.empty.hang ?_ ?_ ?_ |>.hang ?_ ?_ ?_ |>.hang ?_ ?_ ?_ |>.hang ?_ ?_ ?_
      |>.hang ?_ ?_ ?_ |>.hang ?_ ?_ ?_
    all_goals decide +kernel
  obtain ⟨s', read, -, same⟩ := Synthesized.parse_css made
  refine ⟨_, s', made, by decide +kernel, read, same.mpr fun x under => ?_⟩
  have stored := under.stored made.wellFormed.root_stored
  clear under
  revert x
  decide +kernel

/-- Without a semicolon behind it the declaration takes the comment into its value. -/
theorem Synthesized.parse_css_dangling : ∃ s s' : Sheet, s.Synthesized ∧
    s.css = "a \x7b\n    b: c\n    /* n */\n\x7d" ∧ Sheet.parse s.css = .ok s' ∧
    s.kinds root =
      .node .root [.node (.rule ['a']) [.node (.decl ['b'] ['c'] false) [], .node (.comment ['n']) []]] ∧
    s'.kinds root =
      .node .root [.node (.rule ['a']) [.node (.decl ['b'] "c\n    /* n */".toList false) []]] ∧
    s'.kinds root ≠ s.kinds root := by
  have made : (((Sheet.empty.hang root (.rule ['a'])).hang 1 (.decl ['b'] ['c'] false)).hang 1
      (.comment ['n'])).Synthesized := by
    refine Synthesized.empty.hang ?_ ?_ ?_ |>.hang ?_ ?_ ?_ |>.hang ?_ ?_ ?_
    all_goals decide +kernel
  obtain ⟨s', read, kinds⟩ := made.exists_parse
  have own : (((Sheet.empty.hang root (.rule ['a'])).hang 1 (.decl ['b'] ['c'] false)).hang 1
      (.comment ['n'])).kinds root =
        .node .root [.node (.rule ['a']) [.node (.decl ['b'] ['c'] false) [], .node (.comment ['n']) []]] := rfl
  rw [own] at kinds
  refine ⟨_, s', made, by decide +kernel, read, own, kinds, ?_⟩
  rw [own, kinds]
  exact fun same => absurd (congrArg Tree.size same) (by decide)

end Sheet

end NestLint
