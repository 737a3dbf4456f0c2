import NestLint.Sheet.Print
import NestLint.Sheet.Plant

/-!
The text that a tree of labels spells out by itself. A label that carries the whole layout of its
node leaves nothing for the printer to infer, so the printed text is a function of the labels alone:
it does not depend on how the nodes are numbered or on what else the sheet stores.
-/

namespace NestLint

namespace Label

def before (l : Label) : Text := l.raws.before.getD []

def head (l : Label) : Text :=
  match l.kind with
  | .rule selector => selector
  | .atRule name params _ => '@' :: name ++ l.raws.afterName.getD [] ++ params
  | _ => []

def leaf (l : Label) (semicolon : Bool) : Text :=
  match l.kind with
  | .atRule .. => l.head ++ l.raws.between.getD [] ++ Sheet.ending semicolon
  | .decl property value important =>
    property ++ l.raws.between.getD [] ++ value ++
      (if important then l.raws.important.getD [] else []) ++ Sheet.ending semicolon
  | .comment text =>
    '/' :: '*' :: l.raws.left.getD [] ++ text ++ l.raws.right.getD [] ++ ['*', '/']
  | _ => []

def opening (l : Label) : Text := l.head ++ l.raws.between.getD [] ++ ['{']

def around (l : Label) (semicolon : Bool) (body : Text) : Text :=
  match l.kind with
  | .root => body ++ l.raws.after.getD []
  | .rule _ | .atRule _ _ true => l.opening ++ body ++ l.raws.after.getD [] ++ ['}']
  | _ => l.leaf semicolon

/-- The label carries what its node prints around its children and in place of them. -/
def Known (l : Label) : Prop :=
  match l.kind with
  | .root => True
  | .rule _ => l.raws.between.isSome ∧ l.raws.after.isSome
  | .atRule _ _ true => l.raws.afterName.isSome ∧ l.raws.between.isSome ∧ l.raws.after.isSome
  | .atRule _ _ false => l.raws.afterName.isSome
  | .decl _ _ important => l.raws.between.isSome ∧ (important → l.raws.important.isSome)
  | .comment _ => l.raws.left.isSome ∧ l.raws.right.isSome

end Label

namespace Tree

mutual
def written (semicolon : Bool) : Tree Label → Text
  | .node l ts => l.around semicolon (writtenAll (l.raws.semicolon.getD false) ts)
/-- The text of the children of a block; `last` says whether its last statement has a
semicolon. -/
def writtenAll (last : Bool) : List (Tree Label) → Text
  | [] => []
  | t :: ts =>
    t.label.before ++ written (last || ts.any fun later => !later.label.kind.isComment) t ++
      writtenAll last ts
end

def EndInBlock (ts : List (Tree Label)) : Prop :=
  ∀ t ∈ ts.getLast?, t.label.kind.isContainer = true

mutual
def Known : Tree Label → Prop
  | .node l ts => l.Known ∧ (l.raws.semicolon.isSome ∨ EndInBlock ts) ∧ KnownAll ts
def KnownAll : List (Tree Label) → Prop
  | [] => True
  | t :: ts => t.label.raws.before.isSome ∧ Known t ∧ KnownAll ts
end

theorem label_map {α β : Type} (f : α → β) (t : Tree α) : (t.map f).label = f t.label := by
  cases t with
  | node a ts => rfl

theorem any_label_mapAll {α : Type} (f : α → Label) (ts : List (Tree α)) :
    ((mapAll f ts).any fun later => !later.label.kind.isComment) =
      ts.any fun later => !(f later.label).kind.isComment := by
  induction ts with
  | nil => rfl
  | cons t rest ih => rw [mapAll, List.any_cons, List.any_cons, ih, label_map]

theorem written_of_isContainer (semicolon : Bool) (t : Tree Label)
    (block : t.label.kind.isContainer = true) : t.written semicolon = t.written false := by
  cases t with
  | node l ts =>
    simp only [written, Label.around]
    simp only [label] at block
    split
    · rfl
    · rfl
    · rfl
    · next noRoot noRule noBlock =>
      cases kind : l.kind with
      | root => exact absurd kind noRoot
      | rule selector => exact absurd kind (noRule selector)
      | atRule name params hasBlock =>
        cases hasBlock with
        | true => exact absurd kind (noBlock name params)
        | false => simp [kind, Kind.isContainer] at block
      | decl property value important => simp [kind, Kind.isContainer] at block
      | comment text => simp [kind, Kind.isContainer] at block

theorem any_not_isComment_append (last : Bool) (ts us : List (Tree Label)) :
    (last || (ts ++ us).any fun later => !later.label.kind.isComment) =
      ((last || us.any fun later => !later.label.kind.isComment) ||
        ts.any fun later => !later.label.kind.isComment) := by
  rw [List.any_append, Bool.or_assoc, Bool.or_comm (ts.any _)]

theorem writtenAll_append (last : Bool) (ts us : List (Tree Label)) :
    writtenAll last (ts ++ us) =
      writtenAll (last || us.any fun later => !later.label.kind.isComment) ts ++ writtenAll last us := by
  induction ts with
  | nil => rfl
  | cons t ts ih =>
    simp only [List.cons_append, writtenAll, any_not_isComment_append, ih, List.append_assoc]

/-- A child put behind all others turns the last statement before it into one that is followed by
another, unless it is a comment. -/
theorem writtenAll_concat (last : Bool) (ts : List (Tree Label)) (t : Tree Label) :
    writtenAll last (ts ++ [t]) =
      writtenAll (last || !t.label.kind.isComment) ts ++ (t.label.before ++ t.written last) := by
  simp [writtenAll_append, writtenAll]

theorem isComment_of_isContainer {kind : Kind} (block : kind.isContainer = true) :
    kind.isComment = false := by
  cases kind <;> simp_all [Kind.isContainer, Kind.isComment]

theorem writtenAll_of_endInBlock {ts : List (Tree Label)} (block : EndInBlock ts) (flag flag' : Bool) :
    writtenAll flag ts = writtenAll flag' ts := by
  rcases List.eq_nil_or_concat ts with rfl | ⟨front, t, rfl⟩
  · rfl
  · rw [List.concat_eq_append] at block ⊢
    have container := block t List.getLast?_concat
    rw [writtenAll_concat, writtenAll_concat, isComment_of_isContainer container, Bool.not_false,
      Bool.or_true, Bool.or_true, written_of_isContainer flag t container,
      written_of_isContainer flag' t container]

theorem knownAll_concat (ts : List (Tree Label)) (t : Tree Label) (all : KnownAll ts)
    (before : t.label.raws.before.isSome) (known : Known t) : KnownAll (ts ++ [t]) := by
  induction ts with
  | nil => exact ⟨before, known, trivial⟩
  | cons first rest ih => exact ⟨all.1, all.2.1, ih all.2.2⟩

section moved

variable (move : Position → Position)

mutual
theorem written_moved (semicolon : Bool) (t : Tree Label) :
    (t.map (Label.moved move)).written semicolon = t.written semicolon := by
  cases t with
  | node l ts =>
    rw [map, written, written, writtenAll_moved]
    rfl
theorem writtenAll_moved (last : Bool) (ts : List (Tree Label)) :
    writtenAll last (mapAll (Label.moved move) ts) = writtenAll last ts := by
  cases ts with
  | nil => rfl
  | cons t rest =>
    rw [mapAll, writtenAll, writtenAll, written_moved, writtenAll_moved last rest, any_label_mapAll, label_map]
    rfl
end

theorem kinds_moved (t : Tree Label) : (t.map (Label.moved move)).map Label.kind = t.map Label.kind :=
  map_map (Label.moved move) Label.kind t

theorem endInBlock_moved (ts : List (Tree Label)) (block : EndInBlock ts) :
    EndInBlock (mapAll (Label.moved move) ts) := by
  induction ts with
  | nil => exact block
  | cons t rest ih =>
    cases rest with
    | nil =>
      intro last isLast
      cases isLast
      exact (label_map (Label.moved move) t).symm ▸ block t rfl
    | cons next rest =>
      intro last isLast
      exact ih block last isLast

mutual
theorem known_moved (t : Tree Label) (known : t.Known) : (t.map (Label.moved move)).Known := by
  cases t with
  | node l ts =>
    obtain ⟨own, flag, below⟩ := known
    exact ⟨own, flag.imp id (endInBlock_moved move ts), knownAll_moved ts below⟩
theorem knownAll_moved (ts : List (Tree Label)) (known : KnownAll ts) :
    KnownAll (mapAll (Label.moved move) ts) := by
  cases ts with
  | nil => trivial
  | cons t rest =>
    obtain ⟨before, own, later⟩ := known
    refine ⟨?_, known_moved t own, knownAll_moved rest later⟩
    rw [label_map]
    exact before
end

end moved

end Tree

namespace Sheet

theorem beforeOf_eq (s : Sheet) (id : NodeId) (known : (s.label id).raws.before.isSome) :
    s.beforeOf id = (s.label id).before := by
  obtain ⟨before, same⟩ := Option.isSome_iff_exists.mp known
  have own : (s.raws id).before = some before := same
  simp [beforeOf, Label.before, own, same]

theorem printNode_eq (s : Sheet) (id : NodeId) (semicolon : Bool) (body : Text)
    (known : (s.label id).Known) :
    s.printNode id semicolon body = (s.label id).around semicolon body := by
  have kinds : (s.label id).kind = s.kind id := rfl
  have layout : (s.label id).raws = s.raws id := rfl
  unfold Label.Known at known
  cases kind : s.kind id with
  | root => simp only [printNode, Label.around, kinds, kind, layout]
  | rule selector =>
    simp only [kinds, kind, layout] at known
    obtain ⟨between, isBetween⟩ := Option.isSome_iff_exists.mp known.1
    obtain ⟨after, isAfter⟩ := Option.isSome_iff_exists.mp known.2
    simp [printNode, head, openOf, afterOf, Label.around, Label.opening, Label.head, kinds, kind,
      layout, isBetween, isAfter]
  | atRule name params hasBlock =>
    cases hasBlock with
    | true =>
      simp only [kinds, kind, layout] at known
      obtain ⟨afterName, isAfterName⟩ := Option.isSome_iff_exists.mp known.1
      obtain ⟨between, isBetween⟩ := Option.isSome_iff_exists.mp known.2.1
      obtain ⟨after, isAfter⟩ := Option.isSome_iff_exists.mp known.2.2
      simp [printNode, head, openOf, afterOf, Label.around, Label.opening, Label.head, kinds, kind,
        layout, isAfterName, isBetween, isAfter]
    | false =>
      simp only [kinds, kind, layout] at known
      obtain ⟨afterName, isAfterName⟩ := Option.isSome_iff_exists.mp known
      simp [printNode, printLeaf, head, Label.around, Label.leaf, Label.head, kinds, kind, layout,
        isAfterName]
  | decl property value important =>
    simp only [kinds, kind, layout] at known
    obtain ⟨between, isBetween⟩ := Option.isSome_iff_exists.mp known.1
    cases important with
    | false =>
      simp [printNode, printLeaf, colonOf, Label.around, Label.leaf, kinds, kind, layout, isBetween]
    | true =>
      obtain ⟨mark, isMark⟩ := Option.isSome_iff_exists.mp (known.2 rfl)
      simp [printNode, printLeaf, colonOf, Label.around, Label.leaf, kinds, kind, layout, isBetween,
        isMark]
  | comment text =>
    simp only [kinds, kind, layout] at known
    obtain ⟨left, isLeft⟩ := Option.isSome_iff_exists.mp known.1
    obtain ⟨right, isRight⟩ := Option.isSome_iff_exists.mp known.2
    simp [printNode, printLeaf, leftOf, rightOf, Label.around, Label.leaf, kinds, kind, layout,
      isLeft, isRight]

mutual
theorem printTree_eq (s : Sheet) (semicolon : Bool) (t : Tree NodeId)
    (known : (t.map s.label).Known) :
    s.printTree semicolon t = (t.map s.label).written semicolon := by
  cases t with
  | node id ts =>
    obtain ⟨own, flag, below⟩ := known
    rw [printTree, Tree.map, Tree.written, printNode_eq s id semicolon _ own]
    rw [printTrees_eq s _ ts below]
    congr 1
    rcases flag with known | block
    · obtain ⟨last, isLast⟩ := Option.isSome_iff_exists.mp known
      have stored : (s.raws id).semicolon = some last := isLast
      rw [semicolonOf, stored, isLast, Option.getD_some, Option.getD_some]
    · exact Tree.writtenAll_of_endInBlock block _ _
theorem printTrees_eq (s : Sheet) (last : Bool) (ts : List (Tree NodeId))
    (known : Tree.KnownAll (Tree.mapAll s.label ts)) :
    s.printTrees last ts = Tree.writtenAll last (Tree.mapAll s.label ts) := by
  cases ts with
  | nil => rfl
  | cons t rest =>
    obtain ⟨before, own, later⟩ := known
    rw [Tree.label_map] at before
    rw [printTrees, Tree.mapAll, Tree.writtenAll, Tree.any_label_mapAll, Tree.label_map,
      beforeOf_eq s t.label before, printTree_eq s _ t own, printTrees_eq s last rest later]
    rfl
end

end Sheet

end NestLint
