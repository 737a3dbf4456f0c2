import NestLint.Proofs.Sheet.Beside
import NestLint.Proofs.Sheet.Subtree
import NestLint.Proofs.Source.Spans
import NestLint.Proofs.Text.Slice

/-!
The spans of a sheet that has been read are exact and tile its source. The bytes of a span are the text of
its node, with the semicolon of a statement that has one; what is between the spans of two neighbours, or
between a span and the brace beside it, is the layout that the nodes remember. Lines and columns are those
of the bytes.
-/

namespace NestLint

namespace Label

end Label

namespace Tree

end Tree

namespace Sheet

open Tree

mutual
theorem preorder_shapeWithin (s : Sheet) (fuel : Nat) (base : NodeId) (parent : Option NodeId)
    (t : Tree Label) (planted : s.Planted base parent t) (deep : t.size ≤ fuel) :
    (s.shapeWithin fuel base).preorder = List.range' base t.size := by
  cases t with
  | node l ts =>
    obtain ⟨-, own, below⟩ := planted
    rw [size] at deep
    obtain ⟨rest, rfl⟩ : ∃ rest, fuel = rest + 1 := ⟨fuel - 1, by omega⟩
    have children : s.children base = rootsFrom (base + 1) ts := by rw [Sheet.children, own]
    rw [shapeWithin, preorder, children,
      preorderAll_shapeWithin s rest (base + 1) base ts below (by omega), size, List.range'_succ]
theorem preorderAll_shapeWithin (s : Sheet) (fuel : Nat) (base parent : NodeId) (ts : List (Tree Label))
    (planted : s.PlantedAll base parent ts) (deep : sizeAll ts ≤ fuel) :
    preorderAll ((rootsFrom base ts).map (s.shapeWithin fuel)) = List.range' base (sizeAll ts) := by
  cases ts with
  | nil => rfl
  | cons t later =>
    rw [sizeAll] at deep
    rw [rootsFrom, List.map_cons, preorderAll,
      preorder_shapeWithin s fuel base (some parent) t planted.1 (by omega),
      preorderAll_shapeWithin s fuel (base + t.size) parent later planted.2 (by omega), sizeAll,
      List.range'_append_1]
end

theorem descendants_ofTree (t : Tree Label) :
    (ofTree t).descendants root = List.range' 1 ((ofTree t).nodes.size - 1) := by
  have whole := preorder_shapeWithin (ofTree t) (ofTree t).nodes.size root none t (planted_ofTree t)
    (Nat.le_of_eq (size_ofTree t).symm)
  obtain ⟨n, isSize⟩ : ∃ n, t.size = n + 1 := ⟨t.size - 1, by have := size_pos t; omega⟩
  rw [isSize, List.range'_succ] at whole
  rw [size_ofTree, isSize, Nat.add_sub_cancel, descendants, shape]
  cases read : (ofTree t).shapeWithin (ofTree t).nodes.size root with
  | node id ts =>
    rw [read, preorder] at whole
    exact (List.cons.inj whole).2

/-- The subtree of the node is written in the text between `front` and `back`, and stands there where its
labels say. -/
structure Standing (s : Sheet) (text : Text) (id : NodeId) (front back : Text) (semicolon : Bool) : Prop where
  linked : s.Linked
  whole : text = front ++ (s.tree id).written semicolon ++ back
  placed : (s.tree id).Placed (Position.kept ∘ Position.start.past) front back semicolon
  known : (s.tree id).Known

theorem standing_root {source : String} {s : Sheet} (parsed : Sheet.parse source = .ok s) :
    s.Standing source.toList root [] [] false := by
  have linked := (laid_of_parse parsed).linked
  obtain ⟨t, read, rfl⟩ := exists_tree_of_parse parsed
  obtain ⟨known, spelled⟩ := Source.parse_written read
  refine ⟨linked, ?_, ?_, ?_⟩
  · rw [tree_ofTree, written_moved, spelled]
    simp
  · rw [tree_ofTree]
    exact placed_moved .kept [] [] false t (Source.parse_placed read)
  · rw [tree_ofTree]
    exact known_moved .kept t known

/-- The nodes are written one behind the other in the text between `front` and `back`, each with what
belongs before it, and stand there where their labels say. -/
structure RowStanding (s : Sheet) (text front back : Text) (last : Bool) (ids : List NodeId) : Prop where
  linked : s.Linked
  whole : text = front ++ writtenAll last (ids.map s.tree) ++ back
  placed : PlacedAll (Position.kept ∘ Position.start.past) front back last (ids.map s.tree)
  known : KnownAll (ids.map s.tree)

def startOf (s : Sheet) (id : NodeId) : Nat := ((s.source id).map fun span => span.start.offset).getD 0

def stopOf (s : Sheet) (id : NodeId) : Nat := ((s.source id).map fun span => span.stop.offset).getD 0

def bodyStart (s : Sheet) (id : NodeId) : Nat := s.startOf id + Text.byteSize (s.label id).entry

def gapStart (s : Sheet) (id : NodeId) : Nat :=
  match s.prev? id with
  | some prev => s.stopOf prev
  | none => ((s.parent id).map s.bodyStart).getD 0

/-- The node is a statement, and the next byte behind its text is a semicolon. -/
def terminated (s : Sheet) (text : Text) (id : NodeId) : Bool :=
  let stop := s.startOf id + Text.byteSize (s.nodeCss id)
  (s.kind id).isStatement && text.slice? stop (stop + 1) == some [';']

section standing

variable {s : Sheet} {text front back : Text} {id : NodeId} {semicolon last : Bool} {ids : List NodeId}

theorem knownAll_of_append {ts us : List (Tree Label)} (known : KnownAll (ts ++ us)) : KnownAll us := by
  induction ts with
  | nil => exact known
  | cons t ts ih => exact ih known.2.2

theorem Linked.label_tree (linked : s.Linked) (id : NodeId) : (s.tree id).label = s.label id := by
  rw [linked.tree_eq]
  rfl

namespace RowStanding

theorem drop {first : List NodeId} (row : s.RowStanding text front back last (first ++ ids)) :
    ∃ front', s.RowStanding text front' back last ids := by
  obtain ⟨linked, whole, placed, known⟩ := row
  rw [List.map_append] at whole placed known
  rw [writtenAll_append] at whole
  refine ⟨_, linked, ?_, ((placedAll_append _ _ _ _ _).mp placed).2, knownAll_of_append known⟩
  rw [whole]
  simp only [List.append_assoc]

theorem head (row : s.RowStanding text front back last (id :: ids)) :
    (s.kind id).isRoot = false ∧
      ∃ before back' flag, (s.raws id).before = some before ∧ s.Standing text id (front ++ before) back' flag ∧
        s.RowStanding text (front ++ before ++ (s.tree id).written flag) back last ids ∧
        (ids = [] → back' = back) := by
  obtain ⟨linked, whole, placed, known⟩ := row
  obtain ⟨knownBefore, knownHead, knownLater⟩ := known
  have isLabel := linked.label_tree id
  rw [isLabel] at knownBefore
  obtain ⟨before, isBefore⟩ := Option.isSome_iff_exists.mp knownBefore
  have own : (s.tree id).label.before = before := by rw [isLabel, Label.before, isBefore]; rfl
  rw [List.map_cons, writtenAll, own] at whole
  rw [List.map_cons, PlacedAll, own, isLabel] at placed
  obtain ⟨inner, here, later⟩ := placed
  refine ⟨inner, before, _, _, isBefore, ⟨linked, ?_, here, knownHead⟩, ⟨linked, ?_, later, knownLater⟩, ?_⟩
  · rw [whole]
    simp only [List.append_assoc]
  · rw [whole]
    simp only [List.append_assoc]
  · rintro rfl
    rfl

end RowStanding

theorem Linked.written_block (linked : s.Linked) (block : (s.kind id).isContainer = true) :
    (s.tree id).written semicolon = (s.label id).entry ++
      writtenAll ((s.raws id).semicolon.getD false) ((s.children id).map s.tree) ++ (s.label id).exit := by
  have isBlock : (s.label id).kind.isContainer = true := block
  rw [linked.tree_eq, written, Label.around_eq_append isBlock]
  rfl

namespace Standing

variable (standing : s.Standing text id front back semicolon)

include standing

theorem source_eq : s.source id = some ⟨(Position.start.past front).kept,
    (Position.start.past (front ++ (s.tree id).written semicolon)).kept⟩ := by
  have placed := standing.placed
  rw [standing.linked.tree_eq] at placed ⊢
  exact placed.1

theorem startOf_eq (short : Text.byteSize text < 0x100000000) : s.startOf id = Text.byteSize front := by
  have whole := congrArg Text.byteSize standing.whole
  rw [List.append_assoc, Text.byteSize_append] at whole
  rw [startOf, standing.source_eq, Option.map_some, Option.getD_some]
  exact Position.offset_kept_past (by omega)

theorem stopOf_eq (short : Text.byteSize text < 0x100000000) :
    s.stopOf id = Text.byteSize (front ++ (s.tree id).written semicolon) := by
  have whole := congrArg Text.byteSize standing.whole
  rw [Text.byteSize_append] at whole
  rw [stopOf, standing.source_eq, Option.map_some, Option.getD_some]
  exact Position.offset_kept_past (by omega)

theorem nodeCss_eq : s.nodeCss id = (s.tree id).written false := printTree_eq s false (s.shape id) standing.known

theorem children_of_leaf (leaf : (s.kind id).isContainer = false) : s.children id = [] := by
  have placed := standing.placed
  rw [standing.linked.tree_eq] at placed
  exact List.map_eq_nil_iff.mp (placed.2.2.1 leaf)

theorem row (block : (s.kind id).isContainer = true) :
    s.RowStanding text (front ++ (s.label id).entry) ((s.label id).exit ++ back)
      ((s.raws id).semicolon.getD false) (s.children id) := by
  have placed := standing.placed
  have known := standing.known
  refine ⟨standing.linked, ?_, ?_, ?_⟩
  · rw [standing.whole, standing.linked.written_block block]
    simp only [List.append_assoc]
  · rw [standing.linked.tree_eq] at placed
    exact placed.2.2.2
  · rw [standing.linked.tree_eq] at known
    exact known.2.2

theorem isContainer_of_child {child : NodeId} (listed : child ∈ s.children id) :
    (s.kind id).isContainer = true := by
  by_contra leaf
  rw [standing.children_of_leaf (Bool.eq_false_of_not_eq_true leaf)] at listed
  cases listed

theorem bodyStart_eq (short : Text.byteSize text < 0x100000000) :
    s.bodyStart id = Text.byteSize (front ++ (s.label id).entry) := by
  rw [bodyStart, standing.startOf_eq short, Text.byteSize_append]

end Standing

theorem Standing.exists_gap {parent child : NodeId} (standing : s.Standing text parent front back semicolon)
    (up : s.parent child = some parent) :
    (s.kind child).isRoot = false ∧ ∃ front' before back' flag, (s.raws child).before = some before ∧
      s.Standing text child (front' ++ before) back' flag ∧
      (Text.byteSize text < 0x100000000 → s.gapStart child = Text.byteSize front') := by
  obtain ⟨first, later, isRow, -⟩ := standing.linked.exists_split up
  have row := standing.row (standing.isContainer_of_child (standing.linked.mem_of_parent up))
  rw [isRow] at row
  rcases List.eq_nil_or_concat first with rfl | ⟨earlier, prev, rfl⟩
  · obtain ⟨inner, before, back', flag, isBefore, own, -⟩ := row.head
    refine ⟨inner, _, before, back', flag, isBefore, own, fun short => ?_⟩
    have first : s.prev? child = none := by
      rw [prev?, indexOf?, up, Option.bind_some, Option.bind_some, isRow]
      simp [List.idxOf?_cons]
    rw [gapStart, first, up]
    exact standing.bodyStart_eq short
  · rw [List.concat_eq_append, List.append_assoc, List.singleton_append] at isRow row
    obtain ⟨front', row'⟩ := row.drop
    obtain ⟨-, beforePrev, backPrev, flagPrev, -, ownPrev, rest, -⟩ := row'.head
    obtain ⟨inner, before, back', flag, isBefore, own, -⟩ := rest.head
    refine ⟨inner, _, before, back', flag, isBefore, own, fun short => ?_⟩
    rw [gapStart, standing.linked.prev?_of_row isRow]
    exact ownPrev.stopOf_eq short

theorem exists_standing {source : String} (parsed : Sheet.parse source = .ok s) (under : s.Under id root) :
    ∃ front back semicolon, s.Standing source.toList id front back semicolon := by
  induction under using Relation.ReflTransGen.head_induction_on with
  | refl => exact ⟨_, _, _, standing_root parsed⟩
  | @head child parent up _ ih =>
    obtain ⟨_, _, _, around⟩ := ih
    obtain ⟨-, _, _, _, _, -, standing, -⟩ := around.exists_gap up
    exact ⟨_, _, _, standing⟩

end standing

end Sheet

end NestLint
