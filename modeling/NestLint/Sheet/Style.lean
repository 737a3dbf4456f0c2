import NestLint.Sheet.Basic

/-!
The layout of nodes that carry none of their own. It is taken from the rest of the tree that the
node hangs in: the first node in document order that knows the layout in question sets the style
for all others, and where no node does there are fixed texts to fall back on.
-/

namespace NestLint.Sheet

/-- The first answer that `pick` gives for a node below the topmost node over `id`. -/
def infer {α : Type} (s : Sheet) (id : NodeId) (pick : NodeId → Option α) : Option α :=
  (s.descendants (s.topmost id)).findSome? pick

def lineBlanks (text : Text) : Text := Text.blanks (Text.dropLastLine text)

/-- What stands before rules: taken from the first node with children that is not the first of the
whole tree. -/
def styleBeforeRule (s : Sheet) (id : NodeId) : Text :=
  let top := s.topmost id
  (s.infer id fun other =>
    if (s.children other).isEmpty then none
    else if s.parent other = some top ∧ s.firstChild top = some other then none
    else (s.raws other).before.map lineBlanks).getD ['\n']

def styleBeforeDecl (s : Sheet) (id : NodeId) : Text :=
  (s.infer id fun other =>
    if (s.kind other).isDecl then (s.raws other).before.map lineBlanks else none).getD
      (s.styleBeforeRule id)

def styleBeforeComment (s : Sheet) (id : NodeId) : Text :=
  (s.infer id fun other =>
    if (s.kind other).isComment then (s.raws other).before.map lineBlanks else none).getD
      (s.styleBeforeDecl id)

def styleBeforeClose (s : Sheet) (id : NodeId) : Text :=
  (s.infer id fun other =>
    if (s.children other).isEmpty then none else (s.raws other).after.map lineBlanks).getD ['\n']

/-- One step of indentation: taken from the first node that is two levels below the topmost. -/
def styleIndent (s : Sheet) (id : NodeId) : Text :=
  let top := s.topmost id
  (s.infer id fun other =>
    match s.parent other with
    | none => none
    | some parent =>
      if parent = top ∨ s.parent parent ≠ some top then none
      else (s.raws other).before.map fun before => Text.blanks (Text.lastLine before)).getD
        "    ".toList

def styleBeforeOpen (s : Sheet) (id : NodeId) : Text :=
  (s.infer id fun other =>
    if (s.kind other).isDecl then none else (s.raws other).between).getD [' ']

def styleColon (s : Sheet) (id : NodeId) : Text :=
  (s.infer id fun other =>
    if (s.kind other).isDecl then
      (s.raws other).between.map fun between => between.filter fun c => Text.isBlank c || c == ':'
    else none).getD [':', ' ']

def styleEmptyBody (s : Sheet) (id : NodeId) : Text :=
  (s.infer id fun other =>
    if (s.kind other).isContainer && (s.children other).isEmpty then (s.raws other).after
    else none).getD []

def styleCommentLeft (s : Sheet) (id : NodeId) : Text :=
  (s.infer id fun other => (s.raws other).left).getD [' ']

def styleCommentRight (s : Sheet) (id : NodeId) : Text :=
  (s.infer id fun other => (s.raws other).right).getD [' ']

/-- Whether the last statement of a block ends with a semicolon: taken from the first block that
closes with a declaration. -/
def styleSemicolon (s : Sheet) (id : NodeId) : Bool :=
  (s.infer id fun other =>
    match s.lastChild other with
    | some last => if (s.kind last).isDecl then (s.raws other).semicolon else none
    | none => none).getD false

/-- Text that goes onto a new line is followed by as many steps of indentation as there are blocks
around the node. -/
def indented (s : Sheet) (id : NodeId) (text : Text) : Text :=
  if text.contains '\n' then text ++ (List.replicate (s.depth id) (s.styleIndent id)).flatten
  else text

def beforeOf (s : Sheet) (id : NodeId) : Text :=
  match (s.raws id).before, s.parent id with
  | some before, _ => before
  | none, none => []
  | none, some parent =>
    if (s.kind parent).isRoot && s.firstChild parent == some id then []
    else
      s.indented id <|
        match s.kind id with
        | .decl .. => s.styleBeforeDecl id
        | .comment _ => s.styleBeforeComment id
        | _ => s.styleBeforeRule id

def afterOf (s : Sheet) (id : NodeId) : Text :=
  match (s.raws id).after, s.parent id with
  | some after, _ => after
  | none, none => if (s.children id).isEmpty then [] else ['\n']
  | none, some _ =>
    if (s.children id).isEmpty then s.styleEmptyBody id
    else s.indented id (s.styleBeforeClose id)

def openOf (s : Sheet) (id : NodeId) : Text :=
  match (s.raws id).between, s.parent id with
  | some between, _ => between
  | none, none => [' ']
  | none, some _ => s.styleBeforeOpen id

def colonOf (s : Sheet) (id : NodeId) : Text :=
  match (s.raws id).between, s.parent id with
  | some between, _ => between
  | none, none => [':', ' ']
  | none, some _ => s.styleColon id

def leftOf (s : Sheet) (id : NodeId) : Text :=
  match (s.raws id).left, s.parent id with
  | some left, _ => left
  | none, none => [' ']
  | none, some _ => s.styleCommentLeft id

def rightOf (s : Sheet) (id : NodeId) : Text :=
  match (s.raws id).right, s.parent id with
  | some right, _ => right
  | none, none => [' ']
  | none, some _ => s.styleCommentRight id

def semicolonOf (s : Sheet) (id : NodeId) : Bool :=
  (s.raws id).semicolon.getD (s.styleSemicolon id)

end NestLint.Sheet
