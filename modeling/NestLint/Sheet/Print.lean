import NestLint.Sheet.Style

/-!
The text of a sheet. A statement without a block is followed by a semicolon when a sibling other
than a comment comes after it, or when its block says that the last statement has one.
-/

namespace NestLint.Sheet

def head (s : Sheet) (id : NodeId) : Text :=
  match s.kind id with
  | .rule selector => selector
  | .atRule name params _ =>
    let gap :=
      match (s.raws id).afterName with
      | some afterName => afterName
      | none => if params.isEmpty then [] else [' ']
    '@' :: name ++ gap ++ params
  | _ => []

def ending (semicolon : Bool) : Text := if semicolon then [';'] else []

def printLeaf (s : Sheet) (id : NodeId) (semicolon : Bool) : Text :=
  match s.kind id with
  | .atRule .. => s.head id ++ (s.raws id).between.getD [] ++ ending semicolon
  | .decl property value important =>
    property ++ s.colonOf id ++ value ++
      (if important then (s.raws id).important.getD " !important".toList else []) ++
      ending semicolon
  | .comment text => '/' :: '*' :: s.leftOf id ++ text ++ s.rightOf id ++ ['*', '/']
  | _ => []

def printNode (s : Sheet) (id : NodeId) (semicolon : Bool) (body : Text) : Text :=
  match s.kind id with
  | .root => body ++ (s.raws id).after.getD []
  | .rule _ | .atRule _ _ true => s.head id ++ s.openOf id ++ '{' :: body ++ s.afterOf id ++ ['}']
  | _ => s.printLeaf id semicolon

mutual
def printTree (s : Sheet) (semicolon : Bool) : Tree NodeId → Text
  | .node id ts => s.printNode id semicolon (printTrees s (s.semicolonOf id) ts)
/-- The text of the children of a block; `last` says whether its last statement has a
semicolon. -/
def printTrees (s : Sheet) (last : Bool) : List (Tree NodeId) → Text
  | [] => []
  | t :: ts =>
    s.beforeOf t.label ++
      printTree s (last || ts.any fun later => !(s.kind later.label).isComment) t ++
      printTrees s last ts
end

/-- The text of a node and everything below it, without what stands before it. -/
def nodeCss (s : Sheet) (id : NodeId) : Text := s.printTree false (s.shape id)

def css (s : Sheet) : String := String.ofList (s.nodeCss root)

end NestLint.Sheet
