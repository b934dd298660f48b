import Reckoner.Tree.Basic

/-!
The outline of a tree: kinds, labels and at most three children of every node.
-/

namespace Reckoner.Tree

def outlineLimit : Nat := 3

def outlineLabel : Label → String
  | .blank => ""
  | label => ", value=" ++ label.shown

def outlineChildren (shown : List String) : String :=
  if shown.isEmpty then "" else ", children=[" ++ ", ".intercalate shown ++ "]"

mutual

def outline : Tree → String
  | .node kind label _ children =>
      "ASTNode(" ++ kind.title ++ outlineLabel label ++
        outlineChildren (outlineFirst outlineLimit children) ++ ")"

/-- The outlines of the first trees of a list, and a mark if there are more. -/
def outlineFirst : Nat → List Tree → List String
  | _, [] => []
  | 0, _ :: _ => ["..."]
  | count + 1, tree :: rest => tree.outline :: outlineFirst count rest

end

end Reckoner.Tree
