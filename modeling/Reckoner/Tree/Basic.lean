import Reckoner.Number.Writing
import Reckoner.Operator
import Reckoner.Place
import Reckoner.Text.Quoted

/-!
Statement trees. A node has a kind, a label, the place of the token that introduced it, and its
children. Nodes of any shape can be built; the parser builds those that the kinds ask for.
-/

namespace Reckoner

inductive NodeKind where
  | number
  | text
  | truth
  | name
  | unary
  | binary
  | call
  | assign
  | other (title : String)
  deriving DecidableEq, Repr

namespace NodeKind

def titles : List (NodeKind × String) := [
  (.number, "number"), (.text, "string"), (.truth, "boolean"), (.name, "variable"),
  (.unary, "unary"), (.binary, "binary"), (.call, "call"), (.assign, "assign")]

def title : NodeKind → String
  | .other title => title
  | kind => (titles.lookup kind).getD ""

/-- The kind with a given title; titles that no kind has make kinds of their own. -/
def ofTitle (title : String) : NodeKind :=
  match titles.find? (·.2 = title) with
  | some (kind, _) => kind
  | none => .other title

def isKnown : NodeKind → Bool
  | .other _ => false
  | _ => true

end NodeKind

inductive Label where
  | blank
  | text (s : String)
  | truth (b : Bool)
  | number (x : Float)

namespace Label

def spelled : Label → String
  | .blank => "None"
  | .text s => s
  | .truth b => if b then "True" else "False"
  | .number x => Number.shown x

def shown : Label → String
  | .text s => Text.quoted s
  | label => label.spelled

def isTrue : Label → Bool
  | .blank => false
  | .text s => s ≠ ""
  | .truth b => b
  | .number x => x != Number.ofNat 0

def same : Label → Label → Bool
  | .blank, .blank => true
  | .text s, .text t => s = t
  | .truth b, .truth c => b = c
  | .number x, .number y => x == y
  | _, _ => false

end Label

inductive Tree where
  | node (kind : NodeKind) (label : Label) (place : Place) (children : List Tree)

namespace Tree

def kind : Tree → NodeKind
  | .node kind _ _ _ => kind

def label : Tree → Label
  | .node _ label _ _ => label

def place : Tree → Place
  | .node _ _ place _ => place

def children : Tree → List Tree
  | .node _ _ _ children => children

mutual

/-- Equality of kind, label, place and children. -/
def same : Tree → Tree → Bool
  | .node kind label place children, .node kind' label' place' children' =>
      kind = kind' && label.same label' && place = place' && sameAll children children'

def sameAll : List Tree → List Tree → Bool
  | [], [] => true
  | tree :: rest, tree' :: rest' => tree.same tree' && sameAll rest rest'
  | _, _ => false

end

end Tree

end Reckoner
