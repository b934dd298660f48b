import Reckoner.Text.Ascii
import Reckoner.Tree.Basic

/-!
Trees as JSON documents. The record of a tree has the same five fields for every node, and its
document is an object with five keys in the same order.
-/

namespace Reckoner

/-- What a record holds in place of a label. -/
inductive Content where
  | blank
  | text (codes : List CodePoint)
  | truth (b : Bool)
  | number (x : Float)

inductive Record where
  | node (kind : List CodePoint) (value : Content) (line column : Int) (children : List Record)

def Label.content : Label → Content
  | .blank => .blank
  | .text s => .text (Text.codePoints s)
  | .truth b => .truth b
  | .number x => .number x

namespace Tree

mutual

def record : Tree → Record
  | .node kind label place children =>
      .node (Text.codePoints kind.title) label.content place.line place.column
        (recordAll children)

def recordAll : List Tree → List Record
  | [] => []
  | tree :: rest => tree.record :: recordAll rest

end

end Tree

namespace Record

def jsonContent : Content → List Char
  | .blank => "null".toList
  | .text codes => Text.asciiQuoted codes
  | .truth b => if b then "true".toList else "false".toList
  | .number x => (Number.shownAs Number.inFull x).toList

def jsonKey (key : String) : List Char :=
  Text.asciiQuoted (Text.codePoints key) ++ [':', ' ']

def jsonFields (kind : List CodePoint) (value : Content) (line column : Int) : List Char :=
  jsonKey "kind" ++ Text.asciiQuoted kind ++ [',', ' '] ++
  jsonKey "value" ++ jsonContent value ++ [',', ' '] ++
  jsonKey "line" ++ (toString line).toList ++ [',', ' '] ++
  jsonKey "col" ++ (toString column).toList ++ [',', ' ']

mutual

def json : Record → List Char
  | .node kind value line column children =>
      '\x7b' :: jsonFields kind value line column ++ jsonKey "children" ++
        '[' :: jsonAll children ++ [']', '\x7d']

def jsonAll : List Record → List Char
  | [] => []
  | record :: rest => record.json ++ jsonTail rest

def jsonTail : List Record → List Char
  | [] => []
  | record :: rest => ',' :: ' ' :: record.json ++ jsonTail rest

end

mutual

/-- The number of nodes on the longest path from the root. -/
def depth : Record → Nat
  | .node _ _ _ _ children => depthAll children + 1

def depthAll : List Record → Nat
  | [] => 0
  | record :: rest => max record.depth (depthAll rest)

end

def dump? (limit : Nat) (record : Record) : Option String :=
  if record.depth ≤ limit then some (String.ofList record.json) else none

end Record

/-- The document of a line, which is null if the line has no statement. -/
def Tree.dump? (limit : Nat) : Option Tree → Option String
  | none => some "null"
  | some tree => tree.record.dump? limit

end Reckoner
