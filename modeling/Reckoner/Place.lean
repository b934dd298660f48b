/-!
Places in a text: a line and a column, both counted from one.
-/

namespace Reckoner

structure Place where
  line : Int
  column : Int
  deriving DecidableEq, Repr

namespace Place

def start : Place := ⟨1, 1⟩

/-- The place of what no text holds. -/
def nowhere : Place := ⟨0, 0⟩

def next (place : Place) (c : Char) : Place :=
  if c = '\n' then ⟨place.line + 1, 1⟩ else ⟨place.line, place.column + 1⟩

/-- The place behind a run of characters that starts here. -/
def passing (place : Place) (chars : List Char) : Place :=
  chars.foldl next place

def described (place : Place) : String :=
  "line " ++ toString place.line ++ ", col " ++ toString place.column

end Place

end Reckoner
