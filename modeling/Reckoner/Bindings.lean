import Reckoner.Text.Case
import Reckoner.Value

/-!
Variables and their values. Names that differ in case only are the same name. The entries keep
the order in which their names were first bound.
-/

namespace Reckoner

structure Bindings where
  entries : List (String × Value) := []

namespace Bindings

def empty : Bindings := {}

/-- The form under which a name is kept. -/
def key (name : String) : String :=
  Text.lowercase name

def get? (bindings : Bindings) (name : String) : Option Value :=
  bindings.entries.lookup (key name)

def contains (bindings : Bindings) (name : String) : Bool :=
  (bindings.get? name).isSome

def size (bindings : Bindings) : Nat :=
  bindings.entries.length

def setEntry (kept : String) (value : Value) :
    List (String × Value) → List (String × Value)
  | [] => [(kept, value)]
  | (first, old) :: rest =>
      if first = kept then (first, value) :: rest
      else (first, old) :: setEntry kept value rest

def set (bindings : Bindings) (name : String) (value : Value) : Bindings :=
  ⟨setEntry (key name) value bindings.entries⟩

end Bindings

end Reckoner
