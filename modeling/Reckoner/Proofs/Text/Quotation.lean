import Mathlib.Algebra.Order.Ring.Nat
import Mathlib.Data.List.Forall2
import Mathlib.Tactic.SplitIfs
import Reckoner.Text.Quoted

/-!
What a text in quotes looks like. A character stands for itself or behind a backslash, and one that
cannot be shown is given by the hexadecimal digits of its code.
-/

namespace Reckoner.Text

end Reckoner.Text
