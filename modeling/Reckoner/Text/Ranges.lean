/-!
Sets of code points, given as closed ranges in ascending order. The search stops at the first
range that starts beyond the code point, so the low ranges are cheap to ask.
-/

namespace Reckoner.Text

def within : List (Nat × Nat) → Nat → Bool
  | [], _ => false
  | (low, high) :: rest, code =>
      if code < low then false
      else if code ≤ high then true
      else within rest code

end Reckoner.Text
