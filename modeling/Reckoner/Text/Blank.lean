import Reckoner.Text.Ranges

/-!
Blanks, and the removal of blanks at the ends of a text.
-/

namespace Reckoner.Text

def blankRanges : List (Nat × Nat) := [
  (0x9, 0xD), (0x1C, 0x20), (0x85, 0x85), (0xA0, 0xA0), (0x1680, 0x1680), (0x2000, 0x200A),
  (0x2028, 0x2029), (0x202F, 0x202F), (0x205F, 0x205F), (0x3000, 0x3000)]

def isBlank (c : Char) : Bool :=
  within blankRanges c.toNat

def stripEnds (drop : Char → Bool) (chars : List Char) : List Char :=
  ((chars.dropWhile drop).reverse.dropWhile drop).reverse

def trim (text : String) : String :=
  String.ofList (stripEnds isBlank text.toList)

def isAllBlank (text : String) : Bool :=
  text.toList.all isBlank

end Reckoner.Text
