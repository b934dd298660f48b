import Reckoner.Number.Decimal
import Reckoner.Text.Blank
import Reckoner.Text.Digit

/-!
Numbers in text: an optional sign, then digits with at most one point among them and an optional
exponent, or the name of an infinity or of what is not a number. Blanks around it are dropped,
and digits of every script count by their values.
-/

namespace Reckoner.Number

/-- Blanks that may surround a number: all but the four information separators. -/
def isMargin (c : Char) : Bool :=
  Text.isBlank c && !(0x1C ≤ c.toNat && c.toNat ≤ 0x1F)

def plainDigit (c : Char) : Char :=
  match Text.digitValue? c with
  | some value => Nat.digitChar value
  | none => c

def takeSign : List Char → Bool × List Char
  | '+' :: rest => (false, rest)
  | '-' :: rest => (true, rest)
  | rest => (false, rest)

/-- The exponent after the digits: nothing, or the letter e, a sign and at least one digit. -/
def readExponent : List Char → Option Int
  | [] => some 0
  | mark :: rest =>
      if mark = 'e' ∨ mark = 'E' then
        let (negative, digits) := takeSign rest
        if !digits.isEmpty && digits.all Char.isDigit then
          let size := Nat.ofDigitChars 10 digits 0
          some (if negative then -(size : Int) else size)
        else none
      else none

def takeFraction : List Char → List Char × List Char
  | '.' :: rest => (rest.takeWhile Char.isDigit, rest.dropWhile Char.isDigit)
  | rest => ([], rest)

def readDecimal (chars : List Char) : Option Decimal :=
  let whole := chars.takeWhile Char.isDigit
  let (fraction, rest) := takeFraction (chars.dropWhile Char.isDigit)
  if whole.isEmpty && fraction.isEmpty then none
  else
    (readExponent rest).map fun exponent =>
      ⟨Nat.ofDigitChars 10 (whole ++ fraction) 0, exponent - fraction.length⟩

def readName (chars : List Char) : Option Nat :=
  match String.ofList (chars.map Char.toLower) with
  | "inf" => some infinityBits
  | "infinity" => some infinityBits
  | "nan" => some undefinedBits
  | _ => none

def readUnsigned (chars : List Char) : Option Nat :=
  match readDecimal chars with
  | some decimal => some decimal.bits
  | none => readName chars

def readPlain (chars : List Char) : Option Float :=
  let (negative, rest) := takeSign chars
  (readUnsigned rest).map (ofBits negative)

/-- Margins dropped and digits of all scripts made plain. -/
def normalize (text : String) : List Char :=
  (Text.stripEnds isMargin text.toList).map plainDigit

/-- Takes out the underscores if each stands between two digits. -/
def ungroup (afterDigit : Bool) : List Char → Option (List Char)
  | [] => some []
  | '_' :: next :: rest =>
      if afterDigit && next.isDigit then (ungroup true rest).map (next :: ·) else none
  | '_' :: [] => none
  | c :: rest => (ungroup c.isDigit rest).map (c :: ·)

def read? (text : String) : Option Float :=
  readPlain (normalize text)

/-- Reads a number whose digits may be grouped by single underscores. -/
def readGrouped? (text : String) : Option Float :=
  (ungroup false (normalize text)).bind readPlain

end Reckoner.Number
