import Reckoner.Text.Quoted

/-!
Texts inside a JSON document, written in plain ASCII. A text is a run of code points, among which
there may be surrogates. A code point beyond ASCII is written by its sixteen-bit units, two of them
if it lies beyond the first plane.
-/

namespace Reckoner

abbrev CodePoint := Fin 0x110000

namespace Text

def toCodePoint (number : Nat) : CodePoint :=
  Fin.ofNat 0x110000 number

def codePoint (c : Char) : CodePoint :=
  toCodePoint c.toNat

def codePoints (text : String) : List CodePoint :=
  text.toList.map codePoint

def unitEscape (unit : Nat) : List Char :=
  backslash :: 'u' :: hexDigits 4 unit

def unitsOf (code : Nat) : List Nat :=
  if code < 0x10000 then [code]
  else [0xD800 + (code - 0x10000) / 0x400, 0xDC00 + (code - 0x10000) % 0x400]

def asciiCode (code : CodePoint) : List Char :=
  let c := Char.ofNat code
  if c = doubleQuote ∨ c = backslash then [backslash, c]
  else if c = '\n' then [backslash, 'n']
  else if c = '\r' then [backslash, 'r']
  else if c = '\t' then [backslash, 't']
  else if c = '\x08' then [backslash, 'b']
  else if c = '\x0c' then [backslash, 'f']
  else if 0x20 ≤ code.val ∧ code.val < 0x7F then [c]
  else (unitsOf code).flatMap unitEscape

def asciiQuoted (codes : List CodePoint) : List Char :=
  doubleQuote :: codes.flatMap asciiCode ++ [doubleQuote]

end Text

end Reckoner
