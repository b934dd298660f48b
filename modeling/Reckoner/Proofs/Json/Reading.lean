import Reckoner.Number.Reading
import Reckoner.Text.Ascii

/-!
What JSON documents say. The dialect has names for the numbers that have no digits, and it tells
whole numbers from those that are written with a point or an exponent. Objects keep the order of their
fields. Two escaped surrogates that make a pair stand for one code point, and any other stands for
itself.
-/

namespace Reckoner

inductive Json where
  | null
  | truth (b : Bool)
  | whole (n : Int)
  | number (x : Float)
  | text (codes : List CodePoint)
  | list (items : List Json)
  | object (fields : List (List CodePoint × Json))

namespace Json

abbrev Reader := StateT (List Char) Option

namespace Reader

def expect (wanted : List Char) : Reader Unit := fun chars =>
  if wanted.isPrefixOf chars then some ((), chars.drop wanted.length) else none

def peek : Reader Char
  | [] => none
  | c :: rest => some (c, c :: rest)

def isSpace (c : Char) : Bool :=
  c = ' ' || c = '\t' || c = '\n' || c = '\r'

def skip : Reader Unit := fun chars =>
  some ((), chars.dropWhile isSpace)

def hexValue? (c : Char) : Option Nat :=
  if c.isDigit then some (c.toNat - 0x30)
  else if 'a' ≤ c ∧ c ≤ 'f' then some (c.toNat - 0x61 + 10)
  else if 'A' ≤ c ∧ c ≤ 'F' then some (c.toNat - 0x41 + 10)
  else none

def unit? (first second third fourth : Char) : Option Nat := do
  let first ← hexValue? first
  let second ← hexValue? second
  let third ← hexValue? third
  let fourth ← hexValue? fourth
  pure (((first * 16 + second) * 16 + third) * 16 + fourth)

def escaped? (c : Char) : Option Nat :=
  [(Text.doubleQuote, 0x22), (Text.backslash, 0x5C), ('/', 0x2F), ('b', 0x8), ('f', 0xC),
    ('n', 0xA), ('r', 0xD), ('t', 0x9)].lookup c

/-- The codes of a text up to its closing quote. Escapes give units of sixteen bits. -/
def units : Reader (List Nat)
  | '\x5c' :: 'u' :: first :: second :: third :: fourth :: rest => do
      let code ← unit? first second third fourth
      let (codes, rest) ← units rest
      pure (code :: codes, rest)
  | '\x5c' :: c :: rest => do
      let code ← escaped? c
      let (codes, rest) ← units rest
      pure (code :: codes, rest)
  | '\x22' :: rest => pure ([], rest)
  | c :: rest =>
      if c.toNat < 0x20 then none else do
        let (codes, rest) ← units rest
        pure (c.toNat :: codes, rest)
  | [] => none

def isHigh (code : Nat) : Bool :=
  0xD800 ≤ code && code < 0xDC00

def isLow (code : Nat) : Bool :=
  0xDC00 ≤ code && code < 0xE000

/-- The code points that some codes stand for, those of pairs of surrogates put together. -/
def joined : List Nat → List CodePoint
  | [] => []
  | [code] => [Text.toCodePoint code]
  | high :: low :: rest =>
      if isHigh high && isLow low then
        Text.toCodePoint (0x10000 + (high - 0xD800) * 0x400 + (low - 0xDC00)) :: joined rest
      else Text.toCodePoint high :: joined (low :: rest)

def quoted : Reader (List CodePoint) := do
  expect [Text.doubleQuote]
  let codes ← units
  pure (joined codes)

def digits : Reader (List Char) := fun chars =>
  some (chars.takeWhile Char.isDigit, chars.dropWhile Char.isDigit)

def wholePart : Reader (List Char)
  | [] => none
  | '0' :: rest => some (['0'], rest)
  | c :: rest => if c.isDigit then digits (c :: rest) else none

def mark (marks : List Char) : Reader (List Char)
  | [] => some ([], [])
  | c :: rest => if c ∈ marks then some ([c], rest) else some ([], c :: rest)

def marked (front : Reader (List Char)) : Reader (List Char) := fun chars => do
  let (marks, rest) ← front chars
  let (digits, rest) ← digits rest
  pure (if marks.isEmpty || digits.isEmpty then ([], chars) else (marks ++ digits, rest))

def fraction : Reader (List Char) :=
  marked (mark ['.'])

def power : Reader (List Char) := do
  let letter ← mark ['e', 'E']
  if letter.isEmpty then pure [] else do
    let sign ← mark ['+', '-']
    pure (letter ++ sign)

def exponent : Reader (List Char) :=
  marked power

def numeral : Reader Json := do
  let sign ← mark ['-']
  let whole ← wholePart
  let fraction ← fraction
  let exponent ← exponent
  if fraction.isEmpty && exponent.isEmpty then
    let size := Nat.ofDigitChars 10 whole 0
    pure (.whole (if sign.isEmpty then size else -size))
  else
    let x ← Number.read? (String.ofList (sign ++ whole ++ fraction ++ exponent))
    pure (.number x)

def named (name : String) : Reader Json := do
  expect name.toList
  let x ← Number.read? name
  pure (.number x)

def number : Reader Json :=
  named "NaN" <|> named "Infinity" <|> named "-Infinity" <|> numeral

def word (word : String) (value : Json) : Reader Json := do
  expect word.toList
  pure value

section

variable {α : Type} (closing : Char) (item : Reader α)

def further : Nat → Reader (List α)
  | 0 => failure
  | count + 1 => do
      skip
      if (← peek) = closing then
        expect [closing]
        pure []
      else
        expect [',']
        skip
        let first ← item
        let rest ← further count
        pure (first :: rest)

def block (opening : Char) : Reader (List α) := do
  expect [opening]
  skip
  if (← peek) = closing then
    expect [closing]
    pure []
  else
    let first ← item
    let count := (← get).length
    let rest ← further closing item count
    pure (first :: rest)

end

def field (value : Reader Json) : Reader (List CodePoint × Json) := do
  let key ← quoted
  skip
  expect [':']
  skip
  let content ← value
  pure (key, content)

/-- A value with at most so many others around each other in it. -/
def value : Nat → Reader Json
  | 0 => failure
  | depth + 1 => do
      match ← peek with
      | '\x22' => .text <$> quoted
      | '\x7b' => .object <$> block '\x7d' (field (value depth)) '\x7b'
      | '[' => .list <$> block ']' (value depth) '['
      | 'n' => word "null" .null
      | 't' => word "true" (.truth true)
      | 'f' => word "false" (.truth false)
      | _ => number

end Reader

/-- A single value with spaces around it. No document is nested deeper than it is long. -/
def decode (source : String) : Option Json := do
  let (_, rest) ← Reader.skip source.toList
  let (result, rest) ← Reader.value rest.length rest
  let (_, rest) ← Reader.skip rest
  if rest.isEmpty then some result else none

namespace Reader

variable {α β : Type} {chars rest : List Char}

theorem bind_some {first : Reader α} {next : α → Reader β} {result : α}
    (done : first chars = some (result, rest)) : (first >>= next) chars = next result rest := by
  simp [bind, StateT.bind, done]

theorem lift_some {source : Option α} {result : α} (done : source = some result) :
    (liftM source : Reader α) chars = some (result, chars) := by
  subst done
  rfl

theorem map_some {first : Reader α} {apply : α → β} {result : α}
    (done : first chars = some (result, rest)) :
    (apply <$> first) chars = some (apply result, rest) := by
  simp [Functor.map, StateT.map, done]

theorem orElse_of_none {first second : Reader α} (fails : first chars = none) :
    (first <|> second) chars = second chars := by
  simp [HOrElse.hOrElse, OrElse.orElse, Alternative.orElse, StateT.orElse, fails]

theorem orElse_of_some {first second : Reader α} {result : α}
    (done : first chars = some (result, rest)) : (first <|> second) chars = some (result, rest) := by
  simp [HOrElse.hOrElse, OrElse.orElse, Alternative.orElse, StateT.orElse, done]

theorem expect_append (wanted rest : List Char) :
    expect wanted (wanted ++ rest) = some ((), rest) := by
  simp [expect]

theorem expect_cons (c : Char) (rest : List Char) : expect [c] (c :: rest) = some ((), rest) :=
  expect_append [c] rest

theorem peek_cons (c : Char) (rest : List Char) : peek (c :: rest) = some (c, c :: rest) := rfl

theorem skip_of_clear {c : Char} (clear : isSpace c = false) (rest : List Char) :
    skip (c :: rest) = some ((), c :: rest) := by
  rw [skip, List.dropWhile_cons_of_neg (by simp [clear])]

end Reader

end Json

end Reckoner
