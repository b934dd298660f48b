import Reckoner.Proofs.Json.Reading
import Reckoner.Proofs.Number.Recovery

/-!
Numbers in documents read back. The reader takes all of a numeral, and nothing of what stands behind
it.
-/

namespace Reckoner.Json.Reader

open Number (Layout digitsOf withSign shownAs inFull)

def Ended (rest : List Char) : Prop :=
  ∀ c ∈ rest.head?, c.isDigit = false ∧ c ∉ ['.', 'e', 'E']

theorem Ended.digit {rest : List Char} (ended : Ended rest) :
    ∀ c ∈ rest.head?, c.isDigit = false :=
  fun c member => (ended c member).1

theorem digits_append {run rest : List Char} (inside : ∀ c ∈ run, c.isDigit = true)
    (stops : ∀ c ∈ rest.head?, c.isDigit = false) : digits (run ++ rest) = some (run, rest) := by
  have cut := Number.takeWhile_digits inside stops
  rw [digits, cut.1, cut.2]

theorem wholePart_append {whole rest : List Char} (inside : ∀ c ∈ whole, c.isDigit = true)
    (leading : whole = ['0'] ∨ ∃ c later, c ≠ '0' ∧ whole = c :: later)
    (stops : ∀ c ∈ rest.head?, c.isDigit = false) :
    wholePart (whole ++ rest) = some (whole, rest) := by
  rcases leading with rfl | ⟨c, later, other, rfl⟩
  · rfl
  · have digit : c.isDigit = true := inside c (by simp)
    rw [List.cons_append, wholePart, if_pos digit, ← List.cons_append, digits_append inside stops]
    rintro rfl
    exact other rfl

theorem mark_of_mem {marks : List Char} {c : Char} (member : c ∈ marks) (rest : List Char) :
    mark marks (c :: rest) = some ([c], rest) := by
  rw [mark, if_pos member]

theorem mark_of_absent {marks rest : List Char} (absent : ∀ c ∈ rest.head?, c ∉ marks) :
    mark marks rest = some ([], rest) := by
  cases rest with
  | nil => rfl
  | cons c rest => rw [mark, if_neg (absent c rfl)]

theorem marked_append {front : Reader (List Char)} {chars marks run rest : List Char}
    (marked : front chars = some (marks, run ++ rest)) (filled : marks ≠ [] ∧ run ≠ [])
    (inside : ∀ c ∈ run, c.isDigit = true) (stops : ∀ c ∈ rest.head?, c.isDigit = false) :
    Reader.marked front chars = some (marks ++ run, rest) := by
  simp [Reader.marked, marked, digits_append inside stops, filled]

theorem marked_of_absent {front : Reader (List Char)} {chars : List Char}
    (absent : front chars = some ([], chars)) : marked front chars = some ([], chars) := by
  simp [marked, absent, digits]

theorem fraction_of_absent {rest : List Char} (absent : ∀ c ∈ rest.head?, c ∉ ['.']) :
    fraction rest = some ([], rest) :=
  marked_of_absent (mark_of_absent absent)

theorem exponent_of_ended {rest : List Char} (ended : Ended rest) :
    exponent rest = some ([], rest) := by
  apply marked_of_absent
  have absent : mark ['e', 'E'] rest = some ([], rest) :=
    mark_of_absent fun c member letter => (ended c member).2 (List.mem_cons_of_mem _ letter)
  rw [power, bind_some absent]
  rfl

theorem power_append_stops (layout : Layout) {rest : List Char} (ended : Ended rest) :
    ∀ c ∈ (layout.power ++ rest).head?, c.isDigit = false ∧ c ∉ ['.'] := by
  rw [Layout.power]
  split
  · rw [List.nil_append]
    intro c member
    obtain ⟨stop, absent⟩ := ended c member
    exact ⟨stop, fun same => absent (List.mem_cons.mpr (.inl (by simpa using same)))⟩
  · simp

theorem point_append_stops (layout : Layout) {rest : List Char} (ended : Ended rest) :
    ∀ c ∈ (layout.point ++ (layout.power ++ rest)).head?, c.isDigit = false := by
  rw [Layout.point]
  split_ifs
  · exact fun c member => (power_append_stops layout ended c member).1
  · simp

theorem fraction_append (layout : Layout) {rest : List Char} (ended : Ended rest) :
    fraction (layout.point ++ (layout.power ++ rest)) =
      some (layout.point, layout.power ++ rest) := by
  have stops := power_append_stops layout ended
  rw [Layout.point]
  split_ifs with empty
  · exact fraction_of_absent fun c member => (stops c member).2
  · exact marked_append (mark_of_mem (by decide) _) ⟨by simp, empty⟩ layout.fraction_digits
      fun c member => (stops c member).1

theorem exponent_append (layout : Layout) {rest : List Char} (ended : Ended rest) :
    exponent (layout.power ++ rest) = some (layout.power, rest) := by
  rw [Layout.power]
  cases layout.exponent with
  | none => exact exponent_of_ended ended
  | some places =>
      have sign : (if places < 0 then '-' else '+') ∈ ['+', '-'] := by
        split_ifs <;> decide
      have letter : mark ['e', 'E'] ('e' :: Number.writeExponent places ++ rest) =
          some (['e'], Number.writeExponent places ++ rest) := mark_of_mem (by decide) _
      have signed : mark ['+', '-'] (Number.writeExponent places ++ rest) =
          some ([if places < 0 then '-' else '+'],
            Number.exponentDigits places.natAbs ++ rest) := mark_of_mem sign _
      have front : power ('e' :: Number.writeExponent places ++ rest) =
          some (['e', if places < 0 then '-' else '+'],
            Number.exponentDigits places.natAbs ++ rest) := by
        rw [power, bind_some letter]
        change (mark ['+', '-'] >>= fun sign => pure (['e'] ++ sign)) _ = _
        rw [bind_some signed]
        rfl
      exact marked_append front ⟨List.cons_ne_nil _ _, Number.exponentDigits_filled _⟩
        (Number.exponentDigits_digits _) ended.digit

theorem mark_append {run : List Char} (inside : ∀ c ∈ run, c.isDigit = true) (filled : run ≠ [])
    (rest : List Char) : mark ['-'] (run ++ rest) = some ([], run ++ rest) := by
  cases run with
  | nil => exact absurd rfl filled
  | cons c later =>
      have other : c ∉ ['-'] := by
        rw [List.mem_singleton]
        rintro rfl
        exact absurd (inside '-' (by simp)) (by decide)
      rw [List.cons_append, mark, if_neg other]

theorem marked_not_empty (layout : Layout) :
    (layout.point.isEmpty && layout.power.isEmpty) = false := by
  rw [Layout.point, Layout.power]
  rcases layout.marked with fraction | exponent
  · simp [fraction]
  · cases same : layout.exponent with
    | none => exact absurd same exponent
    | some power => simp

theorem text_append (layout : Layout) (rest : List Char) : layout.text ++ rest =
    layout.whole ++ (layout.point ++ (layout.power ++ rest)) := by
  simp [Layout.text]

theorem numeral_signed (layout : Layout) {sign rest chars : List Char} {x : Float}
    (ended : Ended rest) (signed : mark ['-'] chars = some (sign, layout.text ++ rest))
    (value : Number.read? (String.ofList (sign ++ layout.text)) = some x) :
    numeral chars = some (.number x, rest) := by
  have whole := wholePart_append layout.whole_digits layout.leading (point_append_stops layout ended)
  have read : Number.read? (String.ofList (sign ++ layout.whole ++ layout.point ++ layout.power)) =
      some x := by
    simpa [Layout.text] using value
  rw [text_append] at signed
  rw [numeral, bind_some signed, bind_some whole, bind_some (fraction_append layout ended),
    bind_some (exponent_append layout ended), marked_not_empty, if_neg (by decide),
    bind_some (lift_some read)]
  rfl

theorem numeral_append (layout : Layout) (negative : Bool) {rest : List Char}
    (ended : Ended rest) :
    numeral ((withSign negative layout.text).toList ++ rest) =
      some (.number (Number.ofBits negative layout.decimal.bits), rest) := by
  have value := Number.read?_text layout negative
  cases negative with
  | true =>
      have text : withSign true layout.text = String.ofList (['-'] ++ layout.text) := rfl
      rw [text] at value ⊢
      rw [String.toList_ofList, List.append_assoc]
      exact numeral_signed layout ended (mark_of_mem (by decide) _) value
  | false =>
      have text : withSign false layout.text = String.ofList ([] ++ layout.text) := rfl
      rw [text] at value ⊢
      rw [String.toList_ofList, List.nil_append, text_append]
      have unsigned := mark_append layout.whole_digits layout.whole_filled
        (layout.point ++ (layout.power ++ rest))
      rw [← text_append] at unsigned ⊢
      exact numeral_signed layout ended unsigned value

theorem numeral_digits {count : Nat} {sign rest chars : List Char} (ended : Ended rest)
    (signed : mark ['-'] chars = some (sign, digitsOf count ++ rest)) :
    numeral chars = some (.whole (if sign.isEmpty then count else -count), rest) := by
  have leading : digitsOf count = ['0'] ∨ ∃ c later, c ≠ '0' ∧ digitsOf count = c :: later := by
    by_cases zero : count = 0
    · subst zero
      exact .inl (Nat.toDigits_zero 10)
    · exact .inr (Number.digitsOf_leading zero)
  have whole := wholePart_append (Number.digitsOf_digits count) leading ended.digit
  have fraction := fraction_of_absent fun c member same =>
    (ended c member).2 (List.mem_cons.mpr (.inl (by simpa using same)))
  rw [numeral, bind_some signed, bind_some whole, bind_some fraction,
    bind_some (exponent_of_ended ended)]
  simp [digitsOf, Nat.ofDigitChars_ten_toDigits]
  rfl

theorem numeral_whole (n : Int) {rest : List Char} (ended : Ended rest) :
    numeral ((toString n).toList ++ rest) = some (.whole n, rest) := by
  cases n with
  | ofNat count =>
      have text : (toString (Int.ofNat count)).toList = digitsOf count := Nat.toList_repr
      have unsigned := mark_append (Number.digitsOf_digits count) Nat.toDigits_ne_nil rest
      rw [text, numeral_digits ended unsigned]
      rfl
  | negSucc less =>
      have text : (toString (Int.negSucc less)).toList = '-' :: digitsOf (less + 1) := by
        change ("-" ++ toString (less + 1)).toList = _
        rw [String.toList_append]
        exact congrArg _ Nat.toList_repr
      rw [text, List.cons_append, numeral_digits ended (mark_of_mem (by decide) _)]
      rfl

theorem expect_eq_none {wanted chars : List Char} (other : ∀ rest, chars ≠ wanted ++ rest) :
    expect wanted chars = none := by
  rw [expect, if_neg]
  rw [List.isPrefixOf_iff_prefix]
  rintro ⟨rest, same⟩
  exact other rest same.symm

theorem named_of_other {name : String} {chars : List Char}
    (other : ∀ rest, chars ≠ name.toList ++ rest) : named name chars = none := by
  simp [named, bind, StateT.bind, expect_eq_none other]

theorem named_append {name : String} {x : Float} (value : Number.read? name = some x)
    (rest : List Char) : named name (name.toList ++ rest) = some (.number x, rest) := by
  rw [named, bind_some (expect_append _ rest), bind_some (lift_some value)]
  rfl

theorem number_of_numeral {chars : List Char} {result : Json × List Char}
    (done : numeral chars = some result) : number chars = some result := by
  have other {name : String} (absent : ∀ rest, numeral (name.toList ++ rest) = none) :
      named name chars = none := by
    apply named_of_other
    rintro rest rfl
    rw [absent] at done
    contradiction
  rw [number, orElse_of_none (other fun _ => rfl), orElse_of_none (other fun _ => rfl),
    orElse_of_none (other fun _ => rfl), done]

theorem number_infinite (negative : Bool) (rest : List Char) :
    number ((withSign negative inFull.infinite.toList).toList ++ rest) =
      some (.number (Number.ofBits negative Number.infinityBits), rest) := by
  have name := named_append (Number.read?_infinite negative) rest
  have undefined : named "NaN" ((withSign negative inFull.infinite.toList).toList ++ rest) =
      none := by
    apply named_of_other
    cases negative <;> simp [withSign, inFull]
  rw [number, orElse_of_none undefined]
  cases negative with
  | true =>
      have unsigned : named "Infinity" ((withSign true inFull.infinite.toList).toList ++ rest) =
          none := by
        apply named_of_other
        simp [withSign, inFull]
      rw [orElse_of_none unsigned]
      exact orElse_of_some name
  | false => exact orElse_of_some name

theorem number_undefined (rest : List Char) :
    number (inFull.undefined.toList ++ rest) = some (.number Number.notANumber, rest) :=
  orElse_of_some (named_append Number.read?_undefined rest)

/-- Every double reads back from its text in a document. -/
theorem number_shownAs (x : Float) {rest : List Char} (ended : Ended rest) :
    number ((shownAs inFull x).toList ++ rest) = some (.number x, rest) := by
  rcases Number.shownAs_cases inFull x with ⟨layout, text, same⟩ | ⟨text, same⟩ | ⟨text, same⟩
  · rw [text, number_of_numeral (numeral_append layout (Number.isNegative x) ended), ← same]
  · rw [text, number_infinite, ← same]
  · rw [text, number_undefined, same]

end Reckoner.Json.Reader
