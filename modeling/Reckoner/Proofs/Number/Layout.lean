import Reckoner.Number.Writing
import Reckoner.Proofs.Number.Nearest
import Reckoner.Proofs.Number.Numeral

/-!
Decimals as they are written: digits with a point among them, with an exponent behind them, or with
both. What is written for a count of units reads as the bits that the units come from.
-/

namespace Reckoner.Number

structure Layout where
  whole : List Char
  fraction : List Char
  exponent : Option Int
  digits : ∀ c ∈ whole ++ fraction, c.isDigit = true
  leading : whole = ['0'] ∨ ∃ c rest, c ≠ '0' ∧ whole = c :: rest
  marked : fraction ≠ [] ∨ exponent ≠ none

namespace Layout

def point (layout : Layout) : List Char :=
  if layout.fraction = [] then [] else '.' :: layout.fraction

def power (layout : Layout) : List Char :=
  match layout.exponent with
  | none => []
  | some exponent => 'e' :: writeExponent exponent

def text (layout : Layout) : List Char :=
  layout.whole ++ layout.point ++ layout.power

def decimal (layout : Layout) : Decimal :=
  ⟨Nat.ofDigitChars 10 (layout.whole ++ layout.fraction) 0,
    layout.exponent.getD 0 - layout.fraction.length⟩

theorem whole_digits (layout : Layout) : ∀ c ∈ layout.whole, c.isDigit = true :=
  fun c member => layout.digits c (List.mem_append_left _ member)

theorem fraction_digits (layout : Layout) : ∀ c ∈ layout.fraction, c.isDigit = true :=
  fun c member => layout.digits c (List.mem_append_right _ member)

theorem whole_filled (layout : Layout) : layout.whole ≠ [] := by
  rcases layout.leading with zero | ⟨c, rest, -, whole⟩
  · simp [zero]
  · simp [whole]

end Layout

theorem digitsOf_digits (count : Nat) : ∀ c ∈ digitsOf count, c.isDigit = true :=
  fun _ member => Nat.isDigit_of_mem_toDigits (by decide) (by decide) member

theorem exponentDigits_digits (size : Nat) : ∀ c ∈ exponentDigits size, c.isDigit = true := by
  rw [exponentDigits]
  split_ifs
  · simpa using digitsOf_digits size
  · exact digitsOf_digits size

theorem ofDigitChars_exponentDigits (size : Nat) :
    Nat.ofDigitChars 10 (exponentDigits size) 0 = size := by
  rw [exponentDigits]
  split_ifs
  · rw [Nat.ofDigitChars_cons]
    exact Nat.ofDigitChars_ten_toDigits
  · exact Nat.ofDigitChars_ten_toDigits

theorem exponentDigits_filled (size : Nat) : exponentDigits size ≠ [] := by
  rw [exponentDigits]
  split_ifs
  · exact List.cons_ne_nil _ _
  · exact Nat.toDigits_ne_nil

theorem readExponent_writeExponent (exponent : Int) :
    readExponent ('e' :: writeExponent exponent) = some exponent := by
  have filled := exponentDigits_filled exponent.natAbs
  have digits : (exponentDigits exponent.natAbs).all Char.isDigit = true :=
    List.all_eq_true.mpr (exponentDigits_digits _)
  rw [writeExponent, readExponent, if_pos (.inl rfl)]
  by_cases negative : exponent < 0
  · have value : -(exponent.natAbs : Int) = exponent := by omega
    simpa [negative, takeSign, filled, digits, ofDigitChars_exponentDigits] using value
  · have value : (exponent.natAbs : Int) = exponent := by omega
    simpa [negative, takeSign, filled, digits, ofDigitChars_exponentDigits] using value

theorem takeWhile_digits {run rest : List Char} (digits : ∀ c ∈ run, c.isDigit = true)
    (stops : ∀ c ∈ rest.head?, c.isDigit = false) :
    (run ++ rest).takeWhile Char.isDigit = run ∧ (run ++ rest).dropWhile Char.isDigit = rest := by
  rw [List.takeWhile_append_of_pos digits, List.dropWhile_append_of_pos digits]
  cases rest with
  | nil => simp
  | cons c rest => simp [stops c rfl]

theorem power_stops (layout : Layout) : ∀ c ∈ layout.power.head?, c.isDigit = false := by
  rw [Layout.power]
  split <;> simp

theorem takeFraction_point (layout : Layout) :
    takeFraction (layout.point ++ layout.power) = (layout.fraction, layout.power) := by
  have cut := takeWhile_digits layout.fraction_digits (power_stops layout)
  by_cases empty : layout.fraction = []
  · rw [Layout.point, if_pos empty, empty, List.nil_append, Layout.power]
    cases layout.exponent <;> rfl
  · rw [Layout.point, if_neg empty]
    simp only [List.cons_append, takeFraction, cut]

theorem point_stops (layout : Layout) :
    ∀ c ∈ (layout.point ++ layout.power).head?, c.isDigit = false := by
  by_cases empty : layout.fraction = []
  · rw [Layout.point, if_pos empty]
    exact power_stops layout
  · rw [Layout.point, if_neg empty]
    simp

theorem readDecimal_text (layout : Layout) : readDecimal layout.text = some layout.decimal := by
  have cut := takeWhile_digits layout.whole_digits (point_stops layout)
  have exponent : readExponent layout.power = some (layout.exponent.getD 0) := by
    rw [Layout.power]
    cases layout.exponent with
    | none => rfl
    | some exponent => exact readExponent_writeExponent exponent
  have filled := layout.whole_filled
  rw [Layout.text, List.append_assoc, readDecimal]
  simp [cut, takeFraction_point, exponent, filled, Layout.decimal]

def Layout.Shows (layout : Layout) (written : List Char) (d : Decimal) : Prop :=
  layout.text = written ∧ layout.decimal.bits = d.bits

theorem replicate_digits (count : Nat) : ∀ c ∈ List.replicate count '0', c.isDigit = true := by
  intro c member
  rw [List.eq_of_mem_replicate member]
  rfl

section

variable {first : Char} {rest : List Char} (positive : first ≠ '0')
  (digits : ∀ c ∈ first :: rest, c.isDigit = true)

include digits in
theorem shows_behind_zeros (zeros : Nat) :
    ∃ layout : Layout, layout.Shows ('0' :: '.' :: List.replicate zeros '0' ++ first :: rest)
      ⟨Nat.ofDigitChars 10 (first :: rest) 0, -zeros - (first :: rest).length⟩ := by
  refine ⟨⟨['0'], List.replicate zeros '0' ++ first :: rest, none, ?_, .inl rfl, .inl (by simp)⟩,
    ?_, ?_⟩
  · simp only [List.mem_append, List.mem_singleton]
    rintro c (rfl | zero | digit)
    · rfl
    · exact replicate_digits zeros c zero
    · exact digits c digit
  · simp [Layout.text, Layout.point, Layout.power]
  · have value : Nat.ofDigitChars 10 (['0'] ++ (List.replicate zeros '0' ++ first :: rest)) 0 =
        Nat.ofDigitChars 10 (first :: rest) 0 := by
      simp [Nat.ofDigitChars_cons, Nat.ofDigitChars_append]
    have places : (0 : Int) - (List.replicate zeros '0' ++ first :: rest).length =
        -zeros - (first :: rest).length := by
      simp
      omega
    simp only [Layout.decimal, value, Option.getD_none, places]

include positive digits

theorem shows_before_zeros (zeros : Nat) :
    ∃ layout : Layout, layout.Shows
      (first :: rest ++ List.replicate zeros '0' ++ ['.', '0'])
      ⟨Nat.ofDigitChars 10 (first :: rest) 0, zeros⟩ := by
  refine ⟨⟨first :: rest ++ List.replicate zeros '0', ['0'], none, ?_,
    .inr ⟨first, _, positive, rfl⟩, .inl (by simp)⟩, ?_, ?_⟩
  · simp only [List.mem_append, List.mem_singleton]
    rintro c ((digit | zero) | rfl)
    · exact digits c digit
    · exact replicate_digits zeros c zero
    · rfl
  · simp [Layout.text, Layout.point, Layout.power]
  · have value : Nat.ofDigitChars 10 (first :: rest ++ List.replicate zeros '0' ++ ['0']) 0 =
        Nat.ofDigitChars 10 (first :: rest) 0 * 10 ^ (zeros + 1) := by
      rw [List.append_assoc, Nat.ofDigitChars_append, ← List.replicate_succ']
      rw [Nat.ofDigitChars_replicate_zero, Nat.mul_comm]
    simp only [Layout.decimal, value, Option.getD_none, Decimal.bits_mul]
    congr 2
    simp

theorem shows_point_within {front back : List Char}
    (split : first :: rest = first :: front ++ back) (filled : back ≠ []) :
    ∃ layout : Layout, layout.Shows (first :: front ++ '.' :: back)
      ⟨Nat.ofDigitChars 10 (first :: rest) 0, -back.length⟩ := by
  refine ⟨⟨first :: front, back, none, ?_, .inr ⟨first, _, positive, rfl⟩, .inl filled⟩, ?_, ?_⟩
  · rwa [← split]
  · simp [Layout.text, Layout.point, Layout.power, filled]
  · simp [Layout.decimal, split]

theorem shows_scientific (exponent : Int) :
    ∃ layout : Layout, layout.Shows (scientific (first :: rest) exponent)
      ⟨Nat.ofDigitChars 10 (first :: rest) 0, exponent - rest.length⟩ := by
  refine ⟨⟨[first], rest, some exponent, digits, .inr ⟨first, _, positive, rfl⟩,
    .inr (by simp)⟩, ?_, ?_⟩
  · simp [Layout.text, Layout.point, Layout.power, scientific]
  · simp [Layout.decimal]

theorem shows_positional (places : Int) :
    ∃ layout : Layout, layout.Shows (positional (first :: rest) places)
      ⟨Nat.ofDigitChars 10 (first :: rest) 0, places - (first :: rest).length⟩ := by
  rw [positional]
  split_ifs with low short
  · have zeros : places = -((-places).toNat : Int) := by omega
    have shows := shows_behind_zeros digits (-places).toNat
    rwa [← zeros] at shows
  · have zeros : places - (first :: rest).length =
        ((places.toNat - (first :: rest).length : Nat) : Int) := by
      omega
    rw [zeros]
    exact shows_before_zeros positive digits _
  · obtain ⟨before, same⟩ : ∃ before, places.toNat = before + 1 :=
      ⟨places.toNat - 1, by omega⟩
    rw [List.length_cons] at short
    have back : places - (first :: rest).length = -(rest.drop before).length := by
      simp
      omega
    rw [same, List.take_succ_cons, List.drop_succ_cons, back]
    exact shows_point_within positive digits (by simp) (by simp; omega)

theorem shows_layOut (places : Int) :
    ∃ layout : Layout, layout.Shows (layOut (first :: rest) places)
      ⟨Nat.ofDigitChars 10 (first :: rest) 0, places - (first :: rest).length⟩ := by
  rw [layOut]
  split_ifs
  · exact shows_positional positive digits places
  · have behind : places - (first :: rest).length = places - 1 - rest.length := by
      simp
      omega
    rw [behind]
    exact shows_scientific positive digits (places - 1)

end

theorem dropZeros_append (digits : List Char) :
    ∃ zeros, dropZeros digits ++ List.replicate zeros '0' = digits := by
  have zeros : digits.reverse.takeWhile (· = '0') =
      List.replicate (digits.reverse.takeWhile (· = '0')).length '0' :=
    List.eq_replicate_of_mem fun c member => by simpa using List.mem_takeWhile_imp member
  refine ⟨(digits.reverse.takeWhile (· = '0')).length, ?_⟩
  rw [dropZeros, ← List.reverse_replicate, ← zeros, ← List.reverse_append,
    List.takeWhile_append_dropWhile, List.reverse_reverse]

theorem dropZeros_leading {first : Char} (positive : first ≠ '0') (rest : List Char) :
    ∃ kept, dropZeros (first :: rest) = first :: kept := by
  obtain ⟨zeros, whole⟩ := dropZeros_append (first :: rest)
  cases same : dropZeros (first :: rest) with
  | nil =>
      rw [same, List.nil_append] at whole
      have zero : first ∈ List.replicate zeros '0' := whole ▸ List.mem_cons_self
      exact absurd (List.eq_of_mem_replicate zero) positive
  | cons c kept =>
      rw [same, List.cons_append, List.cons.injEq] at whole
      exact ⟨kept, by rw [whole.1]⟩

theorem digitsOf_leading {count : Nat} (positive : count ≠ 0) :
    ∃ first rest, first ≠ '0' ∧ digitsOf count = first :: rest := by
  induction count using Nat.strongRecOn with
  | ind count ih =>
      by_cases small : count < 10
      · refine ⟨Nat.digitChar count, [], ?_, Nat.toDigits_of_lt_base small⟩
        simpa using positive
      · obtain ⟨first, rest, leading, digits⟩ := ih (count / 10) (by omega) (by omega)
        refine ⟨first, rest ++ [Nat.digitChar (count % 10)], leading, ?_⟩
        rw [digitsOf, Nat.toDigits_of_base_le (by decide) (by omega)]
        rw [digitsOf] at digits
        rw [digits, List.cons_append]

theorem bits_dropZeros (d : Decimal) :
    Decimal.bits ⟨Nat.ofDigitChars 10 (dropZeros (digitsOf d.digits)) 0,
      (digitsOf d.digits).length + d.exponent - (dropZeros (digitsOf d.digits)).length⟩ = d.bits := by
  obtain ⟨zeros, whole⟩ := dropZeros_append (digitsOf d.digits)
  have value : Nat.ofDigitChars 10 (dropZeros (digitsOf d.digits)) 0 * 10 ^ zeros = d.digits := by
    calc
      Nat.ofDigitChars 10 (dropZeros (digitsOf d.digits)) 0 * 10 ^ zeros =
          Nat.ofDigitChars 10 (dropZeros (digitsOf d.digits) ++ List.replicate zeros '0') 0 := by
        rw [Nat.ofDigitChars_append, Nat.ofDigitChars_replicate_zero, Nat.mul_comm]
      _ = Nat.ofDigitChars 10 (Nat.toDigits 10 d.digits) 0 := by
        rw [whole, digitsOf]
      _ = d.digits := Nat.ofDigitChars_ten_toDigits
  have length := congrArg List.length whole
  rw [List.length_append, List.length_replicate] at length
  have exponent : ((digitsOf d.digits).length + d.exponent -
      (dropZeros (digitsOf d.digits)).length : Int) = d.exponent + zeros := by
    omega
  rw [exponent, ← Decimal.bits_mul, value]

/-- What is written for a count of units is a layout with the bits that have these units. -/
theorem shows_writeUnits {bits units : Nat} (positive : bits < signBit)
    (finite : unitsOfBits? bits = some units) :
    ∃ layout : Layout, layout.text = writeUnits units ∧ layout.decimal.bits = bits := by
  have back := Decimal.bits_shortest positive finite
  by_cases zero : units = 0
  · rw [writeUnits, if_pos zero]
    refine ⟨⟨['0'], ['0'], none, by simp, .inl rfl, .inl (by simp)⟩, rfl, ?_⟩
    rw [← nearestBits_units positive finite, zero]
    exact (nearestBits_of_small (by simpa using unitsPerOne_pos)).symm
  · have some : (Decimal.shortest units).digits ≠ 0 := by
      intro empty
      rw [Decimal.bits, if_pos empty] at back
      rw [← back] at finite
      exact zero (Option.some.inj finite).symm
    obtain ⟨first, rest, leading, digits⟩ := digitsOf_leading some
    obtain ⟨kept, dropped⟩ := dropZeros_leading leading rest
    rw [← digits] at dropped
    have keptDigits : ∀ c ∈ first :: kept, c.isDigit = true := by
      intro c member
      obtain ⟨zeros, whole⟩ := dropZeros_append (digitsOf (Decimal.shortest units).digits)
      apply digitsOf_digits (Decimal.shortest units).digits
      rw [← whole, dropped]
      exact List.mem_append_left _ member
    obtain ⟨layout, text, same⟩ := shows_layOut leading keptDigits
      ((digitsOf (Decimal.shortest units).digits).length + (Decimal.shortest units).exponent)
    refine ⟨layout, ?_, ?_⟩
    · rw [text, writeUnits, if_neg zero]
      simp only [dropped]
    · rw [same, ← dropped, bits_dropZeros, back]

end Reckoner.Number
