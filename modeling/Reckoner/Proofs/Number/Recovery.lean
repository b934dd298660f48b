import Reckoner.Proofs.Number.Bits
import Reckoner.Proofs.Number.Layout

/-!
Every number reads back from the text that it is written by, the sign of a zero included.
-/

namespace Reckoner.Number

def isPlain (c : Char) : Bool :=
  c.isDigit || c ∈ ['.', 'e', '+', '-']

theorem isPlain_kept {c : Char} (plain : isPlain c = true) :
    plainDigit c = c ∧ isMargin c = false := by
  have marks : ∀ mark ∈ ['.', 'e', '+', '-'], plainDigit mark = mark ∧ isMargin mark = false := by
    simp only [List.forall_mem_cons]
    exact ⟨by decide, by decide, by decide, by decide, by simp⟩
  rcases Bool.or_eq_true_iff.mp plain with digit | mark
  · have inside : Token.isNumberChar c = true := by simp [Token.isNumberChar, digit]
    exact ⟨(numberChar_plain inside).1, (numberChar_plain inside).2.1⟩
  · exact marks c (by simpa using mark)

theorem normalize_of_plain {chars : List Char} (plain : ∀ c ∈ chars, isPlain c = true) :
    normalize (String.ofList chars) = chars :=
  normalize_of_kept fun c member => isPlain_kept (plain c member)

theorem digit_isPlain {c : Char} (digit : c.isDigit = true) : isPlain c = true := by
  rw [isPlain, digit, Bool.true_or]

theorem point_isPlain (layout : Layout) : ∀ c ∈ layout.point, isPlain c = true := by
  rw [Layout.point]
  split_ifs
  · simp
  · simp only [List.mem_cons]
    rintro c (rfl | digit)
    · rfl
    · exact digit_isPlain (layout.fraction_digits c digit)

theorem power_isPlain (layout : Layout) : ∀ c ∈ layout.power, isPlain c = true := by
  rw [Layout.power]
  split
  · simp
  · simp only [writeExponent, List.mem_cons]
    rintro c (rfl | rfl | digit)
    · rfl
    · split_ifs <;> rfl
    · exact digit_isPlain (exponentDigits_digits _ c digit)

theorem text_isPlain (layout : Layout) : ∀ c ∈ layout.text, isPlain c = true := by
  simp only [Layout.text, List.mem_append]
  rintro c ((whole | point) | power)
  · exact digit_isPlain (layout.whole_digits c whole)
  · exact point_isPlain layout c point
  · exact power_isPlain layout c power

theorem takeSign_text (layout : Layout) : takeSign layout.text = (false, layout.text) := by
  cases whole : layout.whole with
  | nil => exact absurd whole layout.whole_filled
  | cons c rest =>
      have digit : c.isDigit = true := layout.whole_digits c (by simp [whole])
      have plus : c ≠ '+' := by
        rintro rfl
        exact absurd digit (by decide)
      have minus : c ≠ '-' := by
        rintro rfl
        exact absurd digit (by decide)
      rw [Layout.text, whole, List.cons_append, List.cons_append, takeSign_of_other plus minus]

theorem read?_withSign {chars : List Char} {decimal : Decimal}
    (plain : ∀ c ∈ chars, isPlain c = true) (unsigned : takeSign chars = (false, chars))
    (read : readDecimal chars = some decimal) (negative : Bool) :
    read? (withSign negative chars) = some (ofBits negative decimal.bits) := by
  have size : readUnsigned chars = some decimal.bits := by
    rw [readUnsigned, read]
  cases negative with
  | true =>
      have signed : ∀ c ∈ '-' :: chars, isPlain c = true := by
        simpa using ⟨rfl, plain⟩
      rw [read?, withSign, if_pos rfl, normalize_of_plain signed, readPlain]
      simp [takeSign, size]
  | false =>
      rw [read?, withSign, if_neg (by decide), normalize_of_plain plain, readPlain]
      simp [unsigned, size]

theorem read?_text (layout : Layout) (negative : Bool) :
    read? (withSign negative layout.text) = some (ofBits negative layout.decimal.bits) :=
  read?_withSign (text_isPlain layout) (takeSign_text layout) (readDecimal_text layout) negative

theorem shownAs_cases (names : Names) (x : Float) :
    (∃ layout : Layout, shownAs names x = withSign (isNegative x) layout.text ∧
      x = ofBits (isNegative x) layout.decimal.bits) ∨
    (shownAs names x = withSign (isNegative x) names.infinite.toList ∧
      x = ofBits (isNegative x) infinityBits) ∨
    (shownAs names x = names.undefined ∧ x = notANumber) := by
  have whole := ofBits_sizeBits x
  rw [shownAs]
  cases finite : units? x with
  | some units =>
      rw [units?_eq] at finite
      obtain ⟨layout, text, bits⟩ := shows_writeUnits (sizeBits_lt x) finite
      exact .inl ⟨layout, by simp only [text], by rw [bits, whole]⟩
  | none =>
      simp only
      rw [writeSpecial]
      rcases special_cases finite with ⟨known, infinite⟩ | ⟨unknown, undefined⟩
      · rw [known, if_neg (by decide), ← infinite]
        exact .inr (.inl ⟨rfl, whole.symm⟩)
      · rw [unknown, if_pos rfl]
        exact .inr (.inr ⟨rfl, undefined⟩)

theorem read?_infinite (negative : Bool) :
    read? (withSign negative inFull.infinite.toList) = some (ofBits negative infinityBits) := by
  cases negative <;> decide +kernel

theorem read?_undefined : read? inFull.undefined = some notANumber := by
  decide +kernel

/-- Every double reads back from its text. -/
theorem read?_shownAs (x : Float) : read? (shownAs inFull x) = some x := by
  rcases shownAs_cases inFull x with ⟨layout, text, same⟩ | ⟨text, same⟩ | ⟨text, same⟩
  · rw [text, read?_text, ← same]
  · rw [text, read?_infinite, ← same]
  · rw [text, read?_undefined, same]

end Reckoner.Number
