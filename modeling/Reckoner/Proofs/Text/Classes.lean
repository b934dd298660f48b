import Reckoner.Token.Scanner

/-!
The classes of characters keep apart: a blank is no letter, no digit and no part of a symbol, and
names start beyond all digits and quotes.
-/

namespace Reckoner.Text

def codes (ranges : List (Nat × Nat)) : List Nat :=
  ranges.flatMap fun range => List.range' range.1 (range.2 + 1 - range.1)

theorem mem_codes_of_within {ranges : List (Nat × Nat)} {code : Nat}
    (inside : within ranges code = true) : code ∈ codes ranges := by
  induction ranges with
  | nil => simp [within] at inside
  | cons range rest ih =>
      obtain ⟨low, high⟩ := range
      simp only [within] at inside
      split at inside
      · simp at inside
      · simp only [codes, List.flatMap_cons, List.mem_append, List.mem_range'_1]
        split at inside
        · left
          omega
        · right
          exact ih inside

theorem le_of_within {ranges : List (Nat × Nat)} {low high code : Nat}
    (inside : within ((low, high) :: ranges) code = true) : low ≤ code := by
  simp only [within] at inside
  split at inside
  · simp at inside
  · omega

theorem not_letter_of_blank {c : Char} (blank : isBlank c = true) : isLetter c = false := by
  have apart : ∀ code ∈ codes blankRanges, within letterRanges code = false := by decide +kernel
  exact apart c.toNat (mem_codes_of_within blank)

theorem not_digit_of_blank {c : Char} (blank : isBlank c = true) : c.isDigit = false := by
  have apart : ∀ code ∈ codes blankRanges, ¬(48 ≤ code ∧ code ≤ 57) := by decide
  rw [Bool.eq_false_iff]
  intro digit
  exact apart c.toNat (mem_codes_of_within blank) (Char.isDigit_iff_toNat.mp digit)

theorem le_of_letter {c : Char} (letter : isLetter c = true) : 65 ≤ c.toNat :=
  @le_of_within letterRanges.tail 0x41 0x5A c.toNat letter

end Reckoner.Text

namespace Reckoner.Token

open Text

theorem not_nameChar_of_blank {c : Char} (blank : isBlank c = true) : isNameChar c = false := by
  have other : c ≠ '_' := by
    rintro rfl
    exact absurd blank (by decide)
  simp [isNameChar, not_letter_of_blank blank, not_digit_of_blank blank, other]

theorem not_numberChar_of_blank {c : Char} (blank : isBlank c = true) :
    isNumberChar c = false := by
  have other : c ≠ '.' := by
    rintro rfl
    exact absurd blank (by decide)
  simp [isNumberChar, not_digit_of_blank blank, other]

theorem nameChar_of_start {c : Char} (start : isNameStart c = true) : isNameChar c = true := by
  simp only [isNameStart, isNameChar, Bool.or_eq_true] at start ⊢
  exact start.imp .inl id

theorem le_of_nameStart {c : Char} (start : isNameStart c = true) : 65 ≤ c.toNat := by
  simp only [isNameStart, Bool.or_eq_true, decide_eq_true_eq] at start
  rcases start with letter | rfl
  · exact le_of_letter letter
  · decide

end Reckoner.Token
