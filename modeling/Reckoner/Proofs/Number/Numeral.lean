import Mathlib.Data.List.TakeWhile
import Reckoner.Number.Reading
import Reckoner.Proofs.Text.Classes

/-!
Numerals: digits with at most one point among them. Every numeral reads as the double nearest to
the decimal that it writes, and with a second point digits are no number.
-/

namespace Reckoner.Number

structure Numeral where
  chars : List Char
  inside : ∀ c ∈ chars, Token.isNumberChar c = true
  filled : ∃ c ∈ chars, c.isDigit = true
  points : chars.count '.' ≤ 1

def Numeral.decimal (numeral : Numeral) : Decimal :=
  ⟨Nat.ofDigitChars 10 (numeral.chars.filter Char.isDigit) 0,
    -((numeral.chars.dropWhile Char.isDigit).tail.length : Int)⟩

def Numeral.value (numeral : Numeral) : Float :=
  ofBits false numeral.decimal.bits

theorem digit_or_point {c : Char} (inside : Token.isNumberChar c = true) :
    c.isDigit = true ∨ c = '.' := by
  simpa [Token.isNumberChar] using inside

theorem numberChar_plain {c : Char} (inside : Token.isNumberChar c = true) :
    plainDigit c = c ∧ isMargin c = false ∧ c ≠ '_' ∧ c ≠ '+' ∧ c ≠ '-' := by
  have digits : ∀ code ≤ 57, 48 ≤ code → plainDigit (Char.ofNat code) = Char.ofNat code ∧
      isMargin (Char.ofNat code) = false ∧ Char.ofNat code ≠ '_' ∧ Char.ofNat code ≠ '+' ∧
      Char.ofNat code ≠ '-' := by
    decide
  rcases digit_or_point inside with digit | rfl
  · obtain ⟨low, high⟩ := Char.isDigit_iff_toNat.mp digit
    have plain := digits c.toNat high low
    rwa [Char.ofNat_toNat] at plain
  · decide

theorem stripEnds_of_inside {drop : Char → Bool} {chars : List Char}
    (keep : ∀ c ∈ chars, drop c = false) : Text.stripEnds drop chars = chars := by
  have front (run : List Char) (all : ∀ c ∈ run, drop c = false) : run.dropWhile drop = run := by
    cases run with
    | nil => rfl
    | cons c rest => simp [all c (by simp)]
  rw [Text.stripEnds, front chars keep, front chars.reverse (by simpa using keep),
    List.reverse_reverse]

theorem ungroup_of_plain {chars : List Char} (plain : '_' ∉ chars) (afterDigit : Bool) :
    ungroup afterDigit chars = some chars := by
  induction chars generalizing afterDigit with
  | nil => rfl
  | cons c rest ih =>
      simp only [List.mem_cons, not_or] at plain
      rw [ungroup.eq_4 afterDigit c rest (by grind) (by grind), ih plain.2]
      rfl

theorem normalize_of_kept {chars : List Char}
    (kept : ∀ c ∈ chars, plainDigit c = c ∧ isMargin c = false) :
    normalize (String.ofList chars) = chars := by
  rw [normalize, String.toList_ofList, stripEnds_of_inside fun c member => (kept c member).2]
  exact (List.map_congr_left fun c member => (kept c member).1).trans (List.map_id' _)

theorem takeSign_of_other {c : Char} (plus : c ≠ '+') (minus : c ≠ '-') (rest : List Char) :
    takeSign (c :: rest) = (false, c :: rest) :=
  takeSign.eq_3 (c :: rest) (by grind) (by grind)

theorem takeSign_of_unsigned {chars : List Char} (plus : '+' ∉ chars) (minus : '-' ∉ chars) :
    takeSign chars = (false, chars) := by
  cases chars with
  | nil => rfl
  | cons c rest =>
      simp only [List.mem_cons, not_or] at plus minus
      exact takeSign_of_other (Ne.symm plus.1) (Ne.symm minus.1) rest

theorem point_notMem {run : List Char} (digits : ∀ c ∈ run, c.isDigit = true) : '.' ∉ run :=
  fun member => absurd (digits _ member) (by decide)

theorem digits_or_first_point {chars : List Char}
    (inside : ∀ c ∈ chars, Token.isNumberChar c = true) :
    (∀ c ∈ chars, c.isDigit = true) ∨
      ∃ front behind, chars = front ++ '.' :: behind ∧ ∀ c ∈ front, c.isDigit = true := by
  induction chars with
  | nil => exact .inl (by simp)
  | cons c rest ih =>
      simp only [List.forall_mem_cons] at inside
      rcases digit_or_point inside.1 with digit | rfl
      · rcases ih inside.2 with digits | ⟨front, behind, rfl, digits⟩
        · exact .inl (List.forall_mem_cons.mpr ⟨digit, digits⟩)
        · exact .inr ⟨c :: front, behind, rfl, List.forall_mem_cons.mpr ⟨digit, digits⟩⟩
      · exact .inr ⟨[], rest, rfl, by simp⟩

theorem Numeral.split (numeral : Numeral) :
    ∃ whole fraction, (∀ c ∈ whole ++ fraction, c.isDigit = true) ∧ whole ++ fraction ≠ [] ∧
      (numeral.chars = whole ∧ fraction = [] ∨ numeral.chars = whole ++ '.' :: fraction) := by
  obtain ⟨chars, inside, ⟨d, member, digit⟩, points⟩ := numeral
  rcases digits_or_first_point inside with digits | ⟨whole, fraction, rfl, front⟩
  · exact ⟨chars, [], by simpa using digits, by simpa using List.ne_nil_of_mem member,
      .inl ⟨rfl, rfl⟩⟩
  · -- Behind the first point there is no other one.
    have single : '.' ∉ fraction := by
      simp only [List.count_append, List.count_cons_self] at points
      exact List.count_eq_zero.mp (by omega)
    have later : ∀ c ∈ fraction, c.isDigit = true := by
      intro c member
      rcases digit_or_point (inside c (by simp [member])) with digit | rfl
      · exact digit
      · exact absurd member single
    refine ⟨whole, fraction, List.forall_mem_append.mpr ⟨front, later⟩, ?_, .inr rfl⟩
    rintro empty
    simp only [List.append_eq_nil_iff] at empty
    simp only [empty, List.nil_append, List.mem_singleton] at member
    simp [member] at digit

theorem readDecimal_numeral (numeral : Numeral) :
    readDecimal numeral.chars = some numeral.decimal := by
  obtain ⟨whole, fraction, digits, filled, same⟩ := numeral.split
  have front : ∀ c ∈ whole, c.isDigit = true := fun c member => digits c (by simp [member])
  have behind : ∀ c ∈ fraction, c.isDigit = true := fun c member => digits c (by simp [member])
  rcases same with ⟨same, rfl⟩ | same
  · simp only [List.append_nil] at filled
    simp [readDecimal, Numeral.decimal, same, List.takeWhile_eq_self_iff.mpr front,
      List.dropWhile_eq_nil_iff.mpr front, takeFraction, filled, readExponent,
      List.filter_eq_self.mpr front]
  · simp [readDecimal, Numeral.decimal, same, List.takeWhile_append_of_pos front,
      List.dropWhile_append_of_pos front, takeFraction, List.takeWhile_eq_self_iff.mpr behind,
      List.dropWhile_eq_nil_iff.mpr behind, readExponent, List.filter_eq_self.mpr front,
      List.filter_eq_self.mpr behind]
    simpa using filled

theorem readGrouped?_of_inside {chars : List Char}
    (inside : ∀ c ∈ chars, Token.isNumberChar c = true) :
    readGrouped? (String.ofList chars) = (readUnsigned chars).map (ofBits false) := by
  have plain := fun c member => numberChar_plain (inside c member)
  have normal : normalize (String.ofList chars) = chars :=
    normalize_of_kept fun c member => ⟨(plain c member).1, (plain c member).2.1⟩
  have unsigned : takeSign chars = (false, chars) :=
    takeSign_of_unsigned (fun member => (plain _ member).2.2.2.1 rfl)
      (fun member => (plain _ member).2.2.2.2 rfl)
  have ungrouped := ungroup_of_plain (fun member => (plain _ member).2.2.1 rfl) false
  simp [readGrouped?, normal, ungrouped, readPlain, unsigned]

/-- A numeral reads as the double nearest to the decimal that it writes. -/
theorem readGrouped?_numeral (numeral : Numeral) :
    readGrouped? (String.ofList numeral.chars) = some numeral.value := by
  rw [readGrouped?_of_inside numeral.inside, readUnsigned, readDecimal_numeral, Numeral.value]
  rfl

theorem readDecimal_of_points {chars : List Char}
    (inside : ∀ c ∈ chars, Token.isNumberChar c = true) (points : 2 ≤ chars.count '.') :
    readDecimal chars = none := by
  rcases digits_or_first_point inside with digits | ⟨whole, behind, rfl, front⟩
  · rw [List.count_eq_zero.mpr (point_notMem digits)] at points
    omega
  · rw [List.count_append, List.count_eq_zero.mpr (point_notMem front),
      List.count_cons_self] at points
    have later : ∀ c ∈ behind, Token.isNumberChar c = true :=
      fun c member => inside c (by simp [member])
    rcases digits_or_first_point later with digits | ⟨fraction, rest, rfl, middle⟩
    · rw [List.count_eq_zero.mpr (point_notMem digits)] at points
      omega
    · -- The second point stands where only an exponent may.
      simp [readDecimal, List.takeWhile_append_of_pos front, List.dropWhile_append_of_pos front,
        takeFraction, List.dropWhile_append_of_pos middle, readExponent]

theorem readName_of_point {chars : List Char} (point : '.' ∈ chars) : readName chars = none := by
  have lowered : '.' ∈ (String.ofList (chars.map Char.toLower)).toList := by
    rw [String.toList_ofList]
    exact List.mem_map.mpr ⟨'.', point, by decide⟩
  rw [readName]
  split
  case h_4 => rfl
  all_goals
    rename_i same
    rw [same] at lowered
    exact absurd lowered (by decide)

theorem readGrouped?_of_points {chars : List Char}
    (inside : ∀ c ∈ chars, Token.isNumberChar c = true) (points : 2 ≤ chars.count '.') :
    readGrouped? (String.ofList chars) = none := by
  have point : '.' ∈ chars := List.count_pos_iff.mp (by omega)
  rw [readGrouped?_of_inside inside, readUnsigned, readDecimal_of_points inside points,
    readName_of_point point]
  rfl

end Reckoner.Number
