import Reckoner.Proofs.Number.Nearest

/-!
Seventeen digits suffice. A grid of decimals is fine enough for a double if a number near the double
on that grid is nearer to it than half its distance to the next double. This holds at the latest for
the grid of the seventeenth digit, so that the shortest decimal is always found on one of the grids.
-/

namespace Reckoner.Number

theorem ten_pow_le {count : Nat} (filled : count ≠ 0) :
    10 ^ ((Nat.toDigits 10 count).length - 1) ≤ count := by
  induction count using Nat.strongRecOn with
  | ind count ih =>
      by_cases small : count < 10
      · rw [Nat.toDigits_of_lt_base small]
        exact Nat.one_le_iff_ne_zero.mpr filled
      · have front := ih (count / 10) (by omega) (by omega)
        have some : 0 < (Nat.toDigits 10 (count / 10)).length :=
          List.length_pos_iff.mpr Nat.toDigits_ne_nil
        rw [Nat.toDigits_of_base_le (by decide) (by omega), List.length_append,
          List.length_singleton, Nat.add_sub_cancel]
        obtain ⟨fewer, same⟩ : ∃ fewer, (Nat.toDigits 10 (count / 10)).length = fewer + 1 :=
          Nat.exists_eq_succ_of_ne_zero some.ne'
        rw [same] at front ⊢
        rw [Nat.add_sub_cancel] at front
        rw [Nat.pow_succ]
        omega

namespace Decimal

theorem magnitude_eq {zeros : Nat} (many : zeros = 400) (units : Nat) :
    magnitude units = (Nat.toDigits 10 (units * 10 ^ zeros / unitsPerOne)).length - zeros := by
  have places : (400 : Int) = zeros := by omega
  rw [magnitude, places, ← many]
  rfl

theorem unitsPerOne_le {zeros : Nat} (many : zeros = 400) : unitsPerOne ≤ 10 ^ zeros := by
  obtain ⟨places, same, power⟩ := unitsPerOne_two_pow
  rw [power]
  exact (Nat.pow_le_pow_right (by decide) (by omega)).trans (two_pow_le_ten_pow zeros)

theorem fine_seventeenth {units : Nat} (filled : units ≠ 0) :
    unitsPerOne * 10 ^ (magnitude units - 17).toNat * 10 ^ 16 ≤
      units * 10 ^ (-(magnitude units - 17)).toNat := by
  obtain ⟨zeros, many⟩ : ∃ zeros, zeros = 400 := ⟨400, rfl⟩
  rw [magnitude_eq many]
  have large : unitsPerOne ≤ units * 10 ^ zeros :=
    (unitsPerOne_le many).trans (Nat.le_mul_of_pos_left _ (Nat.pos_of_ne_zero filled))
  have first := ten_pow_le (Nat.div_pos large unitsPerOne_pos).ne'
  have some : 0 < (Nat.toDigits 10 (units * 10 ^ zeros / unitsPerOne)).length :=
    List.length_pos_iff.mpr Nat.toDigits_ne_nil
  generalize (Nat.toDigits 10 (units * 10 ^ zeros / unitsPerOne)).length = length at first some ⊢
  rw [Nat.le_div_iff_mul_le unitsPerOne_pos] at first
  obtain ⟨fewer, rfl⟩ : ∃ fewer, length = fewer + 1 := Nat.exists_eq_succ_of_ne_zero some.ne'
  rw [Nat.add_sub_cancel] at first
  have places : (((fewer + 1 : Nat) : Int) - zeros - 17).toNat + 16 + (zeros + 1) =
      fewer + ((-(((fewer + 1 : Nat) : Int) - zeros - 17)).toNat + 1) := by
    omega
  generalize (((fewer + 1 : Nat) : Int) - zeros - 17).toNat = up at places ⊢
  generalize (-(((fewer + 1 : Nat) : Int) - zeros - 17)).toNat = down at places ⊢
  apply Nat.le_of_mul_le_mul_right _ (Nat.pow_pos (show 0 < 10 by decide) : 0 < 10 ^ (zeros + 1))
  calc
    unitsPerOne * 10 ^ up * 10 ^ 16 * 10 ^ (zeros + 1) =
        unitsPerOne * 10 ^ (up + 16 + (zeros + 1)) := by
      rw [Nat.pow_add 10 (up + 16), Nat.pow_add 10 up, ← Nat.mul_assoc, ← Nat.mul_assoc]
    _ = 10 ^ fewer * unitsPerOne * 10 ^ (down + 1) := by
      rw [places, Nat.pow_add, Nat.mul_comm (10 ^ fewer) unitsPerOne, Nat.mul_assoc]
    _ ≤ units * 10 ^ zeros * 10 ^ (down + 1) := Nat.mul_le_mul_right _ first
    _ = units * 10 ^ down * 10 ^ (zeros + 1) := by
      rw [Nat.pow_succ, Nat.pow_succ]
      ring

theorem neighbours_nearest (units : Nat) (exponent : Int) :
    ∃ other, neighbours units exponent =
      [⟨halfEven (units * 10 ^ (-exponent).toNat) (unitsPerOne * 10 ^ exponent.toNat), exponent⟩,
        other] := by
  simp only [neighbours, Nat.pow_eq]
  generalize units * 10 ^ (-exponent).toNat = numerator
  generalize unitsPerOne * 10 ^ exponent.toNat = denominator
  split_ifs with below
  · exact ⟨_, by rw [below]⟩
  · have above : halfEven numerator denominator = numerator / denominator + 1 := by
      simp only [halfEven] at below ⊢
      split_ifs at below ⊢ <;> omega
    exact ⟨_, by rw [above]⟩

theorem readsBack_nearest {bits units : Nat} {exponent : Int} (bounded : bits < signBit)
    (finite : unitsOfBits? bits = some units)
    (fine : unitsPerOne * 10 ^ exponent.toNat * 10 ^ 16 ≤ units * 10 ^ (-exponent).toNat) :
    readsBack units ⟨halfEven (units * 10 ^ (-exponent).toNat)
      (unitsPerOne * 10 ^ exponent.toNat), exponent⟩ = true := by
  have positive : 0 < unitsPerOne * 10 ^ exponent.toNat :=
    Nat.mul_pos unitsPerOne_pos (Nat.pow_pos (by decide))
  have above := halfEven_mul_le (units * 10 ^ (-exponent).toNat)
    (unitsPerOne * 10 ^ exponent.toNat)
  have below := @le_mul_halfEven (units * 10 ^ (-exponent).toNat) _ positive
  rw [readsBack_iff, bits_eq, nearestBits_of_near_units (Nat.pow_pos (by decide)) bounded finite,
    finite]
  have swapped (digits : Nat) : digits * 10 ^ exponent.toNat * unitsPerOne =
      digits * (unitsPerOne * 10 ^ exponent.toNat) := by ring
  dsimp only
  rw [swapped]
  generalize units * 10 ^ (-exponent).toNat = numerator at *
  generalize unitsPerOne * 10 ^ exponent.toNat = denominator at *
  generalize halfEven numerator denominator * denominator = rounded at *
  exact ⟨by omega, by omega⟩

theorem shortestFrom_found {units : Nat} {exponent : Int} {tries last : Nat}
    (within : last < tries)
    (found : (neighbours units (exponent - last)).find? (readsBack units) ≠ none) :
    ∃ count < tries,
      (neighbours units (exponent - count)).find? (readsBack units) =
        some (shortestFrom units exponent tries) ∧
      ∀ fewer < count, (neighbours units (exponent - fewer)).find? (readsBack units) = none := by
  induction tries generalizing exponent last with
  | zero => omega
  | succ tries ih =>
      rw [shortestFrom_succ]
      cases first : (neighbours units exponent).find? (readsBack units) with
      | some d => exact ⟨0, by omega, by simpa using first, by simp⟩
      | none =>
          cases last with
          | zero => simp [first] at found
          | succ last =>
              have shifted (count : Nat) : exponent - 1 - count = exponent - (count + 1 : Nat) := by
                omega
              rw [← shifted] at found
              obtain ⟨count, less, same, none⟩ := ih (by omega) found
              refine ⟨count + 1, by omega, by rwa [← shifted], ?_⟩
              intro fewer before
              cases fewer with
              | zero => simpa using first
              | succ fewer =>
                  rw [← shifted]
                  exact none fewer (by omega)

/-- The shortest decimal is the first one that reads back on the grids of one digit up to seventeen
digits; the search never leaves them. -/
theorem shortest_found {bits units : Nat} (bounded : bits < signBit)
    (finite : unitsOfBits? bits = some units) (filled : units ≠ 0) :
    ∃ count : Nat, count < 17 ∧
      (neighbours units (magnitude units - 1 - count)).find? (readsBack units) =
        some (shortest units) ∧
      ∀ fewer : Nat, fewer < count →
        (neighbours units (magnitude units - 1 - fewer)).find? (readsBack units) = none := by
  apply shortestFrom_found (show 16 < 17 by decide)
  have last : magnitude units - 1 - (16 : Nat) = magnitude units - 17 := by omega
  obtain ⟨other, nearest⟩ := neighbours_nearest units (magnitude units - 17)
  have back := readsBack_nearest bounded finite (fine_seventeenth filled)
  rw [last, nearest, List.find?_cons_of_pos back]
  exact Option.some_ne_none _

end Decimal

end Reckoner.Number
