import Mathlib.Algebra.Order.Ring.Nat
import Mathlib.Tactic.Ring
import Mathlib.Tactic.SplitIfs
import Reckoner.Number.Decimal

/-!
The double nearest to a quotient hangs on the quotient only, so that a decimal may be written with
more zeros or fewer. What is near enough to a double is rounded to it, and so is the double itself.
-/

namespace Reckoner.Number

/-- The exponent stays a variable, for a literal of this size is evaluated wherever it stands. -/
theorem unitsPerOne_two_pow : ∃ places, places = 1074 ∧ unitsPerOne = 2 ^ places :=
  ⟨1074, rfl, by decide +kernel⟩

theorem unitsPerOne_pos : 0 < unitsPerOne := by
  obtain ⟨places, -, power⟩ := unitsPerOne_two_pow
  rw [power]
  exact Nat.two_pow_pos places

theorem fractions_two_pow : fractions = 2 ^ 52 := by
  decide

theorem fractions_eq : fractions = 4503599627370496 := by
  decide

section

variable {numerator denominator factor : Nat}

theorem halfEven_mul (positive : 0 < factor) (numerator denominator : Nat) :
    halfEven (numerator * factor) (denominator * factor) = halfEven numerator denominator := by
  have less : 2 * (numerator * factor % (denominator * factor)) < denominator * factor ↔
      2 * (numerator % denominator) < denominator := by
    rw [Nat.mul_mod_mul_right, ← Nat.mul_assoc, Nat.mul_lt_mul_right positive]
  have same : 2 * (numerator * factor % (denominator * factor)) = denominator * factor ↔
      2 * (numerator % denominator) = denominator := by
    rw [Nat.mul_mod_mul_right, ← Nat.mul_assoc, Nat.mul_left_inj positive.ne']
  simp only [halfEven, less, same, Nat.mul_div_mul_right _ _ positive]

theorem le_halfEven (numerator denominator : Nat) :
    numerator / denominator ≤ halfEven numerator denominator := by
  simp only [halfEven]
  split_ifs <;> omega

theorem halfEven_of_near {quotient : Nat}
    (above : 2 * (quotient * denominator) < 2 * numerator + denominator)
    (below : 2 * numerator < 2 * (quotient * denominator) + denominator) :
    halfEven numerator denominator = quotient := by
  have positive : 0 < denominator := by omega
  have parts := Nat.div_add_mod' numerator denominator
  have small := Nat.mod_lt numerator positive
  have notAbove : numerator / denominator ≤ quotient := by
    by_contra more
    have := Nat.mul_le_mul_right denominator (not_le.mp more)
    rw [Nat.succ_mul] at this
    omega
  have notBelow : quotient ≤ numerator / denominator + 1 := by
    by_contra less
    have := Nat.mul_le_mul_right denominator (not_le.mp less)
    rw [Nat.succ_mul, Nat.add_mul, Nat.one_mul] at this
    omega
  simp only [halfEven]
  obtain same | same : quotient = numerator / denominator ∨
      quotient = numerator / denominator + 1 := by omega
  · rw [← same] at parts ⊢
    rw [if_pos (by omega)]
  · rw [same, Nat.add_mul, Nat.one_mul] at above
    rw [if_neg (by omega), if_neg (by omega), same]

theorem halfEven_mul_le (numerator denominator : Nat) :
    2 * (halfEven numerator denominator * denominator) ≤ 2 * numerator + denominator := by
  have parts := Nat.div_add_mod' numerator denominator
  simp only [halfEven]
  split_ifs with below half
  · omega
  · have even : numerator / denominator % 2 * denominator ≤ denominator := by
      rcases Nat.mod_two_eq_zero_or_one (numerator / denominator) with parity | parity
      · simp [parity]
      · simp [parity]
    rw [Nat.add_mul]
    omega
  · rw [Nat.add_mul, Nat.one_mul]
    omega

theorem le_mul_halfEven (positive : 0 < denominator) :
    2 * numerator ≤ 2 * (halfEven numerator denominator * denominator) + denominator := by
  have parts := Nat.div_add_mod' numerator denominator
  have small := Nat.mod_lt numerator positive
  simp only [halfEven]
  split_ifs with below half
  · omega
  · rw [Nat.add_mul]
    omega
  · rw [Nat.add_mul, Nat.one_mul]
    omega

theorem nearestBits_mul (positive : 0 < factor) (numerator denominator : Nat) :
    nearestBits (numerator * factor) (denominator * factor) =
      nearestBits numerator denominator := by
  have count : numerator * factor * unitsPerOne = numerator * unitsPerOne * factor := by ring
  have grid (size : Nat) : denominator * factor * size = denominator * size * factor := by ring
  simp only [nearestBits, count, Nat.mul_div_mul_right _ _ positive, grid, halfEven_mul positive]

theorem nearestBits_congr {numerator' denominator' : Nat} (positive : 0 < denominator)
    (positive' : 0 < denominator')
    (same : numerator * denominator' = numerator' * denominator) :
    nearestBits numerator denominator = nearestBits numerator' denominator' := by
  rw [← nearestBits_mul positive', same, Nat.mul_comm denominator, nearestBits_mul positive]

theorem nearestBits_le (numerator denominator : Nat) :
    nearestBits numerator denominator ≤ infinityBits :=
  Nat.min_le_right _ _

theorem nearestBits_of_small (small : 2 * (numerator * unitsPerOne) < denominator) :
    nearestBits numerator denominator = 0 := by
  have none : numerator * unitsPerOne / denominator = 0 := Nat.div_eq_of_lt (by omega)
  have rest : numerator * unitsPerOne % denominator = numerator * unitsPerOne :=
    Nat.mod_eq_of_lt (by omega)
  simp [nearestBits, none, halfEven, rest, small]

theorem fractions_le_div {count : Nat} (large : fractions ≤ count) :
    fractions ≤ count / 2 ^ (count.log2 - 52) := by
  have positive : count ≠ 0 := by
    rintro rfl
    exact absurd large (by decide)
  have mantissa : 52 ≤ count.log2 := (Nat.le_log2 positive).mpr large
  rw [Nat.le_div_iff_mul_le (Nat.two_pow_pos _), fractions_two_pow, ← Nat.pow_add,
    Nat.add_sub_cancel' mantissa]
  exact Nat.log2_self_le positive

theorem nearestBits_of_large {top : Nat} (large : 2 ^ top ≤ numerator) (far : 1024 ≤ top) :
    nearestBits numerator 1 = infinityBits := by
  obtain ⟨places, same, power⟩ := unitsPerOne_two_pow
  have count : 2 ^ (top + places) ≤ numerator * unitsPerOne := by
    rw [Nat.pow_add, power]
    exact Nat.mul_le_mul_right _ large
  have positive : numerator * unitsPerOne ≠ 0 := by
    have := Nat.two_pow_pos (top + places)
    omega
  have above := (Nat.le_log2 positive).mpr count
  have wide : fractions ≤ numerator * unitsPerOne := by
    rw [fractions_two_pow]
    exact (Nat.pow_le_pow_right (by decide) (by omega)).trans count
  have mantissa := (fractions_le_div wide).trans (le_halfEven _ _)
  have shift : 2046 ≤ (numerator * unitsPerOne).log2 - 52 := by omega
  have field := Nat.mul_le_mul_right fractions shift
  simp only [nearestBits, Nat.div_one]
  rw [Nat.pow_eq, Nat.one_mul]
  apply Nat.min_eq_right
  rw [infinityBits]
  omega

end

/-- The difference is a small part of the first number, smaller than half the distance of a double
to the next one ever is. -/
def Near (first second : Nat) : Prop :=
  2 * 10 ^ 16 * first ≤ 2 * 10 ^ 16 * second + first ∧
    2 * 10 ^ 16 * second ≤ 2 * 10 ^ 16 * first + first

theorem shift_of_bounds {count denominator shift : Nat} (positive : 0 < denominator)
    (low : shift = 0 ∨ fractions * (denominator * 2 ^ shift) ≤ count)
    (high : count < 2 * fractions * (denominator * 2 ^ shift)) :
    (count / denominator).log2 - 52 = shift := by
  have grid : fractions * (denominator * 2 ^ shift) = 2 ^ (52 + shift) * denominator := by
    rw [fractions_two_pow, Nat.pow_add]
    ring
  have above : count / denominator < 2 ^ (52 + shift + 1) := by
    have twice : 2 ^ (52 + shift + 1) * denominator = 2 * (2 ^ (52 + shift) * denominator) := by
      ring
    rw [Nat.div_lt_iff_lt_mul positive, twice, ← grid, ← Nat.mul_assoc]
    exact high
  rcases low with rfl | low
  · by_cases zero : count / denominator = 0
    · simp [zero]
    · have := (Nat.log2_lt zero).mpr above
      omega
  · have below : 2 ^ (52 + shift) ≤ count / denominator := by
      rwa [Nat.le_div_iff_mul_le positive, ← grid]
    have filled : count / denominator ≠ 0 := by
      have := Nat.two_pow_pos (52 + shift)
      omega
    rw [(Nat.log2_eq_iff filled).mpr ⟨below, above⟩, Nat.add_sub_cancel_left]

section

variable {numerator denominator mantissa shift : Nat}

theorem nearestBits_of_shift
    (top : (numerator * unitsPerOne / denominator).log2 - 52 = shift)
    (rounded : halfEven (numerator * unitsPerOne) (denominator * 2 ^ shift) = mantissa) :
    nearestBits numerator denominator = min (shift * fractions + mantissa) infinityBits := by
  rw [← rounded, ← top]
  rfl

/-- The number may lie in the step below only if it is near a power of two, which it then rounds
up to. -/
theorem nearestBits_of_near (positive : 0 < denominator) (bounded : mantissa < 2 * fractions)
    (normal : shift = 0 ∨ fractions ≤ mantissa)
    (near : Near (mantissa * (denominator * 2 ^ shift)) (numerator * unitsPerOne)) :
    nearestBits numerator denominator = min (shift * fractions + mantissa) infinityBits := by
  obtain ⟨above, below⟩ := near
  have step := Nat.mul_pos positive (Nat.two_pow_pos shift)
  have most : mantissa * (denominator * 2 ^ shift) ≤
      (2 * fractions - 1) * (denominator * 2 ^ shift) :=
    Nat.mul_le_mul_right _ (by omega)
  by_cases inside : shift = 0 ∨ fractions * (denominator * 2 ^ shift) ≤ numerator * unitsPerOne
  · apply nearestBits_of_shift
    · apply shift_of_bounds positive inside
      rw [fractions_eq] at most ⊢
      omega
    · rw [fractions_eq] at most
      apply halfEven_of_near <;> omega
  · obtain ⟨more, under⟩ : shift ≠ 0 ∧
        numerator * unitsPerOne < fractions * (denominator * 2 ^ shift) := by
      simpa using inside
    obtain ⟨less, rfl⟩ : ∃ less, shift = less + 1 := Nat.exists_eq_succ_of_ne_zero more
    have least : mantissa = fractions := by
      refine le_antisymm ?_ (normal.resolve_left more)
      by_contra large
      have := Nat.mul_le_mul_right (denominator * 2 ^ (less + 1)) (not_le.mp large)
      rw [Nat.succ_mul] at this
      rw [fractions_eq] at this under
      omega
    have double : denominator * 2 ^ (less + 1) = 2 * (denominator * 2 ^ less) := by ring
    subst least
    rw [double] at above below under
    rw [fractions_eq] at above below under
    have rounds : nearestBits numerator denominator =
        min (less * fractions + 2 * fractions) infinityBits := by
      apply nearestBits_of_shift
      · apply shift_of_bounds positive (.inr ?_)
        · rw [fractions_eq]
          omega
        · rw [fractions_eq]
          omega
      · rw [fractions_eq]
        apply halfEven_of_near <;> omega
    have carried : (less + 1) * fractions + fractions = less * fractions + 2 * fractions := by ring
    rw [rounds, carried]

theorem near_self (count : Nat) : Near count count :=
  ⟨by omega, by omega⟩

theorem bits_split {bits units : Nat} (bounded : bits < signBit)
    (finite : unitsOfBits? bits = some units) :
    ∃ mantissa shift, units = mantissa * 2 ^ shift ∧ mantissa < 2 * fractions ∧
      (shift = 0 ∨ fractions ≤ mantissa) ∧
      min (shift * fractions + mantissa) infinityBits = bits := by
  have fraction : bits % fractions < fractions := Nat.mod_lt _ (by decide)
  have whole := Nat.div_add_mod' bits fractions
  have field : bits / fractions < 2048 := Nat.div_lt_of_lt_mul (by rwa [Nat.mul_comm])
  simp only [unitsOfBits?, Nat.mod_eq_of_lt field] at finite
  split_ifs at finite with top bottom
  all_goals
    have below : bits ≤ infinityBits := by
      rw [infinityBits]
      have := Nat.mul_le_mul_right fractions (show bits / fractions ≤ 2046 by omega)
      omega
  · obtain rfl := Option.some.inj finite
    rw [bottom] at whole
    exact ⟨bits % fractions, 0, by rw [Nat.pow_zero, Nat.mul_one], by omega, .inl rfl, by omega⟩
  · obtain rfl := Option.some.inj finite
    obtain ⟨less, same⟩ : ∃ less, bits / fractions = less + 1 :=
      Nat.exists_eq_succ_of_ne_zero bottom
    rw [same, Nat.add_mul, Nat.one_mul] at whole
    refine ⟨fractions + bits % fractions, less, by rw [same]; rfl, by omega, .inr (by omega), ?_⟩
    omega

theorem nearestBits_of_near_units {bits units : Nat} (positive : 0 < denominator)
    (bounded : bits < signBit) (finite : unitsOfBits? bits = some units)
    (near : Near (units * denominator) (numerator * unitsPerOne)) :
    nearestBits numerator denominator = bits := by
  obtain ⟨mantissa, shift, rfl, small, normal, rfl⟩ := bits_split bounded finite
  have grid : mantissa * 2 ^ shift * denominator = mantissa * (denominator * 2 ^ shift) := by ring
  rw [grid] at near
  exact nearestBits_of_near positive small normal near

theorem nearestBits_units {bits units : Nat} (bounded : bits < signBit)
    (finite : unitsOfBits? bits = some units) : nearestBits units unitsPerOne = bits :=
  nearestBits_of_near_units unitsPerOne_pos bounded finite (near_self _)

end

namespace Decimal

theorem two_pow_le_ten_pow (places : Nat) : 2 ^ (3 * places) ≤ 10 ^ places := by
  rw [Nat.pow_mul]
  exact Nat.pow_le_pow_left (by decide) places

theorem two_mul_units_lt {digits down : Nat} (far : digits.log2 + 1080 < 3 * down) :
    2 * (digits * unitsPerOne) < 10 ^ down := by
  obtain ⟨places, same, power⟩ := unitsPerOne_two_pow
  calc
    2 * (digits * unitsPerOne) < 2 * (2 ^ (digits.log2 + 1) * unitsPerOne) := by
      have digit : digits < 2 ^ (digits.log2 + 1) := Nat.lt_log2_self
      have scaled := Nat.mul_lt_mul_of_pos_right digit unitsPerOne_pos
      omega
    _ = 2 ^ (digits.log2 + places + 2) := by
      rw [power]
      ring
    _ ≤ 2 ^ (3 * down) := Nat.pow_le_pow_right (by decide) (by omega)
    _ ≤ 10 ^ down := two_pow_le_ten_pow down

/-- The cutoffs of large and small exponents give what rounding gives. -/
theorem bits_eq (d : Decimal) :
    d.bits = nearestBits (d.digits * 10 ^ d.exponent.toNat) (10 ^ (-d.exponent).toNat) := by
  rw [bits]
  split_ifs with empty
  · rw [empty, Nat.zero_mul]
    exact (nearestBits_of_small (by simp)).symm
  · cases d.exponent with
    | ofNat up =>
        simp only [Int.ofNat_eq_natCast, Int.toNat_natCast, Int.toNat_neg_natCast, Nat.pow_zero]
        split_ifs with far
        · have large : 2 ^ (3 * up) ≤ d.digits * 10 ^ up :=
            (two_pow_le_ten_pow up).trans (Nat.le_mul_of_pos_left _ (Nat.pos_of_ne_zero empty))
          exact (nearestBits_of_large large (by omega)).symm
        · rfl
    | negSucc less =>
        have down : (-Int.negSucc less).toNat = less + 1 := rfl
        rw [down, Int.toNat_negSucc, Nat.pow_zero, Nat.mul_one]
        dsimp only
        split_ifs with far
        · exact (nearestBits_of_small (two_mul_units_lt far)).symm
        · rfl

theorem bits_le (d : Decimal) : d.bits ≤ infinityBits := by
  rw [bits_eq]
  exact nearestBits_le _ _

theorem bits_mul (digits zeros : Nat) (exponent : Int) :
    bits ⟨digits * 10 ^ zeros, exponent⟩ = bits ⟨digits, exponent + zeros⟩ := by
  rw [bits_eq, bits_eq]
  apply nearestBits_congr (Nat.pow_pos (by decide)) (Nat.pow_pos (by decide))
  have places : zeros + exponent.toNat + (-(exponent + zeros)).toNat =
      (exponent + zeros).toNat + (-exponent).toNat := by
    omega
  calc
    digits * 10 ^ zeros * 10 ^ exponent.toNat * 10 ^ (-(exponent + zeros)).toNat =
        digits * 10 ^ (zeros + exponent.toNat + (-(exponent + zeros)).toNat) := by ring
    _ = digits * 10 ^ (exponent + zeros).toNat * 10 ^ (-exponent).toNat := by
        rw [places]
        ring

theorem bits_exact (units : Nat) : (exact units).bits = nearestBits units unitsPerOne := by
  obtain ⟨places, same, power⟩ := unitsPerOne_two_pow
  have exponent : (-1074 : Int) = -places := by omega
  have written : exact units = ⟨units * Nat.pow 5 places, -places⟩ := by
    rw [exact, exponent, ← same]
  have up : (-(places : Int)).toNat = 0 := by omega
  have down : (-(-(places : Int))).toNat = places := by omega
  have ten : 10 ^ places = unitsPerOne * Nat.pow 5 places := by
    rw [power]
    exact Nat.mul_pow 2 5 places
  rw [written, bits_eq, up, down, Nat.pow_zero, Nat.mul_one, ten]
  exact nearestBits_mul (Nat.pow_pos (by decide)) units unitsPerOne

theorem readsBack_iff {units : Nat} {d : Decimal} :
    readsBack units d = true ↔ unitsOfBits? d.bits = some units :=
  decide_eq_true_iff

theorem readsBack_exact {bits units : Nat} (positive : bits < signBit)
    (finite : unitsOfBits? bits = some units) : readsBack units (exact units) = true := by
  rwa [readsBack_iff, bits_exact, nearestBits_units positive finite]

theorem shortestFrom_zero (units : Nat) (exponent : Int) :
    shortestFrom units exponent 0 = exact units := rfl

-- Powers with large exponents are kept closed, or opening the recursion would evaluate them.
attribute [local irreducible] unitsPerOne exact in
theorem shortestFrom_succ (units : Nat) (exponent : Int) (tries : Nat) :
    shortestFrom units exponent (tries + 1) =
      match (neighbours units exponent).find? (readsBack units) with
      | some found => found
      | none => shortestFrom units (exponent - 1) tries := by
  delta shortestFrom
  rfl

theorem readsBack_shortestFrom {bits units : Nat} (positive : bits < signBit)
    (finite : unitsOfBits? bits = some units) (exponent : Int) (tries : Nat) :
    readsBack units (shortestFrom units exponent tries) = true := by
  induction tries generalizing exponent with
  | zero =>
      rw [shortestFrom_zero]
      exact readsBack_exact positive finite
  | succ tries ih =>
      rw [shortestFrom_succ]
      cases same : (neighbours units exponent).find? (readsBack units) with
      | some found => exact List.find?_some same
      | none => exact ih (exponent - 1)

theorem bits_shortest {bits units : Nat} (positive : bits < signBit)
    (finite : unitsOfBits? bits = some units) : (shortest units).bits = bits := by
  have back : unitsOfBits? (shortest units).bits = some units :=
    readsBack_iff.mp (readsBack_shortestFrom positive finite (magnitude units - 1) 17)
  have small : (shortest units).bits < signBit := lt_of_le_of_lt (bits_le _) (by decide)
  rw [← nearestBits_units positive finite, nearestBits_units small back]

end Decimal

end Reckoner.Number
