import Reckoner.Evaluation
import Reckoner.Proofs.Number.Comparison

/-!
Values compared. Any two values have one order, by their numbers or by their texts, and the four
relational operators are read off it, so that they never fail and agree with each other. Equality is
symmetric, and all values but infinities and what is not a number equal themselves.
-/

namespace Reckoner

namespace Value

/-- How two values compare: as numbers if both count as numbers, and by rendered texts otherwise. -/
def order? (left right : Value) : Option Ordering :=
  match left.toNumber?, right.toNumber? with
  | some x, some y => Number.order? x y
  | _, _ => some (compare left.rendered right.rendered)

/-- Both values count as numbers, and one of the two is not a number. -/
def Incomparable (left right : Value) : Prop :=
  ∃ x y, left.toNumber? = some x ∧ right.toNumber? = some y ∧
    (x.isNaN = true ∨ y.isNaN = true)

theorem order?_swap (left right : Value) :
    order? right left = (order? left right).map Ordering.swap := by
  have texts (s t : String) : compare t s = (compare s t).swap := Std.OrientedOrd.eq_swap
  simp only [order?]
  cases left.toNumber? with
  | none => cases right.toNumber? <;> exact congrArg some (texts _ _)
  | some x =>
      cases right.toNumber? with
      | none => exact congrArg some (texts _ _)
      | some y => exact Number.order?_swap x y

theorem order?_eq_none_iff (left right : Value) :
    order? left right = none ↔ Incomparable left right := by
  simp only [order?, Incomparable]
  cases left.toNumber? with
  | none => simp
  | some x =>
      cases right.toNumber? with
      | none => simp
      | some y => simp [Number.order?_eq_none_iff]

end Value

namespace Evaluation

open Value

theorem compare_eq {numbers : Float → Float → Bool} {texts : String → String → Bool}
    {reading : Option Ordering → Bool}
    (ofNumbers : ∀ x y, numbers x y = reading (Number.order? x y))
    (ofTexts : ∀ s t, texts s t = reading (some (Ord.compare s t))) (left right : Value) :
    compare numbers texts left right = reading (left.order? right) := by
  simp only [compare, order?]
  cases left.toNumber? with
  | none => cases right.toNumber? <;> exact ofTexts _ _
  | some x =>
      cases right.toNumber? with
      | none => exact ofTexts _ _
      | some y => exact ofNumbers x y

theorem compare_turned (numbers : Float → Float → Bool) (texts : String → String → Bool)
    (left right : Value) :
    compare (fun x y => numbers y x) (fun s t => texts t s) left right =
      compare numbers texts right left := by
  simp only [compare]
  cases left.toNumber? <;> cases right.toNumber? <;> rfl

theorem isGreater_eq (left right : Value) : isGreater left right = isLess right left :=
  compare_turned (fun x y => x < y) (fun s t => s < t) left right

theorem isGreaterEqual_eq (left right : Value) :
    isGreaterEqual left right = isLessEqual right left :=
  compare_turned (fun x y => x ≤ y) (fun s t => s ≤ t) left right

theorem isLess_eq (left right : Value) : isLess left right = (left.order? right == some .lt) := by
  apply @compare_eq _ _ (fun order => order == some .lt) Number.less_eq
  intro s t
  have less : Ord.compare s t = .lt ↔ s < t := compareOfLessAndEq_eq_lt
  rw [Bool.eq_iff_iff]
  simp [less]

theorem isLessEqual_eq (left right : Value) :
    isLessEqual left right = (left.order? right).any Ordering.isLE := by
  apply @compare_eq _ _ (fun order => order.any Ordering.isLE) Number.lessEqual_eq
  intro s t
  have lessEqual : (Ord.compare s t).isLE = true ↔ s ≤ t :=
    isLE_compareOfLessAndEq String.le_antisymm String.not_le String.le_total
  rw [Bool.eq_iff_iff]
  simp [lessEqual]

/-- The operator answers with a truth for these operands, and leaves every session as it is. -/
def Answers (operator : BinaryOperator) (left right : Value) (answer : Bool) : Prop :=
  ∀ session, applyBinary (.text operator.symbol) (some (pure right)) left session =
    (.ok (.truth answer), session)

theorem relational_answers (left right : Value) :
    Answers .less left right (isLess left right) ∧
    Answers .lessEqual left right (isLessEqual left right) ∧
    Answers .greater left right (isGreater left right) ∧
    Answers .greaterEqual left right (isGreaterEqual left right) :=
  ⟨fun _ => rfl, fun _ => rfl, fun _ => rfl, fun _ => rfl⟩

/-- The relational operators are total and agree with each other. -/
theorem relations_coherent (left right : Value) :
    (Answers .less left right (isLess left right) ∧
      Answers .lessEqual left right (isLessEqual left right) ∧
      Answers .greater left right (isGreater left right) ∧
      Answers .greaterEqual left right (isGreaterEqual left right)) ∧
    isLess left right = (left.order? right == some .lt) ∧
    isLess left right = isGreater right left ∧
    isLessEqual left right = isGreaterEqual right left ∧
    (isLess left right ≠ isGreaterEqual left right ↔ ¬Incomparable left right) ∧
    (isLessEqual left right ≠ isGreater left right ↔ ¬Incomparable left right) := by
  refine ⟨relational_answers left right, isLess_eq left right, (isGreater_eq right left).symm,
    (isGreaterEqual_eq right left).symm, ?_, ?_⟩
  · rw [isGreaterEqual_eq, isLess_eq, isLessEqual_eq, order?_swap left right,
      ← order?_eq_none_iff]
    rcases left.order? right with _ | _ | _ | _ <;> decide
  · rw [isGreater_eq, isLess_eq, isLessEqual_eq, order?_swap left right, ← order?_eq_none_iff]
    rcases left.order? right with _ | _ | _ | _ <;> decide

end Evaluation

namespace Value

def isFinite : Value → Bool
  | .number x => x.isFinite
  | _ => true

theorem equals_comm (left right : Value) : left.equals right = right.equals left := by
  have texts (s t : String) : decide (s = t) = decide (t = s) := decide_eq_decide.mpr eq_comm
  have truths (b c : Bool) : decide (b = c) = decide (c = b) := decide_eq_decide.mpr eq_comm
  cases left with
  | absent => cases right <;> rfl
  | number x =>
      cases right with
      | absent => rfl
      | number y => exact Number.agrees_comm x y
      | text | truth => exact texts _ _
  | text s =>
      cases right with
      | absent => rfl
      | _ => exact texts _ _
  | truth b =>
      cases right with
      | absent => rfl
      | truth c => exact truths b c
      | number | text => exact texts _ _

theorem equals_self (value : Value) : value.equals value = value.isFinite := by
  cases value with
  | absent => rfl
  | number x => exact Number.agrees_self x
  | text s => exact decide_eq_true rfl
  | truth b => exact decide_eq_true rfl

/-- Equality is symmetric, and just the finite values equal themselves. -/
theorem equals_symmetric_reflexive (left right : Value) :
    left.equals right = right.equals left ∧ left.equals left = left.isFinite :=
  ⟨equals_comm left right, equals_self left⟩

/-- An infinity is a number, but its difference to itself is not, so it does not equal itself. -/
theorem infinity_unequal :
    Number.infinity.isNaN = false ∧
      (Value.number Number.infinity).equals (.number Number.infinity) = false := by
  constructor
  · decide +kernel
  · rw [equals_self]
    decide +kernel

end Value

end Reckoner
