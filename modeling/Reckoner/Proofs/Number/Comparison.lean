import Mathlib
import Reckoner.Number.Arithmetic

/-!
Doubles compared. There is one answer for every two of them, turned round with them, and none just
where one of them is not a number. Their difference is turned round up to its sign, and it is zero
for a finite double and itself.
-/

namespace Reckoner.Number

open Float.Model (Format UnpackedFloat)
open Float.Model.UnpackedFloat

/-- How two doubles compare; what is not a number compares with none. -/
def order? (x y : Float) : Option Ordering :=
  x.toModel.compare y.toModel

theorem less_eq (x y : Float) : decide (x < y) = (order? x y == some .lt) := by
  change decide (decide (x.toModel.lt y.toModel = true) = true) = _
  rw [Bool.decide_eq_true, Bool.decide_eq_true]
  rfl

theorem lessEqual_eq (x y : Float) : decide (x ≤ y) = (order? x y).any Ordering.isLE := by
  change decide (decide (x.toModel.le y.toModel = true) = true) = _
  rw [Bool.decide_eq_true, Bool.decide_eq_true]
  rfl

theorem sign_swap (s t : Sign) : compare t s = (compare s t).swap := by
  cases s <;> cases t <;> rfl

theorem size_swap (m n : Nat) (e f : Int) :
    (compare f e).then (compare n m) = ((compare e f).then (compare m n)).swap := by
  have exponents : compare f e = (compare e f).swap := Std.OrientedOrd.eq_swap
  have mantissas : compare n m = (compare m n).swap := Std.OrientedOrd.eq_swap
  rw [exponents, mantissas, Ordering.swap_then]

theorem compare_swap (a b : UnpackedFloat) : b.compare a = (a.compare b).map Ordering.swap := by
  cases a with
  | notANumber => cases b <;> rfl
  | infinity s =>
      cases b with
      | infinity t => exact congrArg some (sign_swap s t)
      | _ => cases s <;> rfl
  | zero s =>
      cases b with
      | infinity t => cases t <;> rfl
      | finite t => cases t <;> rfl
      | _ => rfl
  | finite s m e =>
      cases b with
      | infinity t => cases t <;> rfl
      | notANumber => rfl
      | zero => cases s <;> rfl
      | finite t n f =>
          cases s <;> cases t
          · simp only [UnpackedFloat.compare, Option.map_some, size_swap m n e f]
          · rfl
          · rfl
          · exact congrArg some (size_swap m n e f)

theorem compare_eq_none_iff (a b : UnpackedFloat) :
    a.compare b = none ↔ a.isNaN = true ∨ b.isNaN = true := by
  cases a with
  | notANumber => simp [UnpackedFloat.compare, UnpackedFloat.isNaN]
  | infinity s | zero s | finite s =>
      cases b with
      | notANumber => simp [UnpackedFloat.compare, UnpackedFloat.isNaN]
      | infinity t | zero t | finite t =>
          cases s <;> cases t <;> simp [UnpackedFloat.compare, UnpackedFloat.isNaN]

theorem order?_swap (x y : Float) : order? y x = (order? x y).map Ordering.swap :=
  compare_swap x.toModel.unpack y.toModel.unpack

theorem order?_eq_none_iff (x y : Float) :
    order? x y = none ↔ x.isNaN = true ∨ y.isNaN = true :=
  compare_eq_none_iff x.toModel.unpack y.toModel.unpack

section

variable (format : Format)

theorem abs_unpack_components (sign : Sign) (exponent : BitVec format.exponentBits)
    (mantissa : BitVec format.mantissaBitsWithoutImplicit) :
    (unpack format (packComponents format sign exponent mantissa)).abs =
      (unpack format (packComponents format .positive exponent mantissa)).abs := by
  simp only [unpack, unpackMantissa_packComponents, unpackExponent_packComponents]
  split_ifs <;> rfl

theorem abs_unpack_pack (a : UnpackedFloat) :
    (unpack format (pack format a)).abs = (unpack format (pack format a.abs)).abs := by
  cases a with
  | notANumber => rfl
  | infinity s => exact abs_unpack_components format s _ _
  | zero s => exact abs_unpack_components format s _ _
  | finite s m e p =>
      have positive : (UnpackedFloat.finite s m e p).abs = .finite .positive m e p := rfl
      rw [positive, pack.eq_4, pack.eq_4]
      split_ifs
      · exact abs_unpack_components format s _ _
      · exact abs_unpack_components format s _ _
      · exact abs_unpack_components format s _ _

theorem abs_round (sign : Sign) (mantissa : Nat) (exponent : Int) :
    (UnpackedFloat.round format sign mantissa exponent).abs =
      (UnpackedFloat.round format .positive mantissa exponent).abs := by
  simp only [UnpackedFloat.round, roundWithAccuracy]
  split_ifs <;> rfl

theorem abs_normalize_neg (mantissa exponent : Int) :
    (UnpackedFloat.normalize format (-mantissa) exponent .positive).abs =
      (UnpackedFloat.normalize format mantissa exponent .positive).abs := by
  rcases lt_trichotomy mantissa 0 with negative | rfl | positive
  · have swapped : compare (-mantissa) 0 = .gt := Int.compare_eq_gt.mpr (by omega)
    have before : compare mantissa 0 = .lt := Int.compare_eq_lt.mpr negative
    simp only [UnpackedFloat.normalize, swapped, before]
    exact (abs_round format .negative _ _).symm
  · rfl
  · have swapped : compare (-mantissa) 0 = .lt := Int.compare_eq_lt.mpr (by omega)
    have before : compare mantissa 0 = .gt := Int.compare_eq_gt.mpr positive
    simp only [UnpackedFloat.normalize, swapped, before, neg_neg]
    exact abs_round format .negative _ _

theorem abs_sub (a b : UnpackedFloat) : (sub format a b).abs = (sub format b a).abs := by
  cases a with
  | notANumber => cases b <;> rfl
  | infinity s =>
      cases b with
      | infinity t => cases s <;> cases t <;> rfl
      | _ => rfl
  | zero s =>
      cases b with
      | zero t => cases s <;> cases t <;> rfl
      | _ => rfl
  | finite s m e =>
      cases b with
      | finite t n f =>
          simp only [sub, min_comm f e]
          rw [← neg_sub, abs_normalize_neg]
      | _ => rfl

theorem sub_self_eq (a : UnpackedFloat) :
    sub format a a = if a.isFinite then .zero .positive else .notANumber := by
  cases a with
  | notANumber => rfl
  | infinity s | zero s => cases s <;> rfl
  | finite s m e p =>
      simp only [sub, Int.sub_self]
      rfl

end

theorem abs_difference_comm (x y : Float) : (x - y).abs = (y - x).abs := by
  let difference (x y : Float) : UnpackedFloat :=
    sub Format.binary64 x.toModel.unpack y.toModel.unpack
  have whole (x y : Float) : (x - y).abs = .ofModel (.pack
      (unpack Format.binary64 (pack Format.binary64 (difference x y))).abs) := rfl
  rw [whole, whole, abs_unpack_pack, abs_sub, ← abs_unpack_pack]

theorem agrees_comm (x y : Float) : agrees x y = agrees y x := by
  rw [agrees, abs_difference_comm, agrees]

theorem agrees_self (x : Float) : agrees x x = x.isFinite := by
  have difference : x - x =
      .ofModel (.pack (if x.isFinite then .zero .positive else .notANumber)) :=
    congrArg (fun a => Float.ofModel (.pack a)) (sub_self_eq _ x.toModel.unpack)
  rw [agrees, difference]
  cases x.isFinite with
  | true => decide +kernel
  | false => decide +kernel

end Reckoner.Number
