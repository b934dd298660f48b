import Reckoner.Proofs.Builtin.Calls
import Reckoner.Proofs.Number.Index

/-!
Parts of texts. A part starts at the index of one number and has the index of another for its
length, both moved to the nearest bound, so that no number makes cutting fail. Cut in two at one
number, a text is made up of its two parts again.
-/

namespace Reckoner

/-- The part of a text that starts at an index and has a length, both moved to the nearest bound. -/
def Text.IsSlice (whole : List Char) (start length : ℤ) (part : List Char) : Prop :=
  ∃ front back, whole = front ++ part ++ back ∧
    (front.length : ℤ) = max 0 (min start whole.length) ∧
    (part.length : ℤ) = max 0 (min length (whole.length - front.length))

theorem Text.IsSlice.unique {whole part other : List Char} {start length : ℤ}
    (slice : IsSlice whole start length part) (sliceOther : IsSlice whole start length other) :
    part = other := by
  obtain ⟨front, back, split, starts, lasts⟩ := slice
  obtain ⟨frontOther, backOther, splitOther, startsOther, lastsOther⟩ := sliceOther
  have fronts : front.length = frontOther.length := by omega
  have parts : part.length = other.length := by omega
  rw [split, List.append_assoc, List.append_assoc] at splitOther
  obtain ⟨_, behind⟩ := List.append_inj splitOther fronts
  exact (List.append_inj behind parts).1

namespace Builtin

theorem clamp_eq (index : ℤ) (high : Nat) : (clamp index high : ℤ) = max 0 (min index high) := by
  rw [clamp]
  omega

theorem slice_isSlice (chars : List Char) (start length : ℤ) :
    Text.IsSlice chars start length (slice chars start (some length)) := by
  let first := clamp start chars.length
  let rest := chars.drop first
  let count := clamp length rest.length
  have within : first ≤ chars.length := Nat.min_le_right _ _
  have inside : count ≤ rest.length := Nat.min_le_right _ _
  refine ⟨chars.take first, rest.drop count, ?_, ?_, ?_⟩
  · change chars = chars.take first ++ rest.take count ++ rest.drop count
    rw [List.append_assoc, List.take_append_drop, List.take_append_drop]
  · rw [List.length_take_of_le within, clamp_eq]
  · change ((rest.take count).length : ℤ) = _
    rw [List.length_take_of_le inside, List.length_take_of_le within, clamp_eq, List.length_drop,
      Nat.cast_sub within]

theorem slice_append_slice (chars : List Char) (index : ℤ) :
    slice chars 0 (some index) ++ slice chars index none = chars := by
  have start : clamp 0 chars.length = 0 := by simp [clamp]
  simp only [slice, start, List.drop_zero, List.take_append_drop]

theorem toNumber_of_counted {value : Value} {x : Float} (counted : value.toNumber? = some x) :
    toNumber value = .ok x := by
  rw [toNumber, counted]

theorem toIndex_of_counted {value : Value} {x : Float} (counted : value.toNumber? = some x) :
    toIndex value = .ok (Number.position x) := by
  rw [toIndex, toNumber_of_counted counted]
  change onMachine (Number.toIndex x) = _
  rw [Number.toIndex_eq_position]
  rfl

section

variable (value : Value) {start : Value} {x : Float} (starts : start.toNumber? = some x)

include starts

theorem substr_reply_part {length : Value} {y : Float} (lasts : length.toNumber? = some y) :
    substr.reply [value, start, length] =
      cut value (Number.position x) (some (Number.position y)) := by
  rw [substr_of_three, toIndex_of_counted starts, toIndex_of_counted lasts]
  rfl

theorem substr_reply_rest :
    substr.reply [value, start] = cut value (Number.position x) none := by
  rw [substr_of_two, toIndex_of_counted starts]
  rfl

end

end Builtin

namespace Evaluation

open Builtin Number

section

variable (value : Value) {start : Value} {x : Float} (starts : start.toNumber? = some x)

include starts

theorem yields_substr {length : Value} {y : Float} (lasts : length.toNumber? = some y) :
    Yields "substr" [value, start, length] (.text (String.ofList
      (slice value.rendered.toList (position x) (some (position y))))) := by
  have known : substr ∈ standard := by simp [standard]
  have enough : substr.least ≤ [value, start, length].length := Nat.le_succ 2
  exact yields_of_reply known enough (substr_reply_part value starts lasts)

theorem yields_substr_rest :
    Yields "substr" [value, start] (.text (String.ofList
      (slice value.rendered.toList (position x) none))) := by
  have known : substr ∈ standard := by simp [standard]
  have enough : substr.least ≤ [value, start].length := Nat.le_refl 2
  exact yields_of_reply known enough (substr_reply_rest value starts)

end

/-- Cutting takes the slice from the index of the first number on that is as long as the index of the
second one says. The slices before and behind the index of a number make up the text. -/
theorem substr_slices (value : Value) {start length : Value} {x y : Float}
    (starts : start.toNumber? = some x) (lasts : length.toNumber? = some y) :
    (∃ part, Yields "substr" [value, start, length] (.text (String.ofList part)) ∧
      ∀ other, Text.IsSlice value.rendered.toList (position x) (position y) other ↔
        other = part) ∧
    ∃ front back, Yields "substr" [value, .number 0, length] (.text front) ∧
      Yields "substr" [value, length] (.text back) ∧ front ++ back = value.rendered := by
  constructor
  · have yields := yields_substr value starts lasts
    have sliced := slice_isSlice value.rendered.toList (position x) (position y)
    refine ⟨_, yields, ?_⟩
    intro other
    constructor
    · intro sliceOther
      exact sliceOther.unique sliced
    · rintro rfl
      exact sliced
  · have zero : (Value.number 0).toNumber? = some 0 := rfl
    have first : position 0 = 0 := by decide +kernel
    have front := yields_substr value zero lasts
    rw [first] at front
    refine ⟨_, _, front, yields_substr_rest value lasts, ?_⟩
    rw [← String.ofList_append, slice_append_slice, String.ofList_toList]

theorem substr_slices_infinite :
    (Value.text "-inf").toNumber? = some (-infinity) ∧
      (Value.text "2.9").toNumber? = some 2.9 ∧
      Yields "substr" [.text "naïve", .text "-inf", .text "2.9"] (.text "na") ∧
      ∃ front back, Yields "substr" [.text "naïve", .number 0, .text "2.9"] (.text front) ∧
        Yields "substr" [.text "naïve", .text "2.9"] (.text back) ∧ front ++ back = "naïve" := by
  have starts : (Value.text "-inf").toNumber? = some (-infinity) := by decide +kernel
  have lasts : (Value.text "2.9").toNumber? = some 2.9 := by decide +kernel
  have first : position (-infinity) = -2 ^ 31 := by decide +kernel
  have second : position 2.9 = 2 := by decide +kernel
  obtain ⟨⟨part, yields, slices⟩, halves⟩ := substr_slices (.text "naïve") starts lasts
  rw [first, second] at slices
  have same : "na".toList = part :=
    (slices _).mp ⟨[], "ïve".toList, by decide, by decide, by decide⟩
  rw [← same, String.ofList_toList] at yields
  exact ⟨starts, lasts, yields, halves⟩

end Evaluation

end Reckoner
