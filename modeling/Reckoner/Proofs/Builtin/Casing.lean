import Reckoner.Proofs.Builtin.Slicing

/-!
Case. The characters of a text are mapped one by one, whatever stands around them, and one whose
mapping is not a single character stays as it is. So a text keeps its length, and it makes no
difference whether texts are cut and joined before or behind the change of case.
-/

namespace Reckoner

namespace Text

/-- Each character of the second text is what the mapping makes of the one in its place, or that one
itself if the mapping does not make a single character of it. -/
def Recased (convert : Char → List Char) (before after : String) : Prop :=
  List.Forall₂ (fun c d => convert c = [d] ∨ (convert c).length ≠ 1 ∧ d = c)
    before.toList after.toList

def converted (convert : Char → List Char) (c : Char) : Char :=
  match convert c with
  | [d] => d
  | _ => c

theorem converted_cases (convert : Char → List Char) (c : Char) :
    convert c = [converted convert c] ∨
      (convert c).length ≠ 1 ∧ converted convert c = c := by
  rw [converted]
  match convert c with
  | [] => exact .inr ⟨by simp, rfl⟩
  | [_] => exact .inl rfl
  | _ :: _ :: _ => exact .inr ⟨by simp, rfl⟩

theorem convertChar_eq (convert : Char → List Char) (c : Char) :
    convertChar convert c = [converted convert c] := by
  rw [convertChar]
  rcases converted_cases convert c with single | ⟨other, kept⟩
  · rw [single]
    rfl
  · rw [kept, if_neg other]

theorem convertEach_eq (convert : Char → List Char) (text : String) :
    convertEach convert text = text.map (converted convert) := by
  have each : convertChar convert = fun c => [converted convert c] :=
    funext (convertChar_eq convert)
  rw [convertEach, each, ← String.toList_inj, String.toList_map, String.toList_ofList,
    List.map_eq_flatMap]

theorem recased_map (convert : Char → List Char) (text : String) :
    Recased convert text (text.map (converted convert)) := by
  rw [Recased, String.toList_map, List.forall₂_map_right_iff, List.forall₂_same]
  exact fun c _ => converted_cases convert c

end Text

def Value.recased (mapping : Char → Char) (value : Value) : Value :=
  .text (value.rendered.map mapping)

theorem Value.rendered_recased (mapping : Char → Char) (value : Value) :
    (value.recased mapping).rendered = value.rendered.map mapping := rfl

theorem Value.recased_text (mapping : Char → Char) (chars : List Char) :
    (text (String.ofList chars)).recased mapping = text (String.ofList (chars.map mapping)) := by
  rw [recased, rendered, text.injEq, ← String.toList_inj, String.toList_map, String.toList_ofList,
    String.toList_ofList]

namespace Builtin

/-- The mapping by which the builtin of a name changes case. -/
def casing? : String → Option (Char → List Char)
  | "upper" => some Text.upper
  | "lower" => some Text.lower
  | _ => none

theorem slice_map (mapping : Char → Char) (chars : List Char) (start : ℤ) (length : Option ℤ) :
    slice (chars.map mapping) start length = (slice chars start length).map mapping := by
  cases length with
  | none => simp only [slice, List.length_map, List.map_drop]
  | some length =>
      simp only [slice, List.length_map, List.length_drop, List.map_drop, List.map_take]

theorem join_recased (mapping : Char → Char) (values : List Value) :
    String.join ((values.map (Value.recased mapping)).map Value.rendered) =
      (String.join (values.map Value.rendered)).map mapping := by
  rw [← String.toList_inj, String.toList_map, String.toList_join, String.toList_join]
  simp only [List.flatMap_map, List.map_flatMap, Value.rendered_recased, String.toList_map]

end Builtin

namespace Evaluation

open Builtin Number

theorem yields_textual {name : String} {apply : String → String}
    (known : textual name apply ∈ standard) (value : Value) :
    Yields name [value] (.text (apply value.rendered)) := by
  have enough : (textual name apply).least ≤ [value].length := Nat.le_refl 1
  exact yields_of_reply known enough rfl

theorem yields_casing {name : String} {convert : Char → List Char}
    (changes : casing? name = some convert) (value : Value) :
    Yields name [value] (value.recased (Text.converted convert)) := by
  unfold casing? at changes
  split at changes
  · cases changes
    rw [Value.recased, ← Text.convertEach_eq]
    exact yields_textual (by simp [standard, Text.upperEach]) value
  · cases changes
    rw [Value.recased, ← Text.convertEach_eq]
    exact yields_textual (by simp [standard, Text.lowerEach]) value
  · simp at changes

theorem yields_len (value : Value) :
    Yields "len" [value] (.number (ofNat value.rendered.length)) := by
  have known : len ∈ standard := by simp [standard]
  have enough : len.least ≤ [value].length := Nat.le_refl 1
  exact yields_of_reply known enough rfl

theorem yields_concat (values : List Value) :
    Yields "concat" values (.text (String.join (values.map Value.rendered))) := by
  have known : concat ∈ standard := by simp [standard]
  have enough : concat.least ≤ values.length := Nat.zero_le _
  exact yields_of_reply known enough rfl

/-- Changing case maps each character by itself and keeps those without a single mapping. It keeps
the length of a text, and what is cut or joined behind the change is what is changed behind cutting
or joining. -/
theorem casing_laws {name : String} {convert : Char → List Char}
    (changes : casing? name = some convert) (value : Value) (values : List Value)
    {start length : Value} {x y : Float} (starts : start.toNumber? = some x)
    (lasts : length.toNumber? = some y) :
    ∃ changed, Yields name [value] (.text changed) ∧
      Text.Recased convert value.rendered changed ∧
      (∃ count, Yields "len" [value] count ∧ Yields "len" [.text changed] count) ∧
      (∃ part result, Yields "substr" [value, start, length] part ∧
        Yields name [part] result ∧ Yields "substr" [.text changed, start, length] result) ∧
      ∃ whole result others, Yields "concat" values whole ∧ Yields name [whole] result ∧
        List.Forall₂ (fun value other => Yields name [value] other) values others ∧
        Yields "concat" others result := by
  let mapping := Text.converted convert
  have changing := yields_casing changes
  refine ⟨value.rendered.map mapping, changing value, Text.recased_map convert _, ?_, ?_, ?_⟩
  · have counted := yields_len (value.recased mapping)
    rw [Value.rendered_recased, String.length_map] at counted
    exact ⟨_, yields_len value, counted⟩
  · have cut := yields_substr (value.recased mapping) starts lasts
    rw [Value.rendered_recased, String.toList_map, slice_map, ← Value.recased_text] at cut
    exact ⟨_, _, yields_substr value starts lasts, changing _, cut⟩
  · have joined := yields_concat (values.map (Value.recased mapping))
    rw [join_recased] at joined
    refine ⟨_, _, values.map (Value.recased mapping), yields_concat values, changing _, ?_, joined⟩
    rw [List.forall₂_map_right_iff, List.forall₂_same]
    exact fun other _ => changing other

theorem casing_laws_sigma :
    casing? "lower" = some Text.lower ∧ (Value.text "3.5").toNumber? = some 3.5 ∧
      (Value.truth true).toNumber? = some (ofNat 1) ∧
      (Text.lower 'İ').length = 2 ∧
      Yields "lower" [.text "ΟΔΟΣİ"] (.text "οδοσİ") ∧
      Text.Recased Text.lower "ΟΔΟΣİ" "οδοσİ" ∧
      (∃ count, Yields "len" [.text "ΟΔΟΣİ"] count ∧ Yields "len" [.text "οδοσİ"] count) ∧
      ∃ part result, Yields "substr" [.text "ΟΔΟΣİ", .text "3.5", .truth true] part ∧
        Yields "lower" [part] result ∧
        Yields "substr" [.text "οδοσİ", .text "3.5", .truth true] result := by
  have starts : (Value.text "3.5").toNumber? = some 3.5 := by decide +kernel
  have lasts : (Value.truth true).toNumber? = some (ofNat 1) := rfl
  obtain ⟨changed, yields, recased, counts, cuts, _⟩ := @casing_laws "lower" _ rfl (.text "ΟΔΟΣİ")
    [] _ _ _ _ starts lasts
  have mapped : "ΟΔΟΣİ".map (Text.converted Text.lower) = "οδοσİ" := by decide +kernel
  have lowered := @yields_casing "lower" _ rfl (.text "ΟΔΟΣİ")
  have same : (Value.text "ΟΔΟΣİ").recased (Text.converted Text.lower) = .text "οδοσİ" :=
    congrArg Value.text mapped
  rw [same] at lowered
  obtain rfl := Value.text.inj (yields.unique lowered)
  exact ⟨rfl, starts, lasts, by decide +kernel, yields, recased, counts, cuts⟩

end Evaluation

end Reckoner
