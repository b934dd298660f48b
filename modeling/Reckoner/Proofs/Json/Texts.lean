import Mathlib.Data.List.Chain
import Mathlib.Tactic.NthRewrite
import Mathlib.Tactic.SplitIfs
import Reckoner.Proofs.Json.Reading
import Reckoner.Text.Ascii

/-!
Texts in documents read back. Every character is written by one or two units, and the two of a
character beyond the first plane are a pair that no other characters make.
-/

namespace Reckoner.Json.Reader

open Text (unitEscape unitsOf asciiCode asciiQuoted)

theorem hexValue?_digitChar : ∀ digit < 16, hexValue? (Nat.digitChar digit) = some digit := by
  decide

theorem hexDigits_four (unit : Nat) : Text.hexDigits 4 unit =
    [Nat.digitChar (unit / 4096 % 16), Nat.digitChar (unit / 256 % 16),
      Nat.digitChar (unit / 16 % 16), Nat.digitChar (unit % 16)] := by
  simp [Text.hexDigits, Nat.div_div_eq_div_mul]

theorem unit?_hexDigits {unit : Nat} (fits : unit < 0x10000) :
    unit? (Nat.digitChar (unit / 4096 % 16)) (Nat.digitChar (unit / 256 % 16))
      (Nat.digitChar (unit / 16 % 16)) (Nat.digitChar (unit % 16)) = some unit := by
  have small (number : Nat) : number % 16 < 16 := Nat.mod_lt _ (by decide)
  simp only [unit?, hexValue?_digitChar _ (small _), Option.bind_eq_bind, Option.bind_some,
    Option.pure_def, Option.some.injEq]
  omega

def Codes (written : List Char) (codes : List Nat) : Prop :=
  ∀ rest, units (written ++ rest) =
    (units rest).map fun (later, after) => (codes ++ later, after)

theorem Codes.append {written further : List Char} {codes others : List Nat}
    (here : Codes written codes) (there : Codes further others) :
    Codes (written ++ further) (codes ++ others) := by
  intro rest
  rw [List.append_assoc, here, there, Option.map_map]
  simp [Function.comp_def]

theorem codes_nil : Codes [] [] := by
  intro rest
  simp

theorem codes_unitEscape {unit : Nat} (fits : unit < 0x10000) :
    Codes (unitEscape unit) [unit] := by
  intro rest
  rw [unitEscape, hexDigits_four]
  change units ('\x5c' :: 'u' :: _ :: _ :: _ :: _ :: rest) = _
  rw [units, unit?_hexDigits fits]
  cases units rest <;> rfl

theorem codes_escaped {c : Char} {code : Nat} (other : c ≠ 'u') (escaped : escaped? c = some code) :
    Codes [Text.backslash, c] [code] := by
  intro rest
  change units ('\x5c' :: c :: rest) = _
  rw [units, escaped]
  · cases units rest <;> rfl
  · rintro _ _ _ _ _ rfl
    exact absurd rfl other

theorem codes_plain {c : Char} (notQuote : c ≠ Text.doubleQuote) (notBackslash : c ≠ Text.backslash)
    (visible : 0x20 ≤ c.toNat) : Codes [c] [c.toNat] := by
  intro rest
  change units (c :: rest) = _
  rw [units]
  · rw [if_neg (Nat.not_lt.mpr visible)]
    cases units rest <;> rfl
  · rintro _ _ _ _ _ rfl
    exact absurd rfl notBackslash
  · rintro _ _ rfl
    exact absurd rfl notBackslash
  · rintro rfl
    exact absurd rfl notQuote

theorem unitsOf_fits (code : CodePoint) : ∀ unit ∈ unitsOf code, unit < 0x10000 := by
  have bound := code.isLt
  rw [unitsOf]
  split
  next short => simpa using short
  next long =>
    simp only [List.mem_cons, List.not_mem_nil, or_false, forall_eq_or_imp, forall_eq]
    omega

theorem codes_flatMap {units : List Nat} (fits : ∀ unit ∈ units, unit < 0x10000) :
    Codes (units.flatMap unitEscape) units := by
  induction units with
  | nil => exact codes_nil
  | cons unit rest ih =>
      rw [List.forall_mem_cons] at fits
      exact (codes_unitEscape fits.1).append (ih fits.2)

theorem toNat_ofNat {code : Nat} (valid : code.isValidChar) : (Char.ofNat code).toNat = code := by
  rw [Char.ofNat, dif_pos valid]
  rfl

theorem eq_toNat_of_ofNat {code : Nat} {c : Char} (same : Char.ofNat code = c)
    (filled : c.toNat ≠ 0) : code = c.toNat := by
  by_cases valid : code.isValidChar
  · rw [← same, toNat_ofNat valid]
  · rw [Char.ofNat, dif_neg valid] at same
    exact absurd (congrArg Char.toNat same.symm) filled

theorem codes_asciiCode (code : CodePoint) : Codes (asciiCode code) (unitsOf code) := by
  have small (short : code.val < 0x10000) : unitsOf code = [code.val] := if_pos short
  have single {c : Char} (same : Char.ofNat code = c) (filled : c.toNat ≠ 0)
      (short : c.toNat < 0x10000) : unitsOf code = [c.toNat] := by
    have value := eq_toNat_of_ofNat same filled
    rw [small (by omega), value]
  rw [asciiCode]
  split_ifs with marked feed carriage tabulator backspace formFeed plain
  · rcases marked with same | same
    · rw [same, single same (by decide) (by decide)]
      exact codes_escaped (by decide) rfl
    · rw [same, single same (by decide) (by decide)]
      exact codes_escaped (by decide) rfl
  · rw [single feed (by decide) (by decide)]
    exact codes_escaped (by decide) rfl
  · rw [single carriage (by decide) (by decide)]
    exact codes_escaped (by decide) rfl
  · rw [single tabulator (by decide) (by decide)]
    exact codes_escaped (by decide) rfl
  · rw [single backspace (by decide) (by decide)]
    exact codes_escaped (by decide) rfl
  · rw [single formFeed (by decide) (by decide)]
    exact codes_escaped (by decide) rfl
  · rw [not_or] at marked
    have valid : (code : Nat).isValidChar := .inl (by omega)
    have same : (Char.ofNat code).toNat = code := toNat_ofNat valid
    have visible : 0x20 ≤ (Char.ofNat code).toNat := by omega
    rw [small (by omega)]
    nth_rewrite 2 [← same]
    exact codes_plain marked.1 marked.2 visible
  · exact codes_flatMap (unitsOf_fits code)

theorem codes_text (codes : List CodePoint) :
    Codes (codes.flatMap asciiCode) (codes.flatMap fun code => unitsOf code.val) := by
  induction codes with
  | nil => exact codes_nil
  | cons code rest ih => exact (codes_asciiCode code).append ih

theorem joined_cons {code : Nat} {codes : List Nat}
    (apart : ∀ low ∈ codes.head?, ¬(isHigh code ∧ isLow low)) :
    joined (code :: codes) = Text.toCodePoint code :: joined codes := by
  cases codes with
  | nil => rfl
  | cons low rest =>
      rw [joined, if_neg]
      rw [Bool.and_eq_true]
      exact apart low rfl

theorem toCodePoint_val (code : CodePoint) : Text.toCodePoint code.val = code :=
  Fin.ext (Nat.mod_eq_of_lt code.isLt)

theorem joined_unitsOf {code : CodePoint} {codes : List Nat}
    (apart : ∀ low ∈ codes.head?, ¬(isHigh code.val ∧ isLow low)) :
    joined (unitsOf code.val ++ codes) = code :: joined codes := by
  have bound := code.isLt
  rw [unitsOf]
  split
  next short => rw [List.singleton_append, joined_cons apart, toCodePoint_val]
  next long =>
    have isPair : isHigh (0xD800 + (code.val - 0x10000) / 0x400) &&
        isLow (0xDC00 + (code.val - 0x10000) % 0x400) := by
      simp only [isHigh, isLow, Bool.and_eq_true, decide_eq_true_eq]
      omega
    have whole : 0x10000 + (0xD800 + (code.val - 0x10000) / 0x400 - 0xD800) * 0x400 +
        (0xDC00 + (code.val - 0x10000) % 0x400 - 0xDC00) = code.val := by
      omega
    rw [List.cons_append, List.singleton_append, joined, if_pos isPair, whole, toCodePoint_val]

end Reckoner.Json.Reader

namespace Reckoner

open Json.Reader

/-- No two surrogates of the text make a pair. -/
def Text.Unsplit (codes : List CodePoint) : Prop :=
  codes.IsChain fun high low => ¬(isHigh high.val ∧ isLow low.val)

namespace Text

instance (codes : List CodePoint) : Decidable (Unsplit codes) :=
  inferInstanceAs (Decidable (codes.IsChain _))

theorem val_codePoint (c : Char) : (codePoint c).val = c.toNat := by
  have valid : c.toNat.isValidChar := c.valid
  refine Nat.mod_eq_of_lt ?_
  rcases valid with low | ⟨_, high⟩ <;> omega

theorem isHigh_codePoint (c : Char) : isHigh (codePoint c).val = false := by
  have valid : c.toNat.isValidChar := c.valid
  rw [val_codePoint, isHigh, Bool.and_eq_false_iff, decide_eq_false_iff_not,
    decide_eq_false_iff_not]
  rcases valid with low | ⟨high, _⟩ <;> omega

theorem unsplit_codePoints (text : String) : Unsplit (codePoints text) := by
  rw [Unsplit, codePoints, List.isChain_map]
  refine (List.pairwise_of_forall fun high low => ?_).isChain
  rw [isHigh_codePoint]
  rintro ⟨⟨⟩, _⟩

end Text

namespace Json.Reader

open Text (Unsplit unitsOf asciiCode asciiQuoted)

theorem unitsOf_ne_nil (code : Nat) : unitsOf code ≠ [] := by
  rw [unitsOf]
  split <;> simp

theorem not_pair_of_unitsOf {high : CodePoint} {codes : List CodePoint}
    (apart : ∀ low ∈ codes.head?, ¬(isHigh high.val ∧ isLow low.val)) :
    ∀ low ∈ (codes.flatMap fun code => unitsOf code.val).head?, ¬(isHigh high.val ∧ isLow low) := by
  cases codes with
  | nil => simp
  | cons code rest =>
      have bound := code.isLt
      rw [List.flatMap_cons, List.head?_append_of_ne_nil _ (unitsOf_ne_nil code), unitsOf]
      split
      next short => simpa using apart code rfl
      next long =>
        rintro low ⟨⟩ ⟨_, isLow⟩
        rw [Json.Reader.isLow, Bool.and_eq_true, decide_eq_true_eq, decide_eq_true_eq] at isLow
        omega

theorem joined_text {codes : List CodePoint} (unsplit : Unsplit codes) :
    joined (codes.flatMap fun code => unitsOf code.val) = codes := by
  induction codes with
  | nil => rfl
  | cons code rest ih =>
      obtain ⟨first, others⟩ := List.isChain_cons.mp unsplit
      rw [List.flatMap_cons, joined_unitsOf (not_pair_of_unitsOf first), ih others]

theorem quoted_asciiQuoted {codes : List CodePoint} (unsplit : Unsplit codes) (rest : List Char) :
    quoted (asciiQuoted codes ++ rest) = some (codes, rest) := by
  have read : units (codes.flatMap asciiCode ++ Text.doubleQuote :: rest) =
      some (codes.flatMap fun code => unitsOf code.val, rest) := by
    rw [codes_text]
    simp [units, Text.doubleQuote]
  have opened := expect_append [Text.doubleQuote]
    (codes.flatMap asciiCode ++ Text.doubleQuote :: rest)
  have written : asciiQuoted codes ++ rest = [Text.doubleQuote] ++
      (codes.flatMap asciiCode ++ Text.doubleQuote :: rest) := by
    simp [asciiQuoted]
  rw [written, quoted, bind_some opened, bind_some read, joined_text unsplit]
  rfl

end Json.Reader

end Reckoner
