import Mathlib.Data.List.Forall2
import Reckoner.Proofs.Json.Numerals
import Reckoner.Proofs.Json.Texts

/-!
Lists and objects in documents read back if what stands in them does. No item starts with a space or
with a closing bracket, so the end of a block is told from its items by one character.
-/

namespace Reckoner.Json.Reader

variable {α : Type} {item : Reader α} {closing : Char} {rest : List Char}

/-- The reader takes what is written, whatever stands behind it. -/
def Reads (reader : Reader α) (written : List Char) (result : α) : Prop :=
  ∀ rest, Ended rest → reader (written ++ rest) = some (result, rest)

def isStart (c : Char) : Bool :=
  !isSpace c && c ≠ ']' && c ≠ '\x7d'

def Starts (reader : Reader α) : Prop :=
  ∀ chars result, reader chars = some result → ∃ c later, isStart c = true ∧ chars = c :: later

theorem Reads.start {written : List Char} {result : α} (starts : Starts item)
    (reads : Reads item written result) : ∃ c later, isStart c = true ∧ written = c :: later := by
  have done := reads [] (by simp [Ended])
  rw [List.append_nil] at done
  exact starts _ _ done

theorem value_of_number {chars : List Char} {result : Json × List Char}
    (done : number chars = some result) (depth : Nat) : value (depth + 1) chars = some result := by
  cases chars with
  | nil => contradiction
  | cons c later =>
      rw [value, bind_some (peek_cons c later)]
      split
      · contradiction
      · contradiction
      · contradiction
      · contradiction
      · contradiction
      · contradiction
      · exact done

theorem not_isStart {c : Char} (other : isStart c = false) :
    c = ' ' ∨ c = '\t' ∨ c = '\n' ∨ c = '\r' ∨ c = ']' ∨ c = '\x7d' := by
  by_contra absent
  simp only [not_or] at absent
  simp [isStart, isSpace, absent] at other

theorem starts_value (depth : Nat) : Starts (value depth) := by
  intro chars result done
  cases depth with
  | zero => contradiction
  | succ depth =>
      cases chars with
      | nil => contradiction
      | cons c later =>
          refine ⟨c, later, ?_, rfl⟩
          by_contra other
          rw [Bool.not_eq_true] at other
          rcases not_isStart other with rfl | rfl | rfl | rfl | rfl | rfl <;> contradiction

theorem starts_field (value : Reader Json) : Starts (field value) := by
  intro chars result done
  by_cases opened : ∃ later, chars = Text.doubleQuote :: later
  · obtain ⟨later, rfl⟩ := opened
    exact ⟨Text.doubleQuote, later, rfl, rfl⟩
  · have closed : quoted chars = none := by
      have missing : expect [Text.doubleQuote] chars = none :=
        expect_eq_none fun rest same => opened ⟨rest, same⟩
      simp [quoted, bind, StateT.bind, missing]
    simp [field, bind, StateT.bind, closed] at done

theorem skip_of_start {c : Char} (start : isStart c = true) (rest : List Char) :
    skip (c :: rest) = some ((), c :: rest) :=
  skip_of_clear (by simp_all [isStart]) rest

theorem skip_blank {c : Char} (start : isStart c = true) (rest : List Char) :
    skip (' ' :: c :: rest) = some ((), c :: rest) :=
  skip_of_start start rest

theorem reads_field {value : Reader Json} {written : List Char} {result : Json}
    {key : List CodePoint} (unsplit : Text.Unsplit key) (starts : Starts value)
    (reads : Reads value written result) :
    Reads (field value) (Text.asciiQuoted key ++ [':', ' '] ++ written) (key, result) := by
  obtain ⟨c, later, start, rfl⟩ := reads.start starts
  intro rest ended
  have name := quoted_asciiQuoted unsplit (':' :: ' ' :: c :: (later ++ rest))
  have content : value (c :: (later ++ rest)) = some (result, rest) := reads rest ended
  have text : Text.asciiQuoted key ++ [':', ' '] ++ c :: later ++ rest =
      Text.asciiQuoted key ++ ':' :: ' ' :: c :: (later ++ rest) := by simp
  rw [text, field, bind_some name, bind_some (skip_of_start rfl _), bind_some (expect_cons ':' _),
    bind_some (skip_blank start _), bind_some content]
  rfl

def behindCommas (items : List (List Char)) : List Char :=
  items.flatMap fun written => ',' :: ' ' :: written

theorem length_le_behindCommas (items : List (List Char)) :
    items.length ≤ (behindCommas items).length := by
  induction items with
  | nil => exact Nat.zero_le _
  | cons written items ih =>
      simp only [behindCommas, List.flatMap_cons, List.length_append, List.length_cons] at ih ⊢
      omega

theorem skip_closing (isClosing : closing = ']' ∨ closing = '\x7d') (rest : List Char) :
    skip (closing :: rest) = some ((), closing :: rest) := by
  rcases isClosing with rfl | rfl <;> rfl

theorem ended_behindCommas (isClosing : closing = ']' ∨ closing = '\x7d')
    (items : List (List Char)) (rest : List Char) :
    Ended (behindCommas items ++ closing :: rest) := by
  cases items with
  | nil => rcases isClosing with rfl | rfl <;> simp [Ended, behindCommas]
  | cons written items => simp [Ended, behindCommas]

theorem further_closing (isClosing : closing = ']' ∨ closing = '\x7d') (count : Nat) :
    further closing item (count + 1) (closing :: rest) = some ([], rest) := by
  rw [further, bind_some (skip_closing isClosing rest), bind_some (peek_cons closing rest),
    if_pos rfl, bind_some (expect_cons closing rest)]
  rfl

theorem further_item {written : List Char} {result : α} {results : List α}
    (isClosing : closing = ']' ∨ closing = '\x7d') (starts : Starts item)
    (reads : Reads item written result) {count : Nat} {after : List Char} (ended : Ended after)
    (later : further closing item count after = some (results, rest)) :
    further closing item (count + 1) (',' :: ' ' :: written ++ after) =
      some (result :: results, rest) := by
  obtain ⟨c, others, start, rfl⟩ := reads.start starts
  have other : ',' ≠ closing := by
    rcases isClosing with rfl | rfl <;> decide
  have first : item (c :: (others ++ after)) = some (result, after) := reads after ended
  rw [List.cons_append, List.cons_append, List.cons_append, further,
    bind_some (skip_of_start rfl _), bind_some (peek_cons ',' _), if_neg other,
    bind_some (expect_cons ',' _), bind_some (skip_blank start _), bind_some first,
    bind_some later]
  rfl

theorem further_reads (isClosing : closing = ']' ∨ closing = '\x7d') (starts : Starts item)
    {items : List (List Char)} {results : List α} (reads : List.Forall₂ (Reads item) items results)
    {count : Nat} (enough : items.length < count) :
    further closing item count (behindCommas items ++ closing :: rest) = some (results, rest) := by
  induction reads generalizing count with
  | nil =>
      obtain ⟨count, rfl⟩ : ∃ less, count = less + 1 := ⟨count - 1, by omega⟩
      exact further_closing isClosing count
  | @cons written result items results first _ ih =>
      obtain ⟨count, rfl⟩ : ∃ less, count = less + 1 := ⟨count - 1, by omega⟩
      have fewer : items.length < count := by simpa using enough
      have ended := ended_behindCommas isClosing items rest
      have done := further_item isClosing starts first ended (ih fewer)
      simpa [behindCommas] using done

theorem block_nil (isClosing : closing = ']' ∨ closing = '\x7d') (opening : Char) :
    block closing item opening (opening :: closing :: rest) = some ([], rest) := by
  rw [block, bind_some (expect_cons opening _),
    bind_some (skip_closing isClosing rest), bind_some (peek_cons closing rest), if_pos rfl,
    bind_some (expect_cons closing rest)]
  rfl

theorem block_cons {written : List Char} {result : α} {items : List (List Char)} {results : List α}
    (isClosing : closing = ']' ∨ closing = '\x7d') (starts : Starts item)
    (first : Reads item written result) (reads : List.Forall₂ (Reads item) items results)
    (opening : Char) :
    block closing item opening
      (opening :: (written ++ (behindCommas items ++ closing :: rest))) =
      some (result :: results, rest) := by
  obtain ⟨c, others, start, rfl⟩ := first.start starts
  have other : c ≠ closing := by
    rintro rfl
    rcases isClosing with rfl | rfl <;> contradiction
  have ended := ended_behindCommas isClosing items rest
  have enough : items.length < (behindCommas items ++ closing :: rest).length := by
    have bound := length_le_behindCommas items
    simp only [List.length_append, List.length_cons]
    omega
  have later : further closing item _ (behindCommas items ++ closing :: rest) =
      some (results, rest) := further_reads isClosing starts reads enough
  have done : item (c :: (others ++ (behindCommas items ++ closing :: rest))) =
      some (result, behindCommas items ++ closing :: rest) := first _ ended
  rw [List.cons_append, block, bind_some (expect_cons opening _), bind_some (skip_of_start start _),
    bind_some (peek_cons c _), if_neg other, bind_some done]
  have remaining (chars : List Char) : (get : Reader (List Char)) chars = some (chars, chars) := rfl
  rw [bind_some (remaining _), bind_some later]
  rfl

end Reckoner.Json.Reader
