import Reckoner.Text.Lines

/-!
Joining lines and cutting the text again. Lines that hold no line break come back as they were, but
for an empty line at the end, which leaves no trace in the text. No line holds a line break, and a
text without one is a line as a whole. Unifying the newlines of a text first moves none of its line
breaks.
-/

namespace Reckoner.Text

theorem linesAfter_other {c : Char} (notReturn : c ≠ '\r') (line rest : List Char) :
    linesAfter line (c :: rest) =
      if isLineBreak c then line.reverse :: linesAfter [] rest
      else linesAfter (c :: line) rest :=
  linesAfter.eq_3 _ _ _ (by simp [notReturn])

theorem linesAfter_append {chars : List Char} (unbroken : ∀ c ∈ chars, isLineBreak c = false)
    (line rest : List Char) :
    linesAfter line (chars ++ rest) = linesAfter (chars.reverse ++ line) rest := by
  induction chars generalizing line with
  | nil => rfl
  | cons c chars ih =>
      have plain := unbroken c (by simp)
      have notReturn : c ≠ '\r' := by
        rintro rfl
        exact absurd plain (by decide)
      rw [List.cons_append, linesAfter_other notReturn, plain]
      simpa using ih (fun d member => unbroken d (by simp [member])) (c :: line)

theorem linesAfter_feed (line rest : List Char) :
    linesAfter line ('\n' :: rest) = line.reverse :: linesAfter [] rest := by
  have isBreak : isLineBreak '\n' = true := by decide
  rw [linesAfter_other (by decide), if_pos isBreak]

theorem linesAfter_intercalate {lines : List (List Char)}
    (unbroken : ∀ line ∈ lines, ∀ c ∈ line, isLineBreak c = false) :
    lines = linesAfter [] (['\n'].intercalate lines) ∨
      lines = linesAfter [] (['\n'].intercalate lines) ++ [[]] := by
  induction lines with
  | nil => exact .inl rfl
  | cons line rest ih =>
      have plain := unbroken line (by simp)
      cases rest with
      | nil =>
          have last := linesAfter_append plain [] []
          rw [List.append_nil, List.append_nil] at last
          rw [List.intercalate_singleton, last]
          cases line with
          | nil => exact .inr rfl
          | cons c line => exact .inl (by simp [linesAfter])
      | cons second rest =>
          have cut : linesAfter [] (['\n'].intercalate (line :: second :: rest)) =
              line :: linesAfter [] (['\n'].intercalate (second :: rest)) := by
            rw [List.intercalate_cons_cons, List.append_assoc, linesAfter_append plain,
              List.singleton_append, linesAfter_feed]
            simp
          rw [cut, List.cons_append, List.cons.injEq, List.cons.injEq]
          rcases ih (fun other member => unbroken other (by simp [member])) with same | same
          · exact .inl ⟨rfl, same⟩
          · exact .inr ⟨rfl, same⟩

theorem splitLines_intercalate {lines : List String}
    (unbroken : ∀ line ∈ lines, ∀ c ∈ line.toList, isLineBreak c = false) :
    lines = splitLines ("\n".intercalate lines) ∨
      lines = splitLines ("\n".intercalate lines) ++ [""] := by
  have chars : (lines.map String.toList).map String.ofList = lines := by simp
  have feed : "\n".toList = ['\n'] := by simp
  rw [splitLines, String.toList_intercalate, feed]
  have plain : ∀ line ∈ lines.map String.toList, ∀ c ∈ line, isLineBreak c = false := by
    simpa using unbroken
  rcases linesAfter_intercalate plain with same | same
  · have texts := congrArg (List.map String.ofList) same
    rw [chars] at texts
    exact .inl texts
  · have texts := congrArg (List.map String.ofList) same
    rw [chars, List.map_append] at texts
    exact .inr texts

-- The induction is on the unification, which reads a carriage return together with its line feed
-- just as the cutting does.
theorem linesAfter_unifyBreaks (line chars : List Char) :
    linesAfter line (unifyBreaks chars) = linesAfter line chars := by
  fun_induction unifyBreaks chars generalizing line with
  | case1 => rfl
  | case2 rest ih => rw [linesAfter_feed, linesAfter, ih]
  | case3 c rest alone ih =>
      split
      next isReturn =>
        have isBreak : isLineBreak c = true := by
          rw [isReturn]
          decide
        rw [linesAfter_feed, ih, linesAfter.eq_3 _ _ _ alone, if_pos isBreak]
      next other => rw [linesAfter_other other, linesAfter_other other, ih, ih]

theorem splitLines_unifyNewlines (text : String) :
    splitLines (unifyNewlines text) = splitLines text := by
  rw [splitLines, unifyNewlines, String.toList_ofList, linesAfter_unifyBreaks, splitLines]

theorem unbroken_of_mem_linesAfter {line chars other : List Char}
    (unbroken : ∀ c ∈ line, isLineBreak c = false) (isLine : other ∈ linesAfter line chars) :
    ∀ c ∈ other, isLineBreak c = false := by
  have nothing : ∀ c ∈ ([] : List Char), isLineBreak c = false := by simp
  have turned (line : List Char) (unbroken : ∀ c ∈ line, isLineBreak c = false) :
      ∀ c ∈ line.reverse, isLineBreak c = false := by
    simpa using unbroken
  fun_induction linesAfter line chars with
  | case1 line empty => simp at isLine
  | case2 line filled =>
      rw [List.mem_singleton] at isLine
      rw [isLine]
      exact turned line unbroken
  | case3 line rest ih =>
      rcases List.mem_cons.mp isLine with rfl | later
      · exact turned line unbroken
      · exact ih nothing later
  | case4 line c rest _ breaks ih =>
      rcases List.mem_cons.mp isLine with rfl | later
      · exact turned line unbroken
      · exact ih nothing later
  | case5 line c rest _ plain ih =>
      apply ih _ isLine
      rw [List.forall_mem_cons]
      exact ⟨Bool.eq_false_iff.mpr plain, unbroken⟩

theorem unbroken_of_mem_splitLines {text line : String} (isLine : line ∈ splitLines text) :
    ∀ c ∈ line.toList, isLineBreak c = false := by
  obtain ⟨chars, cut, rfl⟩ := List.mem_map.mp isLine
  rw [String.toList_ofList]
  exact unbroken_of_mem_linesAfter (by simp) cut

theorem splitLines_eq_singleton_iff {text : String} (filled : text ≠ "") :
    splitLines text = [text] ↔ ∀ c ∈ text.toList, isLineBreak c = false := by
  constructor
  · intro single
    have whole : text ∈ splitLines text := by
      rw [single]
      exact List.mem_singleton_self text
    exact unbroken_of_mem_splitLines whole
  · intro unbroken
    have passed := linesAfter_append unbroken [] []
    rw [List.append_nil, List.append_nil] at passed
    simp [splitLines, passed, linesAfter, filled]

end Reckoner.Text
