import Reckoner.Proofs.Session.Constants
import Reckoner.Proofs.Session.Transcript
import Reckoner.Proofs.Token.Tiling

/-!
Texts that are run as one line. For the scanner only a line feed ends a line, but a batch cuts its
text at ten characters. Where a text holds none of them, the batch does what a fresh session does
with the text as a line; where it holds one of the other nine, the text may be cut in the middle of
a quoted text or of a comment.
-/

namespace Reckoner

open Token Grammar

namespace Text

/-- The line breaks besides the line feed and the carriage return. -/
def rareBreakCodes : List Nat :=
  [0xB, 0xC, 0x1C, 0x1D, 0x1E, 0x85, 0x2028, 0x2029]

theorem isLineBreak_iff {c : Char} (notFeed : c ≠ '\n') (notReturn : c ≠ '\r') :
    isLineBreak c = true ↔ c.toNat ∈ rareBreakCodes := by
  have feed : c.toNat ≠ 0xA := fun same => notFeed (Char.toNat_inj.mp same)
  have carriage : c.toNat ≠ 0xD := fun same => notReturn (Char.toNat_inj.mp same)
  simp [isLineBreak, lineBreakCodes, rareBreakCodes, feed, carriage]

end Text

theorem Place.line_behind {text : List Char} (noFeed : '\n' ∉ text) : (behind text).line = 1 := by
  simp [behind, List.count_eq_zero_of_not_mem noFeed]

theorem Token.line_of_scan {text : String} (noFeed : '\n' ∉ text.toList) {tokens : List Token}
    (scanned : scan text = .ok tokens) : ∀ token ∈ tokens, token.place.line = 1 := by
  obtain ⟨tiles, last, tiling, rfl⟩ := @tiling_of_scanFrom [] text.toList tokens scanned
  intro token member
  rw [List.mem_append, List.mem_map, List.mem_singleton] at member
  rcases member with ⟨tile, member, rfl⟩ | rfl
  · obtain ⟨earlier, later, rfl⟩ := List.append_of_mem member
    rw [(tiling.fits earlier tile later rfl).place]
    apply Place.line_behind
    intro feed
    apply noFeed
    rw [tiling.whole]
    simp only [sources, Tile.source, List.flatMap_append, List.flatMap_cons,
      List.mem_append] at feed ⊢
    tauto
  · exact Place.line_behind noFeed

namespace Batch

/-- The text is run as one line: the run ends as the line does in a fresh session, and it prints
what the line prints and then its result. -/
def RunsAsLine (text : String) : Prop :=
  (∀ result after, Line.run text .fresh = (.ok result, after) →
    ∃ final, run .result text .fresh = (.ok (), final) ∧
      final.printed = after.printed ++ (result.result?.map (· ++ "\n")).getD "") ∧
  ∀ fault after, Line.run text .fresh = (.error fault, after) →
    ∃ final, run .result text .fresh = (.error fault, final) ∧ final.printed = after.printed

theorem printed_report (result : Value) (session : Session) :
    (Line.report result session).printed =
      session.printed ++ (result.result?.map (· ++ "\n")).getD "" := by
  rw [Line.report]
  cases result.result? with
  | none => simp
  | some shown => rfl

theorem runsAsLine_of_single {text : String} (filled : Text.isAllBlank text = false)
    (single : Text.splitLines text = [text]) : RunsAsLine text := by
  have ran : run .result text .fresh = runLines .result 1 [text] .fresh := by rw [run, single]
  rw [runLines_filled filled] at ran
  generalize noted : Session.fresh.note (.lineRead 1 text) = started at ran
  have silent : Line.run text started =
      ((Line.run text .fresh).1, started.before (Line.run text .fresh).2) := by
    rw [← noted]
    exact Line.appends_run text _
  have printed (after : Session) : (started.before after).printed = after.printed := by
    rw [← noted]
    exact String.empty_append
  constructor
  · intro result after done
    rw [done] at silent
    rw [silent] at ran
    exact ⟨_, ran, by rw [printed_report, printed]⟩
  · intro fault after failed
    rw [failed] at silent
    rw [silent] at ran
    exact ⟨_, ran, printed after⟩

/-- A text without line feeds and carriage returns is one line for the scanner. A batch takes it for
one just if it holds no other line break either, and then runs it as a line. -/
theorem run_single_line {text : String} (filled : Text.isAllBlank text = false)
    (noFeed : '\n' ∉ text.toList) (noReturn : '\r' ∉ text.toList) :
    (∀ tokens, scan text = .ok tokens → ∀ token ∈ tokens, token.place.line = 1) ∧
    (Text.splitLines text = [text] ↔ ∀ c ∈ text.toList, c.toNat ∉ Text.rareBreakCodes) ∧
    ((∀ c ∈ text.toList, c.toNat ∉ Text.rareBreakCodes) → RunsAsLine text) := by
  have nonempty : text ≠ "" := by
    rintro rfl
    exact absurd filled (by decide)
  have rare : (∀ c ∈ text.toList, Text.isLineBreak c = false) ↔
      ∀ c ∈ text.toList, c.toNat ∉ Text.rareBreakCodes := by
    apply forall₂_congr
    intro c member
    rw [← Text.isLineBreak_iff (ne_of_mem_of_not_mem member noFeed)
      (ne_of_mem_of_not_mem member noReturn), Bool.not_eq_true]
  have single := (Text.splitLines_eq_singleton_iff nonempty).trans rare
  refine ⟨fun _ scanned => Token.line_of_scan noFeed scanned, single, ?_⟩
  intro unbroken
  exact runsAsLine_of_single filled (single.mpr unbroken)

theorem run_single_line_separated :
    Text.splitLines "'a\x1fb' // c" = ["'a\x1fb' // c"] ∧ RunsAsLine "'a\x1fb' // c" := by
  have checked : "'a\x1fb' // c".toList.all (!Text.rareBreakCodes.contains ·.toNat) = true := by
    decide
  have plain : ∀ c ∈ "'a\x1fb' // c".toList, c.toNat ∉ Text.rareBreakCodes := by
    simpa only [List.all_eq_true, Bool.not_eq_true', List.contains_eq_mem,
      decide_eq_false_iff_not] using checked
  obtain ⟨_, single, runs⟩ := @run_single_line "'a\x1fb' // c" (by decide) (by decide) (by decide)
  exact ⟨single.mpr plain, runs plain⟩

end Batch

namespace Line

variable {line content : String} {place : Place}

theorem tree_of_text {closing : Place}
    (scanned : scan line = .ok [⟨.text, content, place⟩, finish closing]) :
    tree line = .ok (some (.node .text (.text content) place [])) := by
  have derived : Statement Parser.nestingBudget [⟨.text, content, place⟩] _ :=
    .expression (Derives.chain (.plain (.text rfl)) 0)
  exact tree_of_separated scanned rfl derived.separated

theorem run_of_text (read : tree line = .ok (some (.node .text (.text content) place [])))
    (session : Session) :
    run line session = (.ok (.text content), session.note (.lineRun line)) := by
  rw [run_of_tree read]
  rfl

end Line

/-- A form feed in a quoted text is a character of that text, but a batch ends the line there. So it
prints two results in place of one. -/
theorem Batch.formFeed_cut :
    Text.isAllBlank "'a\x0cb'" = false ∧
      '\n' ∉ "'a\x0cb'".toList ∧ '\r' ∉ "'a\x0cb'".toList ∧
      Line.run "'a\x0cb'" .fresh =
        (.ok (.text "a\x0cb"), Session.fresh.note (.lineRun "'a\x0cb'")) ∧
      (∃ final, Batch.run .result "'a\x0cb'" .fresh = (.ok (), final) ∧
        final.printed = "a\n\n") ∧
      ¬Batch.RunsAsLine "'a\x0cb'" := by
  have whole : Line.tree "'a\x0cb'" = .ok (some (.node .text (.text "a\x0cb") ⟨1, 1⟩ [])) := by
    apply Line.tree_of_text
    rw [scan, scanFrom_of_next rfl, if_neg (by decide), scanFrom_of_next rfl]
    rfl
  have front : Line.tree "'a" = .ok (some (.node .text (.text "a") ⟨1, 1⟩ [])) := by
    apply Line.tree_of_text
    rw [scan, scanFrom_of_next rfl, if_neg (by decide), scanFrom_of_next rfl]
    rfl
  have back : Line.tree "b'" = .ok (some (.node .text (.text "") ⟨1, 2⟩ [])) := by
    have scanned : scan "b'" =
        .ok [⟨.name, "b", ⟨1, 1⟩⟩, ⟨.text, "", ⟨1, 2⟩⟩, finish ⟨1, 3⟩] := by
      rw [scan, scanFrom_of_next rfl, if_neg (by decide), scanFrom_of_next rfl,
        if_neg (by decide), scanFrom_of_next rfl]
      rfl
    have name : Statement Parser.nestingBudget [⟨.name, "b", ⟨1, 1⟩⟩] _ :=
      .expression (Derives.chain (.plain (.name rfl rfl)) 0)
    have text : Statement Parser.nestingBudget [⟨.text, "", ⟨1, 2⟩⟩] _ :=
      .expression (Derives.chain (.plain (.text rfl)) 0)
    exact Line.tree_of_separated scanned rfl
      (.bare name (Parser.Stops.before_other rfl (by decide)) text.separated)
  have cut : Text.splitLines "'a\x0cb'" = ["'a", "b'"] := by decide
  have ran : ∃ final, Batch.run .result "'a\x0cb'" .fresh = (.ok (), final) ∧
      final.printed = "a\n\n" := by
    rw [Batch.run, cut, runLines_filled (by decide), Line.run_of_text front]
    dsimp only
    rw [runLines_filled (by decide), Line.run_of_text back]
    exact ⟨_, rfl, by decide +kernel⟩
  have alone := Line.run_of_text whole .fresh
  refine ⟨by decide, by decide, by decide, alone, ran, ?_⟩
  intro runs
  obtain ⟨final, ended, printed⟩ := ran
  obtain ⟨other, endedAlone, printedAlone⟩ := runs.1 _ _ alone
  obtain ⟨_, rfl⟩ := Prod.mk.inj (ended.symm.trans endedAlone)
  rw [printed] at printedAlone
  exact absurd printedAlone (by decide +kernel)

end Reckoner
