import Reckoner.CommandLine
import Reckoner.Proofs.Session.Transcript

/-!
Where the text to run comes from makes no difference. Reading a file unifies the newlines of the
text that it holds, and cutting that text into lines gives what the text itself is cut into: the
same lines with the same numbers, hence the same run.
-/

namespace Reckoner

theorem Batch.run_unifyNewlines (mode : Batch.Mode) (text : String) :
    Batch.run mode (Text.unifyNewlines text) = Batch.run mode text := by
  rw [Batch.run, Text.splitLines_unifyNewlines, Batch.run]

namespace CommandLine

theorem load_encoded {file? : String → Option ByteArray} {name text : String}
    (named : suffix.toList <:+ name.toList) (held : file? name = some text.toUTF8) :
    load file? (.file name) = .ok (Text.unifyNewlines text) := by
  have decoded : String.fromUTF8? text.toUTF8 = some text := dif_pos text.isValidUTF8
  rw [load, if_pos (List.isSuffixOf_iff_suffix.mpr named), held]
  simp only [decode, decoded]

/-- A file is run like the text that it holds, whatever is to be shown of the lines. The two runs
end alike, in the same session, so that they also print alike and log alike, line numbers
included. -/
theorem runSource_file (file? : String → Option ByteArray) (name text : String)
    (named : suffix.toList <:+ name.toList) (held : file? name = some text.toUTF8)
    (mode : Batch.Mode) :
    (∃ read, load file? (.file name) = .ok read ∧ Batch.run mode read = Batch.run mode text) ∧
    ∀ verbose, runSource file? mode (.file name) verbose =
      runSource file? mode (.text text) verbose := by
  have read := load_encoded named held
  have same := Batch.run_unifyNewlines mode text
  refine ⟨⟨_, read, same⟩, ?_⟩
  intro verbose
  have given : load file? (.text text) = .ok text := rfl
  simp only [runSource, read, given, runText, same]

theorem runSource_file_fourth_line :
    runSource (fun _ => some "\r\n\n\r?".toUTF8) .result (.file "sums.seals") true =
      ⟨.exit 1, "", "DEBUG seals.seals_cli: line 4: ?\nDEBUG seals.seals_session: run '?'\n" ++
        "Error: Unrecognized char: '?' at line 1, col 1\n"⟩ := by
  have alike := (runSource_file (fun _ => some "\r\n\n\r?".toUTF8) "sums.seals" _ (by decide) rfl
    .result).2 true
  have lines : Text.splitLines "\r\n\n\r?" = ["", "", "", "?"] := by decide
  have blank : Text.isAllBlank "" = true := by decide
  have ran : Batch.run .result "\r\n\n\r?" .fresh = (.error (.scan (.unrecognized '?' .start)),
      (Session.fresh.note (.lineRead 4 "?")).note (.lineRun "?")) := by
    rw [Batch.run, lines, Batch.runLines_blank blank, Batch.runLines_blank blank,
      Batch.runLines_blank blank, Batch.runLines_filled (by decide), Line.run_of_unread Line.tree_question_mark]
  rw [alike, runSource]
  simp only [load, runText, ran]
  exact congrArg (Outcome.mk (.exit 1) "") (by decide +kernel)

end CommandLine

end Reckoner
