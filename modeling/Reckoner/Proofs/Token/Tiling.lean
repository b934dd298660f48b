import Mathlib.Data.List.Induction
import Reckoner.Proofs.Token.Pieces

/-!
Tokens tile their text. Every token but the closing one stands for a lexeme, and gaps and lexemes in
turn make up the whole text. The place of a token counts the lines and columns up to its lexeme.
The scanner succeeds just if there is such a tiling, and then answers with its tokens.
-/

namespace Reckoner

/-- The place behind a text, by its line feeds and by what follows the last of them. -/
def Place.behind (text : List Char) : Place :=
  ⟨1 + text.count '\n', 1 + (text.reverse.takeWhile (· ≠ '\n')).length⟩

theorem Place.passing_append (place : Place) (front back : List Char) :
    place.passing (front ++ back) = (place.passing front).passing back :=
  List.foldl_append

theorem Place.passing_start (text : List Char) : Place.start.passing text = .behind text := by
  induction text using List.reverseRecOn with
  | nil => rfl
  | append_singleton text c ih =>
      rw [passing_append, ih]
      change (behind text).next c = _
      by_cases feed : c = '\n'
      · have line : (1 : Int) + text.count '\n' + 1 = 1 + (text.count '\n' + 1 : Nat) := by omega
        simp [next, behind, feed, line]
      · have column (width : Nat) : (1 : Int) + width + 1 = 1 + (width + 1 : Nat) := by omega
        simp [next, behind, feed, column]

theorem Place.behind_passing (before text : List Char) :
    (behind before).passing text = behind (before ++ text) := by
  rw [← passing_start, ← passing_start, passing_append]

namespace Token

structure Tile where
  gap : List Char
  lexeme : List Char
  token : Token

def Tile.source (tile : Tile) : List Char :=
  tile.gap ++ tile.lexeme

def sources (tiles : List Tile) : List Char :=
  tiles.flatMap Tile.source

structure Tile.Fits (before : List Char) (tile : Tile) (rest : List Char) : Prop where
  gap : Skipped (tile.lexeme ++ rest) tile.gap
  notComment : ¬['/', '/'] <+: tile.lexeme ++ rest
  filled : tile.lexeme ≠ []
  cut : Cut rest tile.lexeme tile.token.kind tile.token.text.toList
  place : tile.token.place = .behind (before ++ tile.gap)

/-- The text that stands behind `before` is made up of tiles and of a last gap. -/
structure Tiling (before source : List Char) (tiles : List Tile) (last : List Char) : Prop where
  whole : source = sources tiles ++ last
  fits : ∀ earlier tile later, tiles = earlier ++ tile :: later →
    tile.Fits (before ++ sources earlier) (sources later ++ last)
  ends : Skipped [] last

theorem tiling_nil {before source last : List Char} :
    Tiling before source [] last ↔ source = last ∧ Skipped [] last := by
  constructor
  · intro tiling
    exact ⟨tiling.whole, tiling.ends⟩
  · rintro ⟨rfl, skipped⟩
    exact ⟨rfl, by simp, skipped⟩

theorem tiling_cons {before source last : List Char} {tile : Tile} {tiles : List Tile} :
    Tiling before source (tile :: tiles) last ↔
      ∃ rest, source = tile.source ++ rest ∧ tile.Fits before rest ∧
        Tiling (before ++ tile.source) rest tiles last := by
  constructor
  · rintro ⟨whole, fits, ends⟩
    refine ⟨sources tiles ++ last, by simp [whole, sources], ?_, rfl, ?_, ends⟩
    · simpa [sources] using fits [] tile tiles rfl
    · intro earlier other later split
      simpa [sources] using fits (tile :: earlier) other later (by simp [split])
  · rintro ⟨rest, rfl, first, whole, fits, ends⟩
    refine ⟨by simp [whole, sources], ?_, ends⟩
    intro earlier other later split
    cases earlier with
    | nil =>
        obtain ⟨rfl, rfl⟩ := List.cons.inj split
        rw [← whole]
        simpa [sources] using first
    | cons _ earlier =>
        obtain ⟨rfl, same⟩ := List.cons.inj split
        simpa [sources] using fits earlier other later same

theorem next_tile {before chars : List Char} {token : Token} {after : Reading}
    (read : next ⟨.behind before, chars⟩ = (.ok token, after)) :
    (Skipped [] chars ∧ token = finish (.behind (before ++ chars))) ∨
    ∃ (tile : Tile) (rest : List Char), chars = tile.source ++ rest ∧ tile.Fits before rest ∧
      token = tile.token ∧ after = ⟨.behind (before ++ tile.source), rest⟩ := by
  rcases next_cases read with ⟨skipped, same⟩ |
    ⟨gap, lexeme, rest, text, rfl, skipped, notComment, cut, same, arrived⟩
  · rw [Place.behind_passing] at same
    exact .inl ⟨skipped, same⟩
  · rw [Place.behind_passing] at same arrived
    rw [Place.behind_passing] at arrived
    obtain ⟨c, tail, starts, _⟩ := cut.start
    refine .inr ⟨⟨gap, lexeme, token⟩, rest, by simp [Tile.source],
      ⟨skipped, notComment, ?_, ?_, ?_⟩, rfl, by simp [arrived, Tile.source]⟩
    · simp [starts]
    · rw [same]
      simpa using cut
    · rw [same]

theorem Tile.Fits.next {before rest : List Char} {tile : Tile} (fits : tile.Fits before rest) :
    Token.next ⟨.behind before, tile.source ++ rest⟩ =
      (.ok tile.token, ⟨.behind (before ++ tile.source), rest⟩) := by
  have read := next_of_cut fits.gap fits.notComment fits.cut (.behind before)
  rw [Place.behind_passing, Place.behind_passing, ← fits.place, String.ofList_toList] at read
  simpa [Tile.source] using read

theorem tiling_of_scanFrom {before source : List Char} {tokens : List Token}
    (scanned : scanFrom ⟨.behind before, source⟩ = .ok tokens) :
    ∃ tiles last, Tiling before source tiles last ∧
      tokens = tiles.map Tile.token ++ [finish (.behind (before ++ source))] := by
  generalize size : source.length = length
  induction length using Nat.strongRecOn generalizing before source tokens with
  | ind length ih =>
      obtain ⟨token, after, read⟩ := next_of_scanFrom scanned
      rcases next_tile read with ⟨skipped, rfl⟩ | ⟨tile, rest, rfl, fits, rfl, rfl⟩
      · rw [scanFrom_of_next read] at scanned
        simp only [finish, if_true, Except.ok.injEq] at scanned
        exact ⟨[], source, tiling_nil.mpr ⟨rfl, skipped⟩, by simp [← scanned, finish]⟩
      · obtain ⟨more, others, rfl⟩ := scanFrom_uncons read fits.cut.kind_ne scanned
        have positive := List.length_pos_iff.mpr fits.filled
        have shorter : rest.length < length := by
          simp only [Tile.source, List.length_append] at size
          omega
        obtain ⟨tiles, last, tiling, same⟩ := ih rest.length shorter others rfl
        exact ⟨tile :: tiles, last, tiling_cons.mpr ⟨rest, rfl, fits, tiling⟩, by simp [same]⟩

theorem scanFrom_of_tiling {before source last : List Char} {tiles : List Tile}
    (tiling : Tiling before source tiles last) :
    scanFrom ⟨.behind before, source⟩ =
      .ok (tiles.map Tile.token ++ [finish (.behind (before ++ source))]) := by
  induction tiles generalizing before source with
  | nil =>
      obtain ⟨rfl, skipped⟩ := tiling_nil.mp tiling
      have read := next_of_skipped skipped (.behind before)
      rw [Place.behind_passing] at read
      rw [scanFrom_of_next read]
      simp [finish]
  | cons tile tiles ih =>
      obtain ⟨rest, rfl, fits, others⟩ := tiling_cons.mp tiling
      rw [scanFrom_of_next fits.next, if_neg fits.cut.kind_ne, ih others]
      simp [Except.map]

theorem Tile.Fits.not_skipped {before rest : List Char} {tile : Tile}
    (fits : tile.Fits before rest) : ¬Skipped [] (tile.source ++ rest) := by
  intro skipped
  have read := fits.next
  rw [next_of_skipped skipped, Prod.mk.injEq, Except.ok.injEq] at read
  exact fits.cut.kind_ne (congrArg Token.kind read.1.symm)

theorem Tile.Fits.unique {before rest others : List Char} {tile other : Tile}
    (fits : tile.Fits before rest) (fitsOther : other.Fits before others)
    (same : tile.source ++ rest = other.source ++ others) : tile = other ∧ rest = others := by
  have read := fits.next
  rw [same, fitsOther.next] at read
  simp only [Prod.mk.injEq, Except.ok.injEq, Reading.mk.injEq] at read
  obtain ⟨token, _, rfl⟩ := read
  have taken := takeGap_of_skipped fits.gap (fits.cut.clear fits.notComment)
  rw [← List.append_assoc, ← Tile.source, same, Tile.source, List.append_assoc,
    takeGap_of_skipped fitsOther.gap (fitsOther.cut.clear fitsOther.notComment),
    Prod.mk.injEq] at taken
  obtain ⟨gap, lexeme⟩ := taken
  refine ⟨?_, rfl⟩
  obtain ⟨_, _, _⟩ := tile
  obtain ⟨_, _, _⟩ := other
  rw [Tile.mk.injEq]
  exact ⟨gap.symm, (List.append_cancel_right lexeme).symm, token.symm⟩

theorem Tiling.unique {before source last ending : List Char} {tiles others : List Tile}
    (tiling : Tiling before source tiles last) (tilingOther : Tiling before source others ending) :
    tiles = others ∧ last = ending := by
  induction tiles generalizing before source others with
  | nil =>
      obtain ⟨rfl, skipped⟩ := tiling_nil.mp tiling
      cases others with
      | nil => exact ⟨rfl, (tiling_nil.mp tilingOther).1⟩
      | cons other others =>
          obtain ⟨rest, rfl, fits, _⟩ := tiling_cons.mp tilingOther
          exact absurd skipped fits.not_skipped
  | cons tile tiles ih =>
      obtain ⟨rest, rfl, fits, further⟩ := tiling_cons.mp tiling
      cases others with
      | nil =>
          obtain ⟨same, skipped⟩ := tiling_nil.mp tilingOther
          exact absurd (same ▸ skipped) fits.not_skipped
      | cons other others =>
          obtain ⟨later, same, fitsOther, furtherOther⟩ := tiling_cons.mp tilingOther
          obtain ⟨rfl, rfl⟩ := fits.unique fitsOther same
          obtain ⟨rfl, rfl⟩ := ih further furtherOther
          exact ⟨rfl, rfl⟩

theorem tiles_of_scan {source : String} {tokens : List Token} (scanned : scan source = .ok tokens) :
    ∃ tiles last, Tiling [] source.toList tiles last ∧
      tokens = tiles.map Tile.token ++ [finish (.behind source.toList)] ∧
      ∀ tile ∈ tiles, tile.token.kind ≠ .finish := by
  obtain ⟨tiles, last, tiling, same⟩ := @tiling_of_scanFrom [] source.toList tokens scanned
  refine ⟨tiles, last, tiling, same, ?_⟩
  intro tile member
  obtain ⟨earlier, later, split⟩ := List.append_of_mem member
  exact (tiling.fits earlier tile later split).cut.kind_ne

/-- A text is cut into tokens just if it is a tiling by them. The closing token stands once, at the
end, and has the place where the text ends. -/
theorem scan_eq_ok_iff_tiling (source : String) (tokens : List Token) :
    scan source = .ok tokens ↔ ∃ tiles last, Tiling [] source.toList tiles last ∧
      tokens = tiles.map Tile.token ++ [finish (.behind source.toList)] ∧
      ∀ tile ∈ tiles, tile.token.kind ≠ .finish := by
  constructor
  · exact tiles_of_scan
  · rintro ⟨tiles, last, tiling, rfl, _⟩
    exact scanFrom_of_tiling tiling

theorem scan_eq_ok_iff_tiling_escapes :
    scan "'a\\n\\t\\'b\\q' // c" = .ok [⟨.text, "a\n\t'bq", ⟨1, 1⟩⟩, finish ⟨1, 18⟩] := by
  let tile : Tile := ⟨[], "'a\\n\\t\\'b\\q'".toList, ⟨.text, "a\n\t'bq", ⟨1, 1⟩⟩⟩
  have body : Body Text.apostrophe "a\\n\\t\\'b\\q".toList "a\n\t'bq".toList :=
    .plain (by decide) (by decide) (.lineFeed (.tab (.literal (by decide) (by decide)
      (.plain (by decide) (by decide) (.literal (by decide) (by decide) .nil)))))
  have fits : tile.Fits [] " // c".toList :=
    { gap := .nil
      notComment := by decide
      filled := by decide
      cut := .text rfl body (.inl rfl)
      place := by decide }
  have ends : Skipped [] " // c".toList :=
    .blank (by decide) (@Skipped.comment _ " c".toList [] (by decide) (by simp) .nil)
  have tiling : Tiling [] "'a\\n\\t\\'b\\q' // c".toList [tile] " // c".toList :=
    tiling_cons.mpr ⟨_, by decide, fits, tiling_nil.mpr ⟨rfl, ends⟩⟩
  refine (scan_eq_ok_iff_tiling _ _).mpr ⟨[tile], _, tiling, by decide, ?_⟩
  intro other member
  obtain rfl := List.mem_singleton.mp member
  decide

end Token

end Reckoner
