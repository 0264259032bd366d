import HdlLex.Proofs.LineTable
import HdlLex.Proofs.Moves

/-!
# Line starts — the line table and the cursor

A source file knows where its lines start. The starts cut the text into pieces
that hold a line feed each, the last one apart, and a line is a piece without
its terminator: a part of the text between line feeds, less the carriage
returns at its end. A cursor knows nothing of the table and counts line feeds
and characters as it moves. The line that it counts is the one in which it lies
by the starts, and its column is its distance from there.

* `SourceFile.lineSlice?` — the text between the start of a line and the next.
* `SourceFile.IsCutAtStarts`, `SourceFile.FindsLines` — what the table says of
  the text.
* `SourceFile.Locates` — a cursor whose line and column are those of the table.

Main results:

* `Text.map_trimLineEnd_linePieces` — lines are the parts between line feeds.
* `SourceFile.lineSlice?_eq` — between two starts lies one piece.
* `SourceFile.locates_of_reached` — cursor and table agree at every place.
* `line_table_exact` — all of it, for every text and all moves.
-/

namespace HdlLex

namespace Text

-- ---------------------------------------------------------------------------
-- Pieces
-- ---------------------------------------------------------------------------

/-- A piece holds a line feed at its end or none at all. -/
theorem exists_of_mem_linePieces {cs piece : List Char} (h : piece ∈ linePieces cs) :
    ∃ line, '\n' ∉ line ∧ (piece = line ∨ piece = line ++ ['\n']) := by
  induction cs generalizing piece with
  | nil => exact ⟨[], List.not_mem_nil, Or.inl (List.mem_singleton.1 h)⟩
  | cons c cs ih =>
    by_cases hFeed : c = '\n'
    · subst hFeed
      rw [linePieces_feed, List.mem_cons] at h
      rcases h with rfl | hLater
      · exact ⟨[], List.not_mem_nil, Or.inr rfl⟩
      · exact ih hLater
    · obtain ⟨first, pieces, hPieces, hMore⟩ := exists_linePieces_cons hFeed cs
      rw [hPieces] at ih
      rw [hMore, List.mem_cons] at h
      rcases h with rfl | hLater
      · obtain ⟨line, hNone, hPiece⟩ := ih List.mem_cons_self
        have hNone' : '\n' ∉ c :: line := by simp [hNone, Ne.symm hFeed]
        exact ⟨c :: line, hNone', hPiece.imp (congrArg (c :: ·)) (congrArg (c :: ·))⟩
      · exact ih (List.mem_cons_of_mem first hLater)

/-- Only the last piece may be empty. -/
theorem ne_nil_of_mem_dropLast {cs piece : List Char} (h : piece ∈ (linePieces cs).dropLast) :
    piece ≠ [] := by
  induction cs with
  | nil => cases h
  | cons c cs ih =>
    by_cases hFeed : c = '\n'
    · subst hFeed
      rw [linePieces_feed, List.dropLast_cons_of_ne_nil (linePieces_ne_nil cs), List.mem_cons] at h
      rcases h with rfl | hLater
      · exact List.cons_ne_nil _ _
      · exact ih hLater
    · obtain ⟨first, pieces, hPieces, hMore⟩ := exists_linePieces_cons hFeed cs
      rw [hPieces] at ih
      rw [hMore] at h
      cases pieces with
      | nil => cases h
      | cons second pieces =>
        rw [List.dropLast_cons_cons, List.mem_cons] at h
        rcases h with rfl | hLater
        · exact List.cons_ne_nil _ _
        · exact ih (List.mem_cons_of_mem first hLater)

/-- What stands before a place are the pieces before its line, and what is before it on the line. -/
theorem flatten_take_linePieces (before ahead : List Char) :
    ((linePieces (before ++ ahead)).take (before.count '\n')).flatten ++ onLine before =
      before := by
  induction before with
  | nil => rfl
  | cons c before ih =>
    rw [List.cons_append]
    by_cases hFeed : c = '\n'
    · subst hFeed
      rw [linePieces_feed, List.count_cons_self, List.take_succ_cons, List.flatten_cons,
        onLine_feed, List.append_assoc, ih]
      rfl
    · rw [List.count_cons_of_ne hFeed]
      by_cases hLater : '\n' ∈ before
      · -- the character stands on an earlier line, in a piece that is taken
        obtain ⟨n, hCount⟩ := Nat.exists_eq_succ_of_ne_zero (List.count_pos_iff.2 hLater).ne'
        obtain ⟨first, pieces, hPieces, hMore⟩ := exists_linePieces_cons hFeed (before ++ ahead)
        rw [hCount, hPieces, List.take_succ_cons, List.flatten_cons] at ih
        rw [onLine_cons_of_mem c hLater, hCount, hMore, List.take_succ_cons, List.flatten_cons,
          List.cons_append, List.cons_append, ih]
      · have hAlone : '\n' ∉ c :: before := by simp [hLater, Ne.symm hFeed]
        rw [List.count_eq_zero.2 hLater, List.take_zero, onLine_eq_self hAlone]
        rfl

-- ---------------------------------------------------------------------------
-- Lines are what line feeds part
-- ---------------------------------------------------------------------------

/-- The pieces without their line feeds are the parts between line feeds. -/
theorem map_takeWhile_linePieces (cs : List Char) :
    (linePieces cs).map (List.takeWhile (· != '\n')) = cs.splitOn '\n' := by
  induction cs with
  | nil => rfl
  | cons c cs ih =>
    rw [List.splitOn_eq_splitOnP] at ih ⊢
    rw [List.splitOnP_cons_eq_if_modifyHead, ← ih]
    by_cases hFeed : c = '\n'
    · subst hFeed
      rw [linePieces_feed]
      rfl
    · obtain ⟨first, pieces, hPieces, hMore⟩ := exists_linePieces_cons hFeed cs
      rw [if_neg (by simpa using hFeed), hPieces, hMore]
      simp [hFeed]

/-- Without a line feed, only carriage returns are trimmed. -/
theorem trimLineEnd_of_not_mem {line : List Char} (h : '\n' ∉ line) :
    trimLineEnd line = line.rdropWhile (· == '\r') := by
  rw [trimLineEnd_eq]
  induction line using List.reverseRecOn with
  | nil => rfl
  | append_singleton line c ih =>
    rw [List.mem_append, not_or, List.mem_singleton] at h
    by_cases hReturn : c = '\r'
    · subst hReturn
      rw [List.rdropWhile_concat_pos _ _ _ rfl, List.rdropWhile_concat_pos _ _ _ rfl]
      exact ih h.1
    · have hEnd : ¬ isLineEnd c = true := by simp [isLineEnd, hReturn, Ne.symm h.2]
      rw [List.rdropWhile_concat_neg _ _ _ hEnd,
        List.rdropWhile_concat_neg _ _ _ (by simpa using hReturn)]

/-- The lines are the parts between line feeds, less the carriage returns at their ends. -/
theorem map_trimLineEnd_linePieces (cs : List Char) :
    (linePieces cs).map trimLineEnd =
      (cs.splitOn '\n').map (List.rdropWhile (· == '\r')) := by
  rw [← map_takeWhile_linePieces, List.map_map]
  apply List.map_congr_left
  intro piece hMem
  show trimLineEnd piece = (piece.takeWhile (· != '\n')).rdropWhile (· == '\r')
  obtain ⟨line, hNone, hPiece⟩ := exists_of_mem_linePieces hMem
  have hAll := all_bne_of_not_mem hNone
  rcases hPiece with rfl | rfl
  · rw [List.takeWhile_eq_self_iff.2 hAll]
    exact trimLineEnd_of_not_mem hNone
  · rw [trimLineEnd_concat_feed, List.takeWhile_append_of_pos hAll]
    simpa using trimLineEnd_of_not_mem hNone

end Text

namespace SourceFile

-- ---------------------------------------------------------------------------
-- Starts
-- ---------------------------------------------------------------------------

/-- The text from the start of a line to that of the next, or to the end of the text. -/
def lineSlice? (file : SourceFile) (index : Nat) : Option (List Char) :=
  (file.lineStart? index).bind fun start =>
    Text.slice? file.content.toList start ((file.lineStart? (index + 1)).getD file.byteLength)

theorem flatten_lines (file : SourceFile) : file.lines.flatten = file.content.toList := by
  rw [file.lines_eq, Text.flatten_linePieces]

theorem lineCount_eq (file : SourceFile) :
    file.lineCount = 1 + file.content.toList.count '\n' := by
  rw [lineCount, file.lines_eq, Text.length_linePieces, Nat.add_comm]

theorem lineStart?_eq_some_iff {file : SourceFile} {index start : Nat} :
    file.lineStart? index = some start ↔
      index < file.lineCount ∧ start = Text.byteLength (file.lines.take index).flatten := by
  rw [lineStart?]
  split
  · next h => simp [h, eq_comm]
  · next h => simp [h]

/-- A line ends where the lines up to it end, the last one at the end of the text. -/
theorem getD_lineStart? (file : SourceFile) (index : Nat) :
    (file.lineStart? index).getD file.byteLength =
      Text.byteLength (file.lines.take index).flatten := by
  rw [lineStart?]
  split
  · rfl
  · next h =>
    rw [List.take_of_length_le (Nat.le_of_not_lt h), flatten_lines]
    rfl

/-- The text up to a line, the line and the text behind it. -/
theorem content_eq_append (file : SourceFile) (index : Nat) :
    file.content.toList =
      (file.lines.take index).flatten ++ (file.lines.drop index).flatten := by
  rw [← List.flatten_append, List.take_append_drop, flatten_lines]

theorem flatten_take_succ {file : SourceFile} {index : Nat} {line : List Char}
    (h : file.lines[index]? = some line) :
    (file.lines.take (index + 1)).flatten = (file.lines.take index).flatten ++ line := by
  rw [List.take_add_one, h]
  simp

/-- Between the start of a line and that of the next lies its piece. -/
theorem lineSlice?_eq (file : SourceFile) (index : Nat) :
    file.lineSlice? index = file.lines[index]? := by
  rw [lineSlice?, lineStart?]
  cases hLine : file.lines[index]? with
  | none =>
    have hBeyond : ¬ index < file.lineCount := Nat.not_lt.2 (List.getElem?_eq_none_iff.1 hLine)
    rw [if_neg hBeyond, Option.bind_none]
  | some line =>
    have hWithin : index < file.lineCount := (List.getElem?_eq_some_iff.1 hLine).1
    rw [if_pos hWithin, Option.bind_some, getD_lineStart?, file.content_eq_append (index + 1),
      flatten_take_succ hLine, Text.slice?_append]

/-- A line that starts later starts at a greater offset. -/
theorem lineStart?_lt {file : SourceFile} {i j a b : Nat} (h : i < j)
    (hFirst : file.lineStart? i = some a) (hSecond : file.lineStart? j = some b) : a < b := by
  obtain ⟨-, rfl⟩ := lineStart?_eq_some_iff.1 hFirst
  obtain ⟨hWithin, rfl⟩ := lineStart?_eq_some_iff.1 hSecond
  -- the earlier line is not the last, so it is not empty
  have hNotLast : i < file.lines.length - 1 := by
    have hLength : j < file.lines.length := hWithin
    omega
  obtain ⟨line, hLine⟩ : ∃ line, file.lines[i]? = some line :=
    ⟨_, List.getElem?_eq_getElem (by omega)⟩
  have hNonempty : line ≠ [] := by
    have hMem : line ∈ file.lines.dropLast := by
      rw [List.dropLast_eq_take]
      exact List.mem_of_getElem? (i := i) (by rw [List.getElem?_take_of_lt hNotLast, hLine])
    rw [file.lines_eq] at hMem
    exact Text.ne_nil_of_mem_dropLast hMem
  have hPositive : Text.byteLength line ≠ 0 := fun hZero =>
    hNonempty (Text.byteLength_eq_zero_iff.1 hZero)
  obtain ⟨more, rfl⟩ := Nat.exists_eq_add_of_le (Nat.succ_le_of_lt h)
  rw [List.take_add, List.flatten_append, Text.byteLength_append, flatten_take_succ hLine,
    Text.byteLength_append]
  omega

/-- The line table is an exact partition of the text. -/
structure IsCutAtStarts (file : SourceFile) : Prop where
  lineCount_eq : file.lineCount = 1 + file.content.toList.count '\n'
  lineStart?_zero : file.lineStart? 0 = some 0
  isSome_lineStart?_iff : ∀ index, (file.lineStart? index).isSome ↔ index < file.lineCount
  lineStart?_lt : ∀ i j a b, i < j → file.lineStart? i = some a →
    file.lineStart? j = some b → a < b
  /-- Every start lies between two characters of the text. -/
  exists_boundary : ∀ index start, file.lineStart? index = some start →
    ∃ before ahead, file.content.toList = before ++ ahead ∧ start = Text.byteLength before ∧
      start ≤ file.byteLength
  /-- What lies between the starts, one after the other, is the text. -/
  exists_slices : ∃ slices : List (List Char),
    (List.range file.lineCount).map file.lineSlice? = slices.map some ∧
      slices.flatten = file.content.toList

theorem isCutAtStarts (file : SourceFile) : file.IsCutAtStarts where
  lineCount_eq := file.lineCount_eq
  lineStart?_zero := lineStart?_eq_some_iff.2 ⟨by rw [file.lineCount_eq]; omega, rfl⟩
  isSome_lineStart?_iff index := by
    rw [lineStart?]
    split
    · next h => simp [h]
    · next h => simp [h]
  lineStart?_lt i j a b h hFirst hSecond := lineStart?_lt h hFirst hSecond
  exists_boundary index start h := by
    obtain ⟨-, hStart⟩ := lineStart?_eq_some_iff.1 h
    have hContent := file.content_eq_append index
    refine ⟨_, _, hContent, hStart, ?_⟩
    rw [hStart, byteLength, hContent, Text.byteLength_append]
    omega
  exists_slices := by
    refine ⟨file.lines, ?_, file.flatten_lines⟩
    apply List.ext_getElem
    · rw [List.length_map, List.length_map, List.length_range, lineCount]
    · intro index _ hWithin
      rw [List.getElem_map, List.getElem_map, List.getElem_range, lineSlice?_eq]
      exact List.getElem?_eq_getElem _

-- ---------------------------------------------------------------------------
-- Lines
-- ---------------------------------------------------------------------------

/-- Lines are found by their numbers from one, and any other number is reported. -/
structure FindsLines (file : SourceFile) : Prop where
  line?_zero : file.line? 0 = none
  /-- A line is a part between line feeds, less all carriage returns at its end. -/
  line?_succ : ∀ index, file.line? (index + 1) =
    ((file.content.toList.splitOn '\n')[index]?).map fun part =>
      String.ofList (part.rdropWhile (· == '\r'))
  isSome_line?_iff : ∀ number,
    (file.line? number).isSome ↔ 1 ≤ number ∧ number ≤ file.lineCount
  lineText_eq_ok_iff : ∀ number line,
    file.lineText number = .ok line ↔ file.line? number = some line
  lineText_eq_error_iff : ∀ number error,
    file.lineText number = .error error ↔
      ¬ (1 ≤ number ∧ number ≤ file.lineCount) ∧ error = .noSuchLine number file.lineCount

theorem line?_succ (file : SourceFile) (index : Nat) :
    file.line? (index + 1) = ((file.content.toList.splitOn '\n')[index]?).map fun part =>
      String.ofList (part.rdropWhile (· == '\r')) := by
  have hLines := congrArg (·[index]?.map String.ofList)
    (Text.map_trimLineEnd_linePieces file.content.toList)
  simp only [List.getElem?_map, Option.map_map] at hLines
  rw [line?, file.lines_eq]
  exact hLines

theorem isSome_line?_iff (file : SourceFile) (number : Nat) :
    (file.line? number).isSome ↔ 1 ≤ number ∧ number ≤ file.lineCount := by
  cases number with
  | zero => simp [line?]
  | succ index =>
    have hLine : file.lines[index]?.isSome ↔ index < file.lineCount := by
      rw [isSome_getElem?]
      exact Iff.rfl
    rw [line?, Option.isSome_map, hLine]
    omega

theorem findsLines (file : SourceFile) : file.FindsLines where
  line?_zero := rfl
  line?_succ := file.line?_succ
  isSome_line?_iff := file.isSome_line?_iff
  lineText_eq_ok_iff number line := by
    rw [lineText]
    cases file.line? number <;> simp
  lineText_eq_error_iff number error := by
    rw [← file.isSome_line?_iff, lineText]
    cases file.line? number <;> simp [eq_comm]

-- ---------------------------------------------------------------------------
-- Cursors
-- ---------------------------------------------------------------------------

/--
The cursor lies on the line that it counts: not before its start, before that
of the next, and in the column that is its distance from the start. A skipped
mark stands on the first line and takes no column.
-/
structure Locates (file : SourceFile) (skipped : Bool) (cursor : Cursor) : Prop where
  line_pos : 1 ≤ cursor.position.line.toNat
  exists_start : ∃ start stretch,
    file.lineStart? (cursor.position.line.toNat - 1) = some start ∧
      start ≤ cursor.position.offset ∧
      Text.slice? file.content.toList start cursor.position.offset = some stretch ∧
      cursor.position.column.toNat =
        1 + stretch.length -
          if skipped = true ∧ cursor.position.line.toNat = 1 then 1 else 0
  lt_next : ∀ next, file.lineStart? cursor.position.line.toNat = some next →
    cursor.position.offset < next

/-- From the start of its line to a place is what stands before it on the line. -/
theorem exists_lineStart?_count (file : SourceFile) {before ahead : List Char}
    (h : file.content.toList = before ++ ahead) :
    ∃ start, file.lineStart? (before.count '\n') = some start ∧
      start ≤ Text.byteLength before ∧
      Text.slice? file.content.toList start (Text.byteLength before) =
        some (Text.onLine before) := by
  have hEarlier := Text.flatten_take_linePieces before ahead
  rw [← h, ← file.lines_eq] at hEarlier
  refine ⟨_, lineStart?_eq_some_iff.2 ⟨?_, rfl⟩, ?_, ?_⟩
  · rw [file.lineCount_eq, h, List.count_append]
    omega
  · have hLength := congrArg Text.byteLength hEarlier
    rw [Text.byteLength_append] at hLength
    omega
  · have hSlice := Text.slice?_append (file.lines.take (before.count '\n')).flatten
      (Text.onLine before) ahead
    rwa [hEarlier, ← h] at hSlice

/-- The next line starts behind the place. -/
theorem lt_lineStart?_succ (file : SourceFile) {before ahead : List Char} {next : Nat}
    (h : file.content.toList = before ++ ahead)
    (hNext : file.lineStart? (before.count '\n' + 1) = some next) :
    Text.byteLength before < next := by
  obtain ⟨hWithin, rfl⟩ := lineStart?_eq_some_iff.1 hNext
  -- a later line needs a line feed ahead, which is no earlier than the place
  have hFeed : '\n' ∈ ahead := by
    rw [file.lineCount_eq, h, List.count_append] at hWithin
    exact List.count_pos_iff.1 (by omega)
  have hLine : file.lines[before.count '\n']? =
      some (Text.onLine before ++ (ahead.takeWhile (· != '\n') ++ ['\n'])) := by
    rw [file.lines_eq, h, Text.getElem?_linePieces_append, Text.getElem?_linePieces_zero,
      if_pos hFeed]
    rfl
  have hBefore : (file.lines.take (before.count '\n')).flatten ++ Text.onLine before = before := by
    rw [file.lines_eq, h]
    exact Text.flatten_take_linePieces before ahead
  rw [flatten_take_succ hLine, ← List.append_assoc, hBefore, ← List.append_assoc,
    Text.byteLength_append, Text.byteLength_append]
  have hSize : 0 < Text.byteLength ['\n'] := by decide
  omega

/-- Wherever a cursor stands in a short text, its line and column are those of the table. -/
theorem locates_of_reached {file : SourceFile} {skipped : Bool} {passed : List Char}
    {cursor : Cursor} (h : cursor.Reached file.content.toList skipped passed)
    (hShort : Position.IsShort file.content.toList) : file.Locates skipped cursor := by
  obtain ⟨hLine, hColumn⟩ := h.toNat_position hShort
  have hOffset := h.offset_eq
  have hText := h.text_eq
  rw [← List.append_assoc] at hText
  generalize Cursor.markIf skipped ++ passed = before at hLine hColumn hOffset hText
  have hCount : cursor.position.line.toNat = before.count '\n' + 1 := by
    rw [hLine, Text.lineOf, Nat.add_comm]
  obtain ⟨start, hStart, hLe, hSlice⟩ := file.exists_lineStart?_count hText
  refine ⟨by omega, ⟨start, Text.onLine before, ?_, ?_, ?_, ?_⟩, ?_⟩
  · rw [hCount, Nat.add_sub_cancel]
    exact hStart
  · rw [hOffset]
    exact hLe
  · rw [hOffset]
    exact hSlice
  · rw [hColumn, Text.length_onLine]
  · rw [hCount, hOffset]
    exact fun next hNext => file.lt_lineStart?_succ hText hNext

end SourceFile

/--
The starts of the lines cut every text into pieces, and lines are found by
their numbers among the parts between line feeds. In a text that is short
enough, wherever moves of any kind lead a cursor from the beginning, its line
and its column are those of the table.
-/
theorem line_table_exact (file : SourceFile) :
    file.IsCutAtStarts ∧ file.FindsLines ∧
      (Position.IsShort file.content.toList → ∀ moves : List Cursor.Move,
        let start := Cursor.start file.content.toList
        file.Locates (start.skipsOn moves) (start.travel moves)) := by
  refine ⟨file.isCutAtStarts, file.findsLines, ?_⟩
  intro hShort moves start
  obtain ⟨passed, hReached⟩ := Cursor.exists_reached file.content.toList moves
  exact SourceFile.locates_of_reached hReached hShort

/-- Behind a skipped mark, a carriage return is a character of its line like any other. -/
theorem line_table_of_mixed_endings :
    let file : SourceFile := { name := "a", content := "\ufeffé\r\r\n\nx\r" }
    let start := Cursor.start file.content.toList
    let moves : List Cursor.Move := [.skipMark, .advance, .matchText ['\r', '\r']]
    Position.IsShort file.content.toList ∧ file.FindsLines ∧
      file.line? 1 = some "\ufeffé" ∧ file.line? 3 = some "x" ∧ file.lineStart? 1 = some 8 ∧
      (start.travel moves).position = ⟨7, 1, 4⟩ ∧ file.Locates true (start.travel moves) := by
  intro file start moves
  have hShort : Position.IsShort file.content.toList := by
    unfold Position.IsShort
    decide +kernel
  obtain ⟨-, hLines, hLocates⟩ := line_table_exact file
  have hTable : file.line? 1 = some "\ufeffé" ∧ file.line? 3 = some "x" ∧
      file.lineStart? 1 = some 8 := by
    decide +kernel
  have hPlace : (start.travel moves).position = ⟨7, 1, 4⟩ := by
    decide +kernel
  have hSkips : start.skipsOn moves = true := by
    decide +kernel
  have hAt : file.Locates (start.skipsOn moves) (start.travel moves) := hLocates hShort moves
  rw [hSkips] at hAt
  exact ⟨hShort, hLines, hTable.1, hTable.2.1, hTable.2.2, hPlace, hAt⟩

end HdlLex
