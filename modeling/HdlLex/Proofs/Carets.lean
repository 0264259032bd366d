import HdlLex.Proofs.Reports
import HdlLex.Proofs.Shift

/-!
# Carets — where the report of a character is seen

A report is shown with the line on which it lies and a caret below the
character that it is about. Line and column were counted character by
character while the text was read, whereas the line is cut out of the text by
its line feeds and trimmed. The caret still stands below the first character
of what is reported; only a skipped mark, which the line keeps and the column
does not count, pushes that character one to the right on the first line.

* `Lexer.Concerns` — the character with which a reported construct begins.
* `Diagnostic.Snippet.numberedLine`, `Diagnostic.Snippet.columnIndex` — the
  line as it is shown, and the index of a column in it.
* `Diagnostic.Snippet.IsShown` — a text that shows a line with one caret.
* `Lexer.IsSeen` — a report whose caret stands below its character.

Main results:

* `SourceFile.exists_line_of_pointsAt` — a span finds its character on its line.
* `Diagnostic.Snippet.exists_carets_format` — where the carets of a snippet stand.
* `Diagnostic.Snippet.IsAt.isShown` — how the snippet of a report looks.
* `carets_point` — the caret of every report of a run.
-/

namespace HdlLex

-- ---------------------------------------------------------------------------
-- The character on its line
-- ---------------------------------------------------------------------------

/-- How many characters of a line with this number take no column: a skipped mark on the first. -/
def Config.markColumns (config : Config) (text : List Char) (number : Nat) : Nat :=
  if config.passedMark text ≠ [] ∧ number = 1 then 1 else 0

/-- On the first line a skipped mark stands before the columns that are counted. -/
theorem Config.sinceFeed_passedMark_append (config : Config) (text passed : List Char) :
    Text.sinceFeed (config.passedMark text ++ passed) = Text.sinceFeed passed +
      config.markColumns text (Text.lineOf (config.passedMark text ++ passed)) := by
  rw [Text.sinceFeed_append, markColumns]
  rcases config.passedMark_cases text with hMark | hMark
  · rw [hMark]
    simp [Text.sinceFeed]
  · have hOne : Text.sinceFeed [byteOrderMark] = 1 := by decide
    rw [hMark, lineOf_mark_append, hOne]
    simp

/-- The line of a span that points at a character holds that character in its column. -/
theorem SourceFile.exists_line_of_pointsAt {config : Config} {file : SourceFile} {span : Span}
    {c : Char} (h : span.PointsAt config file.content.toList c)
    (hEnd : Text.isLineEnd c = false) :
    ∃ line, file.line? span.line.toNat = some line ∧ '\n' ∉ line.toList ∧
      line.toList[span.column.toNat - 1 +
        config.markColumns file.content.toList span.line.toNat]? = some c := by
  obtain ⟨passed, ahead, hText, hLine, hColumn⟩ := h
  have hIndex := config.sinceFeed_passedMark_append file.content.toList passed
  rw [← List.append_assoc] at hText
  rw [hLine, hColumn, Nat.add_sub_cancel_left, ← hIndex]
  generalize config.passedMark file.content.toList ++ passed = before at hText
  refine ⟨_, file.line?_lineOf hText, ?_, ?_⟩
  · rw [String.toList_ofList]
    intro hMem
    have hMem' := (Text.trimLineEnd_isPrefix _).subset hMem
    rcases List.mem_append.1 hMem' with hBefore | hBehind
    · exact Text.lineFeed_not_mem_onLine before hBefore
    · have hTest := List.mem_takeWhile_imp hBehind
      simp at hTest
  · have hNotFeed : (c != '\n') = true := by
      rw [bne_iff_ne]
      rintro rfl
      cases hEnd
    rw [String.toList_ofList, @List.takeWhile_cons_of_pos _ (· != '\n') _ _ hNotFeed,
      ← Text.length_onLine]
    have hKept := Text.isPrefix_trimLineEnd (Text.onLine before) hEnd
      (ahead.takeWhile (· != '\n'))
    have hAt := List.prefix_iff_getElem?.1 hKept (Text.onLine before).length (by simp)
    rw [hAt]
    simp

-- ---------------------------------------------------------------------------
-- How a snippet is shown
-- ---------------------------------------------------------------------------

/-- A character that is repeated behind a text without it stands there alone. -/
theorem getElem?_append_replicate_eq_iff {cs : List Char} {c : Char} (h : c ∉ cs) (n i : Nat) :
    (cs ++ List.replicate n c)[i]? = some c ↔ cs.length ≤ i ∧ i < cs.length + n := by
  by_cases hWithin : i < cs.length
  · rw [List.getElem?_append_left hWithin]
    refine ⟨fun hAt => absurd (List.mem_of_getElem? hAt) h, fun hBehind => ?_⟩
    omega
  · rw [List.getElem?_append_right (Nat.not_lt.1 hWithin), List.getElem?_replicate]
    split
    · simp only [true_iff]
      omega
    · simp only [reduceCtorEq, false_iff]
      omega

namespace Diagnostic.Snippet

/-- How many columns the number of a line is set in. -/
def numberWidth (number : Nat) : Nat := max 3 (Nat.toDigits 10 number).length

/-- A line behind its number, which is set flush right, and a bar. -/
def numberedLine (number : Nat) (line : String) : List Char :=
  (Nat.toDigits 10 number).leftpad (numberWidth number) ' ' ++ [' ', '|', ' '] ++ line.toList

/-- Where a column of a line stands behind number and bar; the first column has number one. -/
def columnIndex (number column : Nat) : Nat := numberWidth number + 3 + (column - 1)

/-- A text that shows a line with its number and, on a second line, a single caret in a column. -/
structure IsShown (number column : Nat) (line text : String) : Prop where
  lineFeed_not_mem : '\n' ∉ numberedLine number line
  exists_carets : ∃ carets, text.toList = numberedLine number line ++ '\n' :: carets ∧
    '\n' ∉ carets ∧ ∀ i, carets[i]? = some '^' ↔ i = columnIndex number column

theorem length_margin {width : Nat} {text : List Char} (h : text.length ≤ width) :
    (margin width text).length = width + 3 := by
  rw [margin, List.length_append, List.length_leftpad, max_eq_left h]
  rfl

theorem mem_margin {width : Nat} {text : List Char} {c : Char} (h : c ∈ margin width text) :
    c ∈ text ∨ c = ' ' ∨ c = '|' := by
  rw [margin, List.leftpad, List.mem_append, List.mem_append] at h
  rcases h with (hPad | hText) | hBar
  · exact Or.inr (Or.inl (List.eq_of_mem_replicate hPad))
  · exact Or.inl hText
  · simp only [List.mem_cons, List.not_mem_nil, or_false] at hBar
    tauto

theorem lineFeed_not_mem_numberedLine (number : Nat) {line : String} (h : '\n' ∉ line.toList) :
    '\n' ∉ numberedLine number line := by
  have hNumbered : numberedLine number line =
      margin (numberWidth number) (Nat.toDigits 10 number) ++ line.toList := rfl
  rw [hNumbered, List.mem_append, not_or]
  refine ⟨?_, h⟩
  intro hMargin
  rcases mem_margin hMargin with hDigit | hBar
  · have hIsDigit := Nat.isDigit_of_mem_toDigits (by omega) (by omega) hDigit
    cases hIsDigit
  · exact absurd hBar (by decide)

/-- The second line of a snippet is blank but for a bar, up to the carets in its columns. -/
theorem exists_carets_format (snippet : Snippet) :
    ∃ carets, snippet.format.toList =
        numberedLine snippet.lineNumber snippet.line ++ '\n' :: carets ∧
      '\n' ∉ carets ∧
      ∀ i, carets[i]? = some '^' ↔
        columnIndex snippet.lineNumber snippet.startColumn ≤ i ∧
          i < columnIndex snippet.lineNumber snippet.startColumn +
            max (snippet.endColumn - snippet.startColumn) 1 := by
  -- what stands before the carets
  set pad := margin (numberWidth snippet.lineNumber) [] ++
    List.replicate (snippet.startColumn - 1) ' ' with hPad
  have hMem : ∀ c ∈ pad, c = ' ' ∨ c = '|' := by
    intro c hIn
    rcases List.mem_append.1 hIn with hMargin | hBlank
    · exact (mem_margin hMargin).resolve_left List.not_mem_nil
    · exact Or.inl (List.eq_of_mem_replicate hBlank)
  have hCaret : '^' ∉ pad := fun hIn => absurd (hMem _ hIn) (by decide)
  have hLength : pad.length = columnIndex snippet.lineNumber snippet.startColumn := by
    rw [hPad, List.length_append, length_margin (Nat.zero_le _), List.length_replicate, columnIndex]
  refine ⟨pad ++ List.replicate (max (snippet.endColumn - snippet.startColumn) 1) '^', ?_, ?_, ?_⟩
  · have hWidth : max (Nat.toDigits 10 snippet.lineNumber).length 3 =
        numberWidth snippet.lineNumber := max_comm _ _
    have hNumbered : numberedLine snippet.lineNumber snippet.line =
        margin (numberWidth snippet.lineNumber) (Nat.toDigits 10 snippet.lineNumber) ++
          snippet.line.toList := rfl
    simp only [format, String.toList_ofList]
    rw [hWidth, hNumbered, hPad]
    simp
  · rw [List.mem_append, not_or]
    refine ⟨fun hIn => absurd (hMem _ hIn) (by decide), fun hIn => ?_⟩
    exact absurd (List.eq_of_mem_replicate hIn) (by decide)
  · intro i
    rw [← hLength]
    exact getElem?_append_replicate_eq_iff hCaret _ i

/-- The snippet of one character shows its line with a caret in its column. -/
theorem IsAt.isShown {file : SourceFile} {span : Span} {snippet : Snippet}
    (h : snippet.IsAt file span) (hFeed : '\n' ∉ snippet.line.toList) :
    IsShown span.line.toNat span.column.toNat snippet.line snippet.format := by
  obtain ⟨carets, hText, hNoFeed, hCarets⟩ := snippet.exists_carets_format
  have hOne : max (snippet.endColumn - snippet.startColumn) 1 = 1 := by
    have hNarrow := h.endColumn_le
    omega
  rw [h.lineNumber_eq, h.startColumn_eq] at hCarets
  rw [h.lineNumber_eq] at hText
  rw [h.startColumn_eq] at hOne
  refine ⟨lineFeed_not_mem_numberedLine _ hFeed, carets, hText, hNoFeed, fun i => ?_⟩
  rw [hCarets, hOne]
  omega

example : format ⟨"wire é", 12, 6, 7⟩ = " 12 | wire é\n    |      ^" := by
  decide +kernel

/-- In the line as it is shown, what stands in a column stands at its index. -/
theorem getElem?_numberedLine (number column more : Nat) (line : String) :
    (numberedLine number line)[columnIndex number column + more]? =
      line.toList[column - 1 + more]? := by
  have hLength := length_margin (le_max_right 3 (Nat.toDigits 10 number).length)
  show (margin (numberWidth number) (Nat.toDigits 10 number) ++ line.toList)[_]? = _
  rw [columnIndex, numberWidth, Nat.add_assoc, ← hLength, List.getElem?_append_right (by omega),
    Nat.add_sub_cancel_left]

end Diagnostic.Snippet

-- ---------------------------------------------------------------------------
-- The carets of a run
-- ---------------------------------------------------------------------------

namespace Lexer

/-- What is reported about a result begins with `c`. -/
inductive Concerns : Except LexError Token → Char → Prop
  | unknown {token : Token} {c : Char} (hKind : token.kind = .unknown)
      (hText : token.text = String.ofList [c]) : Concerns (.ok token) c
  | failure (error : LexError) : Concerns (.error error) error.cause.firstChar

/-- The report points at the first character of what it is about, which ends no line. -/
theorem Stands.report_pointsAt {config : Config} {source : String} {passed : List Char}
    {lexer : Lexer} {report : Diagnostic} (h : lexer.Stands config source passed)
    (hShort : Position.IsShort source.toList)
    (hReport : IsReport lexer.file lexer.nextToken.1 [report]) :
    ∃ c, Concerns lexer.nextToken.1 c ∧ report.span.PointsAt config source.toList c ∧
      Text.isLineEnd c = false := by
  cases hResult : lexer.nextToken.1 with
  | error error =>
    rw [hResult] at hReport
    obtain ⟨hPoints, hEnd⟩ := h.error_pointsAt hShort hResult
    cases hReport
    exact ⟨_, Concerns.failure error, hPoints, hEnd⟩
  | ok token =>
    rw [hResult] at hReport
    cases hReport with
    | unknown hKind hText =>
      obtain ⟨c, before, ahead, hText, -, hPoints, hEnd⟩ := h.unknown_pointsAt hShort hResult hKind
      exact ⟨c, Concerns.unknown hKind hText, hPoints, hEnd⟩

theorem IsReport.eq_singleton {file : SourceFile} {result : Except LexError Token}
    {reports : List Diagnostic} {report : Diagnostic} (h : IsReport file result reports)
    (hMem : report ∈ reports) : reports = [report] := by
  cases h with
  | quiet => cases hMem
  | unknown => rw [List.mem_singleton.1 hMem]
  | failure => rw [List.mem_singleton.1 hMem]

theorem IsReport.exists_snippet {file : SourceFile} {result : Except LexError Token}
    {report : Diagnostic} (h : IsReport file result [report]) :
    ∃ snippet, report.snippets = [snippet] ∧ snippet.IsAt file report.span := by
  cases h with
  | unknown _ _ hSnippet => exact ⟨_, rfl, hSnippet⟩
  | failure hSnippet => exact ⟨_, rfl, hSnippet⟩

/--
The report of a result is shown on the line of its place with a caret in the
column of its place, and `c`, with which it begins, stands above the caret.
-/
structure IsSeen (config : Config) (file : SourceFile) (result : Except LexError Token)
    (report : Diagnostic) (line : String) (c : Char) : Prop where
  isReport : IsReport file result [report]
  concerns : Concerns result c
  line?_eq : file.line? report.span.line.toNat = some line
  exists_snippet : ∃ snippet, report.snippets = [snippet] ∧
    Diagnostic.Snippet.IsShown report.span.line.toNat report.span.column.toNat line snippet.format
  /-- On the first line a skipped mark moves the character one column to the right. -/
  getElem?_eq : (Diagnostic.Snippet.numberedLine report.span.line.toNat line)[
    Diagnostic.Snippet.columnIndex report.span.line.toNat report.span.column.toNat +
      config.markColumns file.content.toList report.span.line.toNat]? = some c

/-- The report that one call hands to the collector is seen at its place. -/
theorem Stands.exists_isSeen {config : Config} {source : String} {passed : List Char}
    {lexer : Lexer} {report : Diagnostic} (h : lexer.Stands config source passed)
    (hShort : Position.IsShort source.toList)
    (hMem : report ∈ issuedBy lexer.file lexer.nextToken.1) :
    ∃ line c, IsSeen config lexer.file lexer.nextToken.1 report line c := by
  have hContent : lexer.file.content = source := by
    rw [h.file_eq]
  have hReports := h.isReport hShort
  rw [hReports.eq_singleton hMem] at hReports
  obtain ⟨snippet, hSnippet, hIsAt⟩ := hReports.exists_snippet
  obtain ⟨c, hConcerns, hPoints, hEnd⟩ := h.report_pointsAt hShort hReports
  rw [← hContent] at hPoints
  obtain ⟨line, hLine, hFeed, hAt⟩ := SourceFile.exists_line_of_pointsAt hPoints hEnd
  obtain rfl : snippet.line = line := Option.some.inj (hIsAt.line_eq.symm.trans hLine)
  refine ⟨snippet.line, c, hReports, hConcerns, hLine, ⟨snippet, hSnippet, hIsAt.isShown hFeed⟩, ?_⟩
  rw [Diagnostic.Snippet.getElem?_numberedLine]
  exact hAt

/-- So is every report of a run of calls. -/
theorem exists_isSeen_drive (config : Config) {source : String}
    (hShort : Position.IsShort source.toList) (calls : List Call) {report : Diagnostic}
    (hMem : report ∈ ((ofText config source).drive calls).2.collector.diagnostics.toList) :
    ∃ n line c, IsSeen config { name := sourceName, content := source }
      ((ofText config source).result n) report line c := by
  have hStart : (ofText config source).finished = false := rfl
  rw [diagnostics_drive hStart] at hMem
  obtain ⟨reports, hReports, hIn⟩ := List.mem_flatten.1 hMem
  obtain ⟨n, -, rfl⟩ := List.mem_map.1 hReports
  obtain ⟨passed, hStands⟩ := exists_stands_calls config source n
  have hFile := hStands.file_eq
  have hIn' : report ∈ issuedBy ((ofText config source).calls n).file
      ((ofText config source).result n) := by
    rw [hFile]
    exact hIn
  have hSeen := hStands.exists_isSeen hShort hIn'
  rw [hFile] at hSeen
  exact ⟨n, hSeen⟩

end Lexer

/--
In every run over a text that is short enough, whether or not all that is left
is read at its end, every report is about a result and has one snippet. This
shows the line of the report behind its number, and below it a single caret in
the column of the report. On the line stands there the first character of what
is reported, or directly behind, if the line is the first one and a mark was
skipped.
-/
theorem carets_point (config : Config) {source : String}
    (hShort : Position.IsShort source.toList) (calls : List Lexer.Call) :
    let start := Lexer.ofText config source
    let file : SourceFile := { name := Lexer.sourceName, content := source }
    let last := (start.drive calls).2
    ∀ report, report ∈ last.collector.diagnostics.toList ∨
        report ∈ last.tokenize.2.collector.diagnostics.toList →
      ∃ n line c, Lexer.IsSeen config file (start.result n) report line c := by
  intro start file last report hMem
  rcases hMem with hMem | hMem
  · exact Lexer.exists_isSeen_drive config hShort calls hMem
  · -- reading all that is left is one more run of calls
    obtain ⟨n, hDrive⟩ := last.exists_drive_tokenize
    rw [← hDrive, ← Lexer.drive_append] at hMem
    exact Lexer.exists_isSeen_drive config hShort _ hMem

/-- A skipped mark shows on the line of a report, and its caret stands one column before. -/
theorem caret_behind_mark :
    let source := "\ufeffa é\r\n"
    let start := Lexer.ofText {} source
    let last := (start.drive [.token]).2
    let report : Diagnostic := ⟨.warning, "unknown character 'é'", ⟨5, 7, 1, 3⟩, some ⟨"W", 101⟩,
      [], [⟨"\ufeffa é", 1, 3, 4⟩]⟩
    Position.IsShort source.toList ∧ report ∈ last.tokenize.2.collector.diagnostics.toList ∧
      ∃ n, Lexer.IsSeen {} { name := Lexer.sourceName, content := source } (start.result n) report
        "\ufeffa é" 'é' := by
  intro source start last report
  have hShort : Position.IsShort source.toList := by
    unfold Position.IsShort
    decide +kernel
  have hMem : report ∈ last.tokenize.2.collector.diagnostics.toList := by
    have hAll : last.tokenize.2.collector.diagnostics.toList = [report] := by
      decide +kernel
    rw [hAll]
    exact List.mem_singleton_self report
  obtain ⟨n, line, c, hSeen⟩ := carets_point {} hShort [.token] report (Or.inr hMem)
  have hLine : SourceFile.line? { name := Lexer.sourceName, content := source } 1 =
      some "\ufeffa é" := by
    decide +kernel
  obtain rfl : "\ufeffa é" = line := Option.some.inj (hLine.symm.trans hSeen.line?_eq)
  have hChar : (Diagnostic.Snippet.numberedLine 1 "\ufeffa é")[
      Diagnostic.Snippet.columnIndex 1 3 + Config.markColumns {} source.toList 1]? = some 'é' := by
    decide +kernel
  obtain rfl : 'é' = c := Option.some.inj (hChar.symm.trans hSeen.getElem?_eq)
  exact ⟨hShort, hMem, n, hSeen⟩

end HdlLex
