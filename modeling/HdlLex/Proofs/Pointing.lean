import HdlLex.Proofs.LineTable
import HdlLex.Proofs.Progress

/-!
# Pointing — the character that a result is about

An error names the place where a faulty construct begins, and the token of a
character that is passed through begins with that character. So what is to be
reported always points at one character of the text, which is no part of the
end of its line. The line of that place can be looked up, and a snippet can be
made of it.

* `LexError.Cause.firstChar` — the character with which a faulty construct
  begins.
* `Span.PointsAt` — a span that names the place of a character.
* `Diagnostic.Snippet.IsAt` — a snippet of one character at a span.

Main results:

* `Lexer.read_firstChar` — a fault lies where its construct begins.
* `Lexer.Stands.error_pointsAt`, `Lexer.Stands.unknown_pointsAt` — what errors
  and unknown characters point at.
* `Diagnostic.Snippet.exists_ofSpan` — there is a snippet of what is pointed at.
-/

namespace HdlLex

-- ---------------------------------------------------------------------------
-- Faulty constructs
-- ---------------------------------------------------------------------------

/-- The character with which the construct begins that a cause names. -/
def LexError.Cause.firstChar : LexError.Cause → Char
  | .unclosedString => '"'
  | .unclosedChar | .notOneChar _ => '\''
  | .noDigits _ => '0'
  | .unknownEscape _ => '\\'
  | .unclosedComment | .commentTooDeep _ => '/'
  | .unexpectedChar character => character

/-- The construct of a cause begins with its first character, which ends no line. -/
structure LexError.Cause.Opens (cause : LexError.Cause) : Prop where
  head?_opening : cause.opening.head? = some cause.firstChar
  not_lineEnd : Text.isLineEnd cause.firstChar = false

theorem isLineEnd_of_not_isBlank {c : Char} (h : Text.isBlank c = false) :
    Text.isLineEnd c = false := by
  by_contra hEnd
  rw [Bool.not_eq_false, Text.isLineEnd, Bool.or_eq_true, beq_iff_eq, beq_iff_eq] at hEnd
  have hBlank : Text.isBlank '\n' = true ∧ Text.isBlank '\r' = true := by decide +kernel
  rcases hEnd with rfl | rfl
  · rw [hBlank.1] at h
    cases h
  · rw [hBlank.2] at h
    cases h

theorem LexError.Cause.IsComment.opens {cause : LexError.Cause} (h : cause.IsComment) :
    cause.Opens := by
  rcases h with rfl | ⟨limit, rfl⟩
  · exact ⟨rfl, rfl⟩
  · exact ⟨rfl, rfl⟩

/-- The cause of a failing text opens with a character of its own, or with that of the text. -/
theorem Lexeme.Fails.opens {config : Config} {cs : List Char} {fault : Fault}
    (h : Fails config cs fault) (hStarts : Trivia.StartsLexeme cs) : fault.cause.Opens := by
  have hOpen : ∀ quote, (openCause quote).Opens := by
    intro quote
    rcases openCause_cases quote with hCause | hCause
    · rw [hCause]
      exact ⟨rfl, rfl⟩
    · rw [hCause]
      exact ⟨rfl, rfl⟩
  cases h with
  | noDigits => exact ⟨by simp [LexError.Cause.opening, LexError.Cause.firstChar], rfl⟩
  | unclosed => exact hOpen _
  | unclosedEscape => exact hOpen _
  | unknownEscape => exact ⟨rfl, rfl⟩
  | notOneChar => exact ⟨rfl, rfl⟩
  | unexpected => exact ⟨rfl, isLineEnd_of_not_isBlank (hStarts.not_blank _ rfl)⟩

namespace Lexer

/-- Behind the lead of a fault, a text goes on with the first character of its construct. -/
theorem read_firstChar {config : Config} {cs : List Char} {fault : Fault}
    (h : read config cs = .error fault) :
    Text.isLineEnd fault.cause.firstChar = false ∧
      ∃ ahead, cs = fault.lead ++ fault.cause.firstChar :: ahead := by
  have hOpens : fault.cause.Opens := by
    rcases read_eq_error h with hGap | ⟨gap, ahead, f, rfl, hGap, hFront, rfl⟩
    · exact (Trivia.gap_error hGap).1.opens
    · have hStarts := (Trivia.gap_eq_ok_iff.1 hGap).2
      exact (Lexeme.front_eq_error_iff.1 hFront).opens hStarts
  refine ⟨hOpens.not_lineEnd, ?_⟩
  have hFits := read_fits h
  obtain ⟨behind, rfl⟩ := hFits.lead_isPrefix_text
  have hOpening := hFits.opening_isPrefix
  rw [List.drop_left] at hOpening
  obtain ⟨more, rfl⟩ := hOpening
  obtain ⟨rest, hRest⟩ := List.head?_eq_some_iff.1 hOpens.head?_opening
  exact ⟨rest ++ more, by rw [hRest, List.cons_append]⟩

/-- The token of an unknown character is that character, which ends no line. -/
theorem read_unknown {config : Config} {cs gap : List Char} {lexeme : Lexeme}
    (h : read config cs = .ok (gap, lexeme)) (hKind : lexeme.kind = .unknown) :
    ∃ c, lexeme = .plain .unknown [c] ∧ Text.isLineEnd c = false := by
  obtain ⟨ahead, rfl, hGap, hFront⟩ := read_eq_ok h
  obtain ⟨c, hFirst, hLexeme⟩ := Lexeme.front_unknown hFront hKind
  have hStarts := (Trivia.gap_eq_ok_iff.1 hGap).2
  exact ⟨c, hLexeme, isLineEnd_of_not_isBlank (hStarts.not_blank c hFirst)⟩

end Lexer

-- ---------------------------------------------------------------------------
-- Spans that point
-- ---------------------------------------------------------------------------

/--
The line and the column of the span are those of a place at which the text
goes on with `c`. A skipped mark takes no column.
-/
def Span.PointsAt (config : Config) (text : List Char) (span : Span) (c : Char) : Prop :=
  ∃ passed ahead, text = config.passedMark text ++ (passed ++ c :: ahead) ∧
    span.line.toNat = Text.lineOf (config.passedMark text ++ passed) ∧
    span.column.toNat = 1 + Text.sinceFeed passed

/-- A span that takes its line and its column from a position points at what follows there. -/
theorem Span.pointsAt_of_position {config : Config} {text passed ahead : List Char} {span : Span}
    {c : Char} (hShort : Position.IsShort text)
    (hText : text = config.passedMark text ++ (passed ++ c :: ahead))
    (hLine : span.line = ((config.startPosition text).afterAll passed).line)
    (hColumn : span.column = ((config.startPosition text).afterAll passed).column) :
    span.PointsAt config text c := by
  refine ⟨passed, ahead, hText, ?_, ?_⟩
  · rw [hLine]
    exact (Config.toNat_startPosition hShort hText).1
  · rw [hColumn]
    exact (Position.toNat_afterAll _ (hShort.of_append hText)).2

namespace Lexer

variable {config : Config} {source : String} {passed : List Char} {lexer : Lexer}

/-- An error points at the first character of its construct. -/
theorem Stands.error_pointsAt {error : LexError} (h : lexer.Stands config source passed)
    (hShort : Position.IsShort source.toList) (hError : lexer.nextToken.1 = .error error) :
    error.span.PointsAt config source.toList error.cause.firstChar ∧
      Text.isLineEnd error.cause.firstChar = false := by
  obtain ⟨fault, ahead, hRead, -, rfl, -⟩ := h.error hError
  obtain ⟨hNotEnd, behind, hRest⟩ := read_firstChar hRead
  have hSource := h.source_eq
  rw [hRest, ← List.append_assoc passed] at hSource
  refine ⟨Span.pointsAt_of_position hShort hSource ?_ ?_, hNotEnd⟩
  · rw [Position.afterAll_append]
    rfl
  · rw [Position.afterAll_append]
    rfl

/-- The token of an unknown character covers that character and points at it. -/
theorem Stands.unknown_pointsAt {token : Token} (h : lexer.Stands config source passed)
    (hShort : Position.IsShort source.toList) (hToken : lexer.nextToken.1 = .ok token)
    (hKind : token.kind = .unknown) :
    ∃ c before ahead, token.text = String.ofList [c] ∧ token.Covers source before [c] ahead ∧
      token.span.PointsAt config source.toList c ∧ Text.isLineEnd c = false := by
  obtain ⟨gap, lexeme, ahead, hRead, hRest, rfl, -⟩ := h.token hToken
  obtain ⟨c, rfl, hNotEnd⟩ := read_unknown hRead hKind
  have hSource := h.source_eq
  rw [hRest, ← List.append_assoc passed] at hSource
  exact ⟨c, _, ahead, rfl, h.covers hRest,
    Span.pointsAt_of_position hShort hSource rfl rfl, hNotEnd⟩

end Lexer

-- ---------------------------------------------------------------------------
-- Snippets
-- ---------------------------------------------------------------------------

/-- The text between two places of a file. -/
theorem SourceFile.range_append (file : SourceFile) {before written ahead : List Char}
    (h : file.content.toList = before ++ (written ++ ahead)) :
    file.range (Text.byteLength before) (Text.byteLength (before ++ written)) =
      .ok (String.ofList written) := by
  have hOrder : ¬ Text.byteLength (before ++ written) < Text.byteLength before := by
    rw [Text.byteLength_append]
    omega
  have hEnd : ¬ file.byteLength < Text.byteLength (before ++ written) := by
    rw [byteLength, h, ← List.append_assoc, Text.byteLength_append (before ++ written)]
    omega
  rw [range, if_neg hOrder, if_neg hEnd, h, ← List.append_assoc, Text.slice?_append]

theorem Text.length_firstLine_le (cs : List Char) : (firstLine cs).length ≤ cs.length := by
  have hRun := (List.takeWhile_prefix (· != '\n') (l := cs)).length_le
  simp only [firstLine]
  split
  · rw [List.length_dropLast]
    omega
  · exact hRun

namespace Diagnostic.Snippet

/-- A snippet of the line of a span, with one column marked at most from that of the span on. -/
structure IsAt (file : SourceFile) (span : Span) (snippet : Snippet) : Prop where
  line_eq : file.line? span.line.toNat = some snippet.line
  lineNumber_eq : snippet.lineNumber = span.line.toNat
  startColumn_eq : snippet.startColumn = span.column.toNat
  endColumn_le : snippet.endColumn ≤ snippet.startColumn + 1

/-- There is a snippet of what is pointed at, if the span is no wider than one character. -/
theorem exists_ofSpan {config : Config} {file : SourceFile} {span : Span} {c : Char}
    (h : span.PointsAt config file.content.toList c)
    (hWidth : ∃ width, widthOf file span = .ok width ∧ width ≤ 1) :
    ∃ snippet, ofSpan file span = .ok snippet ∧ snippet.IsAt file span := by
  obtain ⟨width, hWidth, hNarrow⟩ := hWidth
  obtain ⟨passed, ahead, hText, hLine, hColumn⟩ := h
  rw [← List.append_assoc] at hText
  have hFound := file.line?_lineOf hText
  rw [← hLine] at hFound
  have hFirst : max span.column.toNat 1 = span.column.toNat := by
    omega
  set line := String.ofList
    (Text.trimLineEnd (Text.onLine (config.passedMark file.content.toList ++ passed) ++
      (c :: ahead).takeWhile (· != '\n')))
  refine ⟨⟨line, span.line.toNat, max span.column.toNat 1, max span.column.toNat 1 + width⟩,
    ?_, hFound, rfl, hFirst, ?_⟩
  · rw [ofSpan, SourceFile.lineText, hFound, hWidth]
    rfl
  · show max span.column.toNat 1 + width ≤ max span.column.toNat 1 + 1
    omega

theorem widthOf_of_isEmpty (file : SourceFile) {span : Span} (h : span.isEmpty = true) :
    widthOf file span = .ok 0 := by
  rw [widthOf, if_pos h]

/-- The width of a span over one character. -/
theorem exists_widthOf_covers {file : SourceFile} {token : Token} {before ahead : List Char}
    {c : Char} (h : token.Covers file.content before [c] ahead) :
    ∃ width, widthOf file token.span = .ok width ∧ width ≤ 1 := by
  by_cases hEmpty : token.span.isEmpty = true
  · exact ⟨0, widthOf_of_isEmpty file hEmpty, Nat.zero_le 1⟩
  · have hText : file.textOf token.span = .ok (String.ofList [c]) := by
      rw [SourceFile.textOf, h.start_eq, h.stop_eq]
      exact file.range_append h.source_eq
    refine ⟨(Text.firstLine (String.ofList [c]).toList).length, ?_, ?_⟩
    · rw [widthOf, if_neg hEmpty, hText]
      rfl
    · rw [String.toList_ofList]
      exact Text.length_firstLine_le [c]

end Diagnostic.Snippet

end HdlLex
