import HdlLex.Proofs.GapGrammar
import HdlLex.Proofs.Places
import HdlLex.Proofs.Stream

/-!
# Positions — exact in every run

Every call of a run counts lines and columns from where the call before it
left off. In a text that is short enough for the counters, what tokens and
errors say about their places agrees with what can be read off the text.

* `Config.IsPlace` — the line and the column of an offset in a text.
* `Span.IsBefore` — the order of places.
* `Token.IsPlaced`, `LexError.IsPlaced` — tokens and errors at their places.

Main results:

* `Lexer.lineFeed_not_mem_of_read` — a lexeme stays on its line.
* `Lexer.isPlace_position` — a lexer knows the place where it stands.
* `positions_exact` — so do the tokens and errors of every run.
-/

namespace HdlLex

-- ---------------------------------------------------------------------------
-- Places of tokens and errors
-- ---------------------------------------------------------------------------

/-- The place at byte `offset` of a text has this line and this column. -/
def Config.IsPlace (config : Config) (text : List Char) (offset : Nat) (line column : UInt32) :
    Prop :=
  ∃ before, Text.takeBytes? text offset = some before ∧
    line.toNat = Text.lineOf before ∧ column.toNat = config.columnAt text before

/-- The first place lies on an earlier line, or on the same line in an earlier column. -/
def Span.IsBefore (first second : Span) : Prop :=
  first.line < second.line ∨ (first.line = second.line ∧ first.column < second.column)

/-- A token whose span begins at the place that it names and stays on its line. -/
structure Token.IsPlaced (config : Config) (source : String) (token : Token) : Prop where
  isPlace : config.IsPlace source.toList token.span.start token.span.line token.span.column
  lineFeed_not_mem : ∃ written, '\n' ∉ written ∧
    Text.slice? source.toList token.span.start token.span.stop = some written

/--
An error that names a place between two offsets, at which the construct begins
that the error is about.
-/
def LexError.IsPlaced (config : Config) (source : String) (first last : Nat) (error : LexError) :
    Prop :=
  ∃ offset ahead, first ≤ offset ∧ offset ≤ last ∧
    config.IsPlace source.toList offset error.line error.column ∧
    Text.dropBytes? source.toList offset = some ahead ∧ error.cause.opening <+: ahead

-- ---------------------------------------------------------------------------
-- Lexemes stay on their line
-- ---------------------------------------------------------------------------

namespace Lexeme

theorem IsDigits.lineFeed_not_mem {radix : Radix} {cs : List Char} (h : IsDigits radix cs) :
    '\n' ∉ cs := by
  intro hMem
  have hNumeral := h.2 '\n' hMem
  revert hNumeral
  cases radix <;> decide

theorem IsFraction.lineFeed_not_mem {cs : List Char} (h : IsFraction cs) : '\n' ∉ cs := by
  obtain ⟨ds, rfl, hDigits⟩ := h
  simp [hDigits.lineFeed_not_mem]

theorem IsExponent.lineFeed_not_mem {cs : List Char} (h : IsExponent cs) : '\n' ∉ cs := by
  obtain ⟨e, sign, ds, rfl, hLetter, hSign, hDigits⟩ := h
  have hNotLetter : '\n' ≠ e := ne_of_mem_of_not_mem hLetter (by decide) |>.symm
  have hSigns : ∀ cs ∈ [[], ['+'], ['-']], '\n' ∉ cs := by decide
  simp [hNotLetter, hSigns sign hSign, hDigits.lineFeed_not_mem]

theorem IsNumber.lineFeed_not_mem {kind : TokenKind} {cs : List Char} (h : IsNumber kind cs) :
    '\n' ∉ cs := by
  cases h with
  | @binary m ds hMark hDigits =>
    have hNotMark : '\n' ≠ m := ne_of_mem_of_not_mem hMark (by decide) |>.symm
    simp [hNotMark, hDigits.lineFeed_not_mem]
  | @hex m ds hMark hDigits =>
    have hNotMark : '\n' ≠ m := ne_of_mem_of_not_mem hMark (by decide) |>.symm
    simp [hNotMark, hDigits.lineFeed_not_mem]
  | number hDigits => exact hDigits.lineFeed_not_mem
  | @float whole part power hWhole hPart hPower _ =>
    have hPart' : '\n' ∉ part := by
      rcases hPart with rfl | hFraction
      · exact List.not_mem_nil
      · exact hFraction.lineFeed_not_mem
    have hPower' : '\n' ∉ power := by
      rcases hPower with rfl | hExponent
      · exact List.not_mem_nil
      · exact hExponent.lineFeed_not_mem
    simp [hWhole.lineFeed_not_mem, hPart', hPower']

/-- A lexeme stays on its line. -/
theorem Valid.lineFeed_not_mem {unicode : Bool} {lexeme : Lexeme} (h : Valid unicode lexeme) :
    '\n' ∉ lexeme.written := by
  have hFeed : Text.isBlank '\n' = true := by decide +kernel
  cases h with
  | @word kind cs hWord hKind =>
    intro hMem
    have hPart := isWordPart_of_isWord hWord '\n' hMem
    rw [isWordPart_of_isBlank hFeed] at hPart
    cases hPart
  | number hNumber => exact hNumber.lineFeed_not_mem
  | string hEncodes => simp [hEncodes.lineFeed_not_mem]
  | char hEncodes => simp [hEncodes.lineFeed_not_mem]
  | operator operator => exact lineFeed_not_mem_spelling operator
  | delimiter delimiter => cases delimiter <;> decide

end Lexeme

namespace Lexer

/-- What is read stays on its line, be it a lexeme, a stray character or the end. -/
theorem lineFeed_not_mem_of_read {config : Config} {cs gap : List Char} {lexeme : Lexeme}
    (h : read config cs = .ok (gap, lexeme)) : '\n' ∉ lexeme.written := by
  obtain ⟨ahead, rfl, hGap, hFront⟩ := read_eq_ok h
  have hStarts := Trivia.startsLexeme_of_gap hGap
  rw [List.drop_left] at hStarts
  cases hText : lexeme.written ++ ahead with
  | nil =>
    rw [(List.append_eq_nil_iff.1 hText).1]
    exact List.not_mem_nil
  | cons c rest =>
    rw [hText] at hFront hStarts
    rcases Lexeme.front_valid hFront with hValid | ⟨rfl, -, -⟩
    · exact hValid.lineFeed_not_mem
    · -- a line feed would be part of the gap
      have hNotBlank := hStarts.not_blank c rfl
      intro hMem
      obtain rfl : '\n' = c := List.mem_singleton.1 hMem
      exact absurd hNotBlank (by decide +kernel)

-- ---------------------------------------------------------------------------
-- Runs
-- ---------------------------------------------------------------------------

/-- A lexer at any point behind the mark knows the place where it stands. -/
theorem isPlace_position {config : Config} {source : String} {passed ahead : List Char}
    (hShort : Position.IsShort source.toList)
    (hSource : source.toList = config.passedMark source.toList ++ (passed ++ ahead)) :
    let position := (config.startPosition source.toList).afterAll passed
    config.IsPlace source.toList position.offset position.line position.column := by
  intro position
  have hOffset : position.offset = Text.byteLength (config.passedMark source.toList ++ passed) :=
    config.offset_startPosition source.toList passed
  refine ⟨config.passedMark source.toList ++ passed, ?_, ?_⟩
  · rw [hOffset]
    conv => lhs; arg 1; rw [hSource, ← List.append_assoc]
    exact Text.takeBytes?_append _ ahead
  · exact Config.toNat_startPosition hShort hSource

/-- The checked count agrees with the position of every lexer of a run. -/
theorem Stands.afterAll?_eq_some {config : Config} {source : String} {passed : List Char}
    {lexer : Lexer} (h : lexer.Stands config source passed)
    (hShort : Position.IsShort source.toList) :
    (config.startPosition source.toList).afterAll? passed = some lexer.cursor.position := by
  rw [h.position_eq]
  exact Position.afterAll?_eq_some _ (hShort.of_append h.source_eq)

/-- The token of a call stands at its place. -/
theorem Stands.token_isPlaced {config : Config} {source : String} {passed : List Char}
    {lexer : Lexer} {token : Token} (h : lexer.Stands config source passed)
    (hShort : Position.IsShort source.toList) (hToken : lexer.nextToken.1 = .ok token) :
    token.IsPlaced config source := by
  obtain ⟨gap, lexeme, ahead, hRead, hRest, rfl, -⟩ := h.token hToken
  have hSource := h.source_eq
  rw [hRest, ← List.append_assoc passed] at hSource
  refine ⟨isPlace_position hShort hSource, lexeme.written, lineFeed_not_mem_of_read hRead, ?_⟩
  exact (h.covers hRest).slice?

/-- The error of a call stands at its place, within what the call passed over. -/
theorem Stands.error_isPlaced {config : Config} {source : String} {passed : List Char}
    {lexer : Lexer} {error : LexError} (h : lexer.Stands config source passed)
    (hShort : Position.IsShort source.toList) (hError : lexer.nextToken.1 = .error error) :
    error.IsPlaced config source lexer.cursor.position.offset
      lexer.nextToken.2.cursor.position.offset := by
  obtain ⟨fault, ahead, hRead, hRest, rfl, hNext⟩ := h.error hError
  have hFits := read_fits hRead
  obtain ⟨more, hPassed⟩ := hFits.lead_isPrefix
  -- what stands behind the lead of the fault begins with its construct
  have hOpening := hFits.opening_isPrefix
  have hBehind : lexer.cursor.rest = fault.lead ++ (more ++ ahead) := by
    rw [hRest, ← hPassed, List.append_assoc]
  rw [hBehind, List.drop_left] at hOpening
  have hSource := h.source_eq
  rw [hBehind, ← List.append_assoc passed] at hSource
  have hPlace := isPlace_position hShort hSource
  refine ⟨((config.startPosition source.toList).afterAll (passed ++ fault.lead)).offset,
    more ++ ahead, ?_, ?_, ?_, ?_, hOpening⟩
  · rw [h.position_eq, Position.afterAll_append, Position.offset_afterAll _ fault.lead]
    exact Nat.le_add_right _ _
  · rw [hNext.position_eq, ← hPassed, ← List.append_assoc, Position.afterAll_append _ _ more,
      Position.offset_afterAll _ more]
    exact Nat.le_add_right _ _
  · simpa [Fault.errorAt] using hPlace
  · rw [config.offset_startPosition]
    rw [← List.append_assoc] at hSource
    conv => lhs; arg 1; rw [hSource]
    exact Text.dropBytes?_append _ _

/-- Of two tokens of a run, the later one stands behind the earlier one. -/
theorem Stands.isBefore {config : Config} {source : String} {passed : List Char}
    {lexer : Lexer} {earlier later : Token} (h : lexer.Stands config source passed)
    (hShort : Position.IsShort source.toList) (hEarlier : lexer.nextToken.1 = .ok earlier)
    {n : Nat} (hLater : (lexer.nextToken.2.calls n).nextToken.1 = .ok later) :
    earlier.span.stop ≤ later.span.start ∧
      (earlier.kind ≠ .eof → earlier.span.IsBefore later.span) := by
  obtain ⟨gap, lexeme, ahead, hRead, hRest, rfl, hNext⟩ := h.token hEarlier
  obtain ⟨more, hStands⟩ := hNext.calls n
  obtain ⟨gap', lexeme', ahead', -, hRest', rfl, -⟩ := hStands.token hLater
  have hCovers := h.covers hRest
  have hCovers' := hStands.covers hRest'
  -- what stands between the beginnings of the two tokens
  have hBetween : passed ++ (gap ++ lexeme.written) ++ more ++ gap' =
      (passed ++ gap) ++ (lexeme.written ++ (more ++ gap')) := by
    simp only [List.append_assoc]
  rw [hBetween] at hCovers' ⊢
  refine ⟨?_, ?_⟩
  · rw [hCovers.stop_eq, hCovers'.start_eq]
    simp only [Text.byteLength_append]
    omega
  · intro hMore
    have hTaken : lexeme.written ++ (more ++ gap') ≠ [] := by
      intro hNil
      exact written_ne_nil_of_read hRead hMore (List.append_eq_nil_iff.1 hNil).1
    have hSource := hCovers'.source_eq
    rw [List.append_assoc] at hSource
    exact Config.startPosition_lt hShort hSource hTaken

end Lexer

/--
In every run over a text that is short enough, no counter of lines or columns
overflows, tokens and errors stand at the places that they name, and the
places of the tokens increase up to the end token.
-/
theorem positions_exact (config : Config) {source : String}
    (hShort : Position.IsShort source.toList) (n : Nat) :
    let lexer := Lexer.ofText config source
    (∃ passed, config.passedMark source.toList ++ passed <+: source.toList ∧
      (config.startPosition source.toList).afterAll? passed =
        some (lexer.calls n).cursor.position) ∧
    (∀ token, lexer.result n = .ok token →
      token.IsPlaced config source ∧
      ∀ m earlier, m < n → lexer.result m = .ok earlier →
        earlier.span.stop ≤ token.span.start ∧
          (earlier.kind ≠ .eof → earlier.span.IsBefore token.span)) ∧
    ∀ error, lexer.result n = .error error →
      error.IsPlaced config source (lexer.calls n).cursor.position.offset
        (lexer.calls (n + 1)).cursor.position.offset := by
  intro lexer
  obtain ⟨passed, hStands⟩ := Lexer.exists_stands_calls config source n
  refine ⟨⟨passed, ?_, hStands.afterAll?_eq_some hShort⟩, ?_, ?_⟩
  · have hSource := hStands.source_eq
    rw [← List.append_assoc] at hSource
    exact ⟨_, hSource.symm⟩
  · intro token hToken
    refine ⟨hStands.token_isPlaced hShort hToken, ?_⟩
    intro m earlier hLess hEarlier
    obtain ⟨passed', hStands'⟩ := Lexer.exists_stands_calls config source m
    obtain ⟨k, rfl⟩ : ∃ k, n = m + 1 + k := ⟨n - (m + 1), by omega⟩
    have hCalls := Lexer.calls_add lexer (m + 1) k
    unfold Lexer.result at hToken
    rw [hCalls] at hToken
    exact hStands'.isBefore hShort hEarlier hToken
  · intro error hError
    exact hStands.error_isPlaced hShort hError

/-- Behind a skipped mark and a line feed, a character literal with two characters in it. -/
theorem place_of_faulty_char :
    Position.IsShort "\ufeffa\n 'bc'".toList ∧
      (Lexer.ofText {} "\ufeffa\n 'bc'").result 1 = .error ⟨.notOneChar "bc", 2, 2⟩ ∧
      LexError.IsPlaced {} "\ufeffa\n 'bc'" 4 10 ⟨.notOneChar "bc", 2, 2⟩ := by
  have hShort : Position.IsShort "\ufeffa\n 'bc'".toList := by
    unfold Position.IsShort
    decide +kernel
  have hError : (Lexer.ofText {} "\ufeffa\n 'bc'").result 1 =
      .error ⟨.notOneChar "bc", 2, 2⟩ := by
    decide +kernel
  have hFirst : ((Lexer.ofText {} "\ufeffa\n 'bc'").calls 1).cursor.position.offset = 4 := by
    decide +kernel
  have hLast : ((Lexer.ofText {} "\ufeffa\n 'bc'").calls 2).cursor.position.offset = 10 := by
    decide +kernel
  obtain ⟨-, -, hErrors⟩ := positions_exact {} hShort 1
  have hPlaced := hErrors _ hError
  rw [hFirst, hLast] at hPlaced
  exact ⟨hShort, hError, hPlaced⟩

end HdlLex
