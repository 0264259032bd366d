import HdlLex.Proofs.Reading

/-!
# Run — a lexer after any number of calls

However often the next token is asked for, and whatever came of it, a lexer
stands somewhere in its text: behind a byte-order mark that its configuration
skips and behind further characters, at the position that these lead to.

* `Config.passedMark`, `Config.startPosition` — where reading begins.
* `Lexer.Stands` — the invariant.
* `Lexer.calls`, `Lexer.result` — the lexer after so many calls, and what the
  call with a number yields.

Main results:

* `Lexer.exists_stands_calls` — the invariant holds after every run of calls.
* `Lexer.Stands.token`, `Lexer.Stands.error` — what a call yields, and where
  the lexer stands behind it.
* `Lexer.Stands.covers` — the span of a token cuts out what it was read from.
-/

namespace HdlLex

-- ---------------------------------------------------------------------------
-- Where reading begins
-- ---------------------------------------------------------------------------

/-- The byte-order mark that the configuration skips at the beginning of a text, if any. -/
def Config.passedMark (config : Config) (cs : List Char) : List Char :=
  if config.skipMark && cs.head? == some byteOrderMark then [byteOrderMark] else []

/-- The position from which a text is read: a skipped mark takes no column. -/
def Config.startPosition (config : Config) (cs : List Char) : Position :=
  ⟨Text.byteLength (config.passedMark cs), 1, 1⟩

theorem Config.passedMark_isPrefix (config : Config) (cs : List Char) :
    config.passedMark cs <+: cs := by
  unfold Config.passedMark
  split
  · next h =>
    rw [Bool.and_eq_true, beq_iff_eq] at h
    obtain ⟨rest, rfl⟩ := List.head?_eq_some_iff.1 h.2
    exact ⟨rest, rfl⟩
  · exact List.nil_prefix

theorem Config.passedMark_eq_nil_iff (config : Config) (cs : List Char) :
    config.passedMark cs = [] ↔ config.skipMark = false ∨ cs.head? ≠ some byteOrderMark := by
  unfold Config.passedMark
  cases config.skipMark with
  | false => simp
  | true => simp

theorem Config.passedMark_cases (config : Config) (text : List Char) :
    config.passedMark text = [] ∨ config.passedMark text = [byteOrderMark] := by
  unfold passedMark
  split
  · exact Or.inr rfl
  · exact Or.inl rfl

theorem Position.offset_afterAll (position : Position) (cs : List Char) :
    (position.afterAll cs).offset = position.offset + Text.byteLength cs := by
  induction cs generalizing position with
  | nil => rfl
  | cons c cs ih =>
    have hStep : (position.after c).offset = position.offset + c.utf8Size := by
      unfold Position.after
      split <;> rfl
    rw [Position.afterAll_cons, ih, hStep, Text.byteLength, Nat.add_assoc]

theorem Config.offset_startPosition (config : Config) (text passed : List Char) :
    ((config.startPosition text).afterAll passed).offset =
      Text.byteLength (config.passedMark text ++ passed) := by
  rw [Position.offset_afterAll, Text.byteLength_append]
  rfl

-- ---------------------------------------------------------------------------
-- What a token covers
-- ---------------------------------------------------------------------------

/-- The span of the token cuts `written` out of a text, behind `before`. -/
structure Token.Covers (token : Token) (source : String) (before written ahead : List Char) :
    Prop where
  source_eq : source.toList = before ++ (written ++ ahead)
  start_eq : token.span.start = Text.byteLength before
  stop_eq : token.span.stop = Text.byteLength (before ++ written)

theorem Token.Covers.slice? {token : Token} {source : String} {before written ahead : List Char}
    (h : token.Covers source before written ahead) :
    Text.slice? source.toList token.span.start token.span.stop = some written := by
  rw [h.source_eq, h.start_eq, h.stop_eq, ← List.append_assoc]
  exact Text.slice?_append before written ahead

theorem Token.Covers.dropBytes? {token : Token} {source : String}
    {before written ahead : List Char} (h : token.Covers source before written ahead) :
    Text.dropBytes? source.toList token.span.start = some (written ++ ahead) := by
  rw [h.source_eq, h.start_eq]
  exact Text.dropBytes?_append before (written ++ ahead)

theorem Token.Covers.lexeme {token : Token} {source : String} {before written ahead : List Char}
    (h : token.Covers source before written ahead) :
    (token.lexeme source).toList = written := by
  unfold Token.lexeme
  rw [h.slice?]
  simp

namespace Lexer

-- ---------------------------------------------------------------------------
-- The invariant
-- ---------------------------------------------------------------------------

/-- A lexer of this configuration and text that has passed over these characters. -/
structure Stands (config : Config) (source : String) (passed : List Char) (lexer : Lexer) :
    Prop where
  config_eq : lexer.config = config
  file_eq : lexer.file = { name := sourceName, content := source }
  /-- The cursor knows the whole text. -/
  text_eq : lexer.cursor.source = source.toList
  /-- The text is the mark, what was passed and what lies ahead. -/
  source_eq : source.toList =
    config.passedMark source.toList ++ (passed ++ lexer.cursor.rest)
  position_eq : lexer.cursor.position = (config.startPosition source.toList).afterAll passed

/-- Reading begins behind the mark. -/
theorem stands_ofText (config : Config) (source : String) :
    (ofText config source).Stands config source [] := by
  by_cases hSkip : (config.skipMark && source.toList.head? == some byteOrderMark) = true
  · -- the mark is passed over
    have hSkip' := hSkip
    rw [Bool.and_eq_true, beq_iff_eq] at hSkip'
    obtain ⟨hOn, hHead⟩ := hSkip'
    obtain ⟨rest, hText⟩ := List.head?_eq_some_iff.1 hHead
    have hMark : config.passedMark source.toList = [byteOrderMark] := by
      unfold Config.passedMark
      rw [if_pos hSkip]
    have hStart : (Cursor.start source.toList).skipMark =
        (true, ⟨source.toList, rest, ⟨byteOrderMark.utf8Size, 1, 1⟩⟩) := by
      simp [Cursor.skipMark, Cursor.start, Position.origin, hText]
    have hCursor : (ofText config source).cursor =
        ⟨source.toList, rest, ⟨byteOrderMark.utf8Size, 1, 1⟩⟩ := by
      simp [ofText, hOn, hStart]
    refine ⟨rfl, rfl, ?_, ?_, ?_⟩
    · rw [hCursor]
    · rw [hCursor, hMark]
      exact hText
    · rw [hCursor, Config.startPosition, hMark]
      rfl
  · -- there is no mark to pass over
    have hMark : config.passedMark source.toList = [] := by
      unfold Config.passedMark
      rw [if_neg hSkip]
    have hCursor : (ofText config source).cursor = Cursor.start source.toList := by
      unfold ofText
      by_cases hOn : config.skipMark = true
      · have hHead : (source.toList.head? == some byteOrderMark) = false := by
          simpa [hOn] using hSkip
        simp [hOn, Cursor.skipMark, Cursor.start, hHead]
      · simp [hOn]
    refine ⟨rfl, rfl, ?_, ?_, ?_⟩
    · rw [hCursor]
      rfl
    · rw [hCursor, hMark]
      rfl
    · rw [hCursor, Config.startPosition, hMark]
      rfl

/-- A call that moves the cursor over characters ahead keeps the invariant. -/
theorem Stands.record_behind {config : Config} {source : String} {passed cs ahead : List Char}
    {lexer : Lexer} (h : lexer.Stands config source passed)
    (hRest : lexer.cursor.rest = cs ++ ahead) (result : Except LexError Token) :
    (lexer.record (.ofResult result (lexer.cursor.behind cs ahead))).Stands config source
      (passed ++ cs) where
  config_eq := h.config_eq
  file_eq := h.file_eq
  text_eq := h.text_eq
  source_eq := by
    have hSource := h.source_eq
    rw [hRest] at hSource
    rw [hSource]
    simp [record, Step.ofResult, Cursor.behind, ← hSource]
  position_eq := by
    show lexer.cursor.position.afterAll cs = _
    rw [h.position_eq, Position.afterAll_append]

/-- What lies ahead of a lexer that has passed over more characters of the same text. -/
theorem Stands.rest_eq {config : Config} {source : String} {passed more ahead : List Char}
    {lexer later : Lexer} (h : lexer.Stands config source passed)
    (hLater : later.Stands config source (passed ++ more))
    (hRest : lexer.cursor.rest = more ++ ahead) : later.cursor.rest = ahead := by
  have hSame := h.source_eq.symm.trans hLater.source_eq
  rw [hRest, List.append_assoc] at hSame
  simpa using hSame.symm

/-- The offset of a lexer counts the bytes of the mark and of what was passed. -/
theorem Stands.offset_eq {config : Config} {source : String} {passed : List Char} {lexer : Lexer}
    (h : lexer.Stands config source passed) :
    lexer.cursor.position.offset =
      Text.byteLength (config.passedMark source.toList ++ passed) := by
  rw [h.position_eq, config.offset_startPosition]

-- ---------------------------------------------------------------------------
-- What a call yields
-- ---------------------------------------------------------------------------

/-- The token of a lexeme that stands behind `before` in a text read from `start` on. -/
def tokenBehind (start : Position) (before : List Char) (lexeme : Lexeme) : Token :=
  lexeme.toToken (start.afterAll before) (start.afterAll (before ++ lexeme.written))

theorem covers_tokenBehind {config : Config} {source : String} {before ahead : List Char}
    {lexeme : Lexeme} (h : source.toList =
      config.passedMark source.toList ++ (before ++ (lexeme.written ++ ahead))) :
    (tokenBehind (config.startPosition source.toList) before lexeme).Covers source
      (config.passedMark source.toList ++ before) lexeme.written ahead where
  source_eq := by
    rw [List.append_assoc]
    exact h
  start_eq := config.offset_startPosition source.toList before
  stop_eq := by
    rw [List.append_assoc]
    exact config.offset_startPosition source.toList (before ++ lexeme.written)

theorem Stands.nextToken_of_read_ok {config : Config} {source : String}
    {passed gap ahead : List Char} {lexeme : Lexeme} {lexer : Lexer}
    (h : lexer.Stands config source passed)
    (hRead : read config lexer.cursor.rest = .ok (gap, lexeme))
    (hRest : lexer.cursor.rest = gap ++ (lexeme.written ++ ahead)) :
    let token := tokenBehind (config.startPosition source.toList) (passed ++ gap) lexeme
    lexer.nextToken = (.ok token,
      lexer.record (.ofResult (.ok token) (lexer.cursor.behind (gap ++ lexeme.written) ahead))) := by
  rw [← h.config_eq] at hRead
  have hCall := Lexer.nextToken_of_read_ok hRead hRest
  have hToken : lexeme.toToken (lexer.cursor.position.afterAll gap)
      (lexer.cursor.position.afterAll (gap ++ lexeme.written)) =
        tokenBehind (config.startPosition source.toList) (passed ++ gap) lexeme := by
    simp [tokenBehind, h.position_eq]
  rw [hToken] at hCall
  exact hCall

theorem Stands.nextToken_of_read_error {config : Config} {source : String}
    {passed ahead : List Char} {fault : Fault} {lexer : Lexer}
    (h : lexer.Stands config source passed)
    (hRead : read config lexer.cursor.rest = .error fault)
    (hRest : lexer.cursor.rest = fault.passed ++ ahead) :
    let error := fault.errorAt ((config.startPosition source.toList).afterAll passed)
    lexer.nextToken = (.error error,
      lexer.record (.ofResult (.error error) (lexer.cursor.behind fault.passed ahead))) := by
  rw [← h.config_eq] at hRead
  have hCall := Lexer.nextToken_of_read_error hRead hRest
  rw [h.position_eq] at hCall
  exact hCall

/-- A token is that of the lexeme that is read next, and leaves the lexer behind it. -/
theorem Stands.token {config : Config} {source : String} {passed : List Char} {lexer : Lexer}
    {token : Token} (h : lexer.Stands config source passed)
    (hToken : lexer.nextToken.1 = .ok token) :
    ∃ gap lexeme ahead, read config lexer.cursor.rest = .ok (gap, lexeme) ∧
      lexer.cursor.rest = gap ++ (lexeme.written ++ ahead) ∧
      token = tokenBehind (config.startPosition source.toList) (passed ++ gap) lexeme ∧
      lexer.nextToken.2.Stands config source (passed ++ (gap ++ lexeme.written)) := by
  rcases read_cases config lexer.cursor.rest with
    ⟨gap, lexeme, ahead, hRead, hRest⟩ | ⟨fault, ahead, hRead, hRest⟩
  · have hNext := h.nextToken_of_read_ok hRead hRest
    rw [hNext] at hToken ⊢
    have hRest' : lexer.cursor.rest = (gap ++ lexeme.written) ++ ahead := by
      rw [hRest, List.append_assoc]
    exact ⟨gap, lexeme, ahead, hRead, hRest, (Except.ok.inj hToken).symm,
      h.record_behind hRest' _⟩
  · have hNext := h.nextToken_of_read_error hRead hRest
    rw [hNext] at hToken
    cases hToken

/-- An error is that of the fault that is met next, and leaves the lexer where it was found. -/
theorem Stands.error {config : Config} {source : String} {passed : List Char} {lexer : Lexer}
    {error : LexError} (h : lexer.Stands config source passed)
    (hError : lexer.nextToken.1 = .error error) :
    ∃ fault ahead, read config lexer.cursor.rest = .error fault ∧
      lexer.cursor.rest = fault.passed ++ ahead ∧
      error = fault.errorAt ((config.startPosition source.toList).afterAll passed) ∧
      lexer.nextToken.2.Stands config source (passed ++ fault.passed) := by
  rcases read_cases config lexer.cursor.rest with
    ⟨gap, lexeme, ahead, hRead, hRest⟩ | ⟨fault, ahead, hRead, hRest⟩
  · have hNext := h.nextToken_of_read_ok hRead hRest
    rw [hNext] at hError
    cases hError
  · have hNext := h.nextToken_of_read_error hRead hRest
    rw [hNext] at hError ⊢
    exact ⟨fault, ahead, hRead, hRest, (Except.error.inj hError).symm,
      h.record_behind hRest _⟩

theorem Stands.covers {config : Config} {source : String} {passed gap ahead : List Char}
    {lexeme : Lexeme} {lexer : Lexer} (h : lexer.Stands config source passed)
    (hRest : lexer.cursor.rest = gap ++ (lexeme.written ++ ahead)) :
    (tokenBehind (config.startPosition source.toList) (passed ++ gap) lexeme).Covers source
      (config.passedMark source.toList ++ (passed ++ gap)) lexeme.written ahead := by
  refine covers_tokenBehind ?_
  have hSource := h.source_eq
  rw [hRest] at hSource
  rw [List.append_assoc passed]
  exact hSource

-- ---------------------------------------------------------------------------
-- Runs
-- ---------------------------------------------------------------------------

/-- The lexer after so many calls. -/
def calls (lexer : Lexer) : Nat → Lexer
  | 0 => lexer
  | n + 1 => (lexer.calls n).nextToken.2

/-- What the call with this number yields; the first call has number zero. -/
def result (lexer : Lexer) (n : Nat) : Except LexError Token :=
  (lexer.calls n).nextToken.1

theorem calls_add (lexer : Lexer) (m n : Nat) :
    lexer.calls (m + n) = (lexer.calls m).calls n := by
  induction n with
  | zero => rfl
  | succ n ih => rw [← Nat.add_assoc, calls, calls, ih]

/-- One call keeps the invariant and only passes over more characters. -/
theorem Stands.nextToken {config : Config} {source : String} {passed : List Char} {lexer : Lexer}
    (h : lexer.Stands config source passed) :
    ∃ more, lexer.nextToken.2.Stands config source (passed ++ more) := by
  cases hResult : lexer.nextToken.1 with
  | ok token =>
    obtain ⟨gap, lexeme, -, -, -, -, hNext⟩ := h.token hResult
    exact ⟨gap ++ lexeme.written, hNext⟩
  | error error =>
    obtain ⟨fault, -, -, -, -, hNext⟩ := h.error hResult
    exact ⟨fault.passed, hNext⟩

/-- After any number of further calls the lexer has passed over more characters. -/
theorem Stands.calls {config : Config} {source : String} {passed : List Char} {lexer : Lexer}
    (h : lexer.Stands config source passed) (n : Nat) :
    ∃ more, (lexer.calls n).Stands config source (passed ++ more) := by
  induction n with
  | zero => exact ⟨[], by rw [List.append_nil]; exact h⟩
  | succ n ih =>
    obtain ⟨more, hStands⟩ := ih
    obtain ⟨more', hNext⟩ := hStands.nextToken
    rw [List.append_assoc] at hNext
    exact ⟨more ++ more', hNext⟩

/-- The invariant holds after every run of calls. -/
theorem exists_stands_calls (config : Config) (source : String) (n : Nat) :
    ∃ passed, ((ofText config source).calls n).Stands config source passed := by
  obtain ⟨passed, h⟩ := (stands_ofText config source).calls n
  exact ⟨passed, h⟩

end Lexer

end HdlLex
