import HdlLex.Proofs.Failure
import HdlLex.Proofs.Stream

/-!
# Progress — every run gets on

A call that yields a token other than the end passes over characters, and so
does a call that yields an error, with one exception: a character that begins no
lexeme is not passed. There, and at the end of the text, a lexer stays for good.
So a caller who goes on after errors reaches the end, unless unknown characters
are errors.

* `Lexer.Rests` — a lexer that the next call leaves where it is.

Main results:

* `Lexer.Rests.calls` — then all further calls leave it there.
* `Lexer.read_passed_ne_nil` — every fault but one passes over characters.
* `Lexer.Stands.exists_eof` — the end is reached, in a bounded number of calls.
* `calls_progress` — what every call of a run does.
-/

namespace HdlLex

-- ---------------------------------------------------------------------------
-- Faults pass over characters
-- ---------------------------------------------------------------------------

/-- A fault that can lie in a gap: a comment is not closed or nests too deep. -/
def LexError.Cause.IsComment (cause : LexError.Cause) : Prop :=
  cause = .unclosedComment ∨ ∃ limit, cause = .commentTooDeep limit

theorem Comment.block_error {nesting : Option UInt32} {cs : List Char} {fault : Fault}
    (h : block nesting cs = .error fault) : fault.cause.IsComment ∧ fault.passed ≠ [] := by
  unfold block at h
  split at h
  · cases h
  · cases h
    exact ⟨Or.inl rfl, by simp⟩
  · next limit _ =>
    cases h
    exact ⟨Or.inr ⟨limit, rfl⟩, by simp⟩

/-- The faults of a gap are those of comments, and pass over at least the opening mark. -/
theorem Trivia.gap_error {nesting : Option UInt32} {cs : List Char} {fault : Fault}
    (h : gap nesting cs = .error fault) : fault.cause.IsComment ∧ fault.passed ≠ [] := by
  fun_induction gap nesting cs generalizing fault with
  | case1 => cases h
  | case2 c cs _ ih =>
    obtain ⟨f, hRest, rfl⟩ := before_eq_error h
    exact ⟨(ih hRest).1, by simp [Fault.behind]⟩
  | case3 => cases h
  | case4 c cs _ fault' hFront =>
    cases h
    unfold Comment.front? at hFront
    split at hFront
    · cases hFront
    · exact Comment.block_error (Option.some.inj hFront)
    · cases hFront
  | case5 c cs _ comment hFront ih =>
    obtain ⟨f, hRest, rfl⟩ := before_eq_error h
    exact ⟨(ih hRest).1, by simp [Fault.behind, (ih hRest).2]⟩

theorem LexError.Cause.IsComment.ne_unexpectedChar {cause : LexError.Cause} (h : cause.IsComment)
    (c : Char) : cause ≠ .unexpectedChar c := by
  rcases h with rfl | ⟨limit, rfl⟩
  · simp
  · simp

/-- A text that fails for any other reason than an unexpected character is passed in part. -/
theorem Lexeme.Fails.passed_ne_nil {config : Config} {cs : List Char} {fault : Fault}
    (h : Fails config cs fault) (hOther : ∀ c, fault.cause ≠ .unexpectedChar c) :
    fault.passed ≠ [] := by
  cases h with
  | noDigits => simp
  | unclosed => simp
  | unclosedEscape => simp
  | unknownEscape => simp
  | notOneChar => simp
  | unexpected => exact absurd rfl (hOther _)

/-- An unexpected character stands at the front of the text, and nothing is passed. -/
theorem Lexeme.Fails.unexpectedChar {config : Config} {cs : List Char} {fault : Fault} {c : Char}
    (h : Fails config cs fault) (hCause : fault.cause = .unexpectedChar c) :
    config.unknownChars = .fatal ∧ fault = ⟨.unexpectedChar c, [], []⟩ ∧ cs.head? = some c := by
  cases h with
  | unclosed => exact absurd hCause (openCause_ne (by simp) (by simp) _)
  | unclosedEscape => exact absurd hCause (openCause_ne (by simp) (by simp) _)
  | unexpected hPolicy _ =>
    cases hCause
    exact ⟨hPolicy, rfl, rfl⟩
  | noDigits => cases hCause
  | unknownEscape => cases hCause
  | notOneChar => cases hCause

namespace Lexer

/-- Every fault but an unexpected character passes over characters. -/
theorem read_passed_ne_nil {config : Config} {cs : List Char} {fault : Fault}
    (h : read config cs = .error fault) (hOther : ∀ c, fault.cause ≠ .unexpectedChar c) :
    fault.passed ≠ [] := by
  rcases read_eq_error h with hGap | ⟨gap, ahead, f, -, -, hFront, rfl⟩
  · exact (Trivia.gap_error hGap).2
  · have hPassed := (Lexeme.front_eq_error_iff.1 hFront).passed_ne_nil hOther
    simp [Fault.behind, hPassed]

/-- An unexpected character is met again from where the lexer is left. -/
theorem read_unexpectedChar {config : Config} {cs : List Char} {fault : Fault} {c : Char}
    (h : read config cs = .error fault) (hCause : fault.cause = .unexpectedChar c) :
    config.unknownChars = .fatal ∧ fault.lead = fault.passed ∧
      ∃ ahead, cs = fault.passed ++ c :: ahead ∧
        read config (c :: ahead) = .error ⟨.unexpectedChar c, [], []⟩ := by
  rcases read_eq_error h with hGap | ⟨gap, ahead, f, rfl, hGap, hFront, rfl⟩
  · exact absurd hCause ((Trivia.gap_error hGap).1.ne_unexpectedChar c)
  · obtain ⟨hPolicy, rfl, hHead⟩ := (Lexeme.front_eq_error_iff.1 hFront).unexpectedChar hCause
    obtain ⟨rest, rfl⟩ := List.head?_eq_some_iff.1 hHead
    obtain ⟨-, hStarts⟩ := Trivia.gap_eq_ok_iff.1 hGap
    have hNoGap : Trivia.IsGap config.nesting (c :: rest) [] := .nil
    have hAgain := read_behind_gap hNoGap hStarts
    rw [hFront, List.nil_append] at hAgain
    exact ⟨hPolicy, rfl, rest, by simp [Fault.behind], hAgain⟩

-- ---------------------------------------------------------------------------
-- Lexers that stay
-- ---------------------------------------------------------------------------

/-- The next call leaves the lexer where it is. -/
def Rests (lexer : Lexer) : Prop :=
  lexer.nextToken.2.cursor = lexer.cursor

/-- What a call yields and where it leads depends on the configuration and the cursor alone. -/
theorem nextToken_congr {lexer other : Lexer} (hConfig : other.config = lexer.config)
    (hCursor : other.cursor = lexer.cursor) :
    other.nextToken.1 = lexer.nextToken.1 ∧
      other.nextToken.2.cursor = lexer.nextToken.2.cursor := by
  unfold nextToken
  rw [hConfig, hCursor]
  exact ⟨rfl, rfl⟩

theorem config_calls (lexer : Lexer) (n : Nat) : (lexer.calls n).config = lexer.config := by
  induction n with
  | zero => rfl
  | succ n ih => exact ih

/-- A lexer that stays once stays for good, and all further calls yield the same. -/
theorem Rests.calls {lexer : Lexer} (h : lexer.Rests) (n : Nat) :
    (lexer.calls n).cursor = lexer.cursor ∧ lexer.result n = lexer.nextToken.1 := by
  have hCursor : (lexer.calls n).cursor = lexer.cursor := by
    induction n with
    | zero => rfl
    | succ n ih =>
      have hSame := nextToken_congr (config_calls lexer n) ih
      exact hSame.2.trans h
  exact ⟨hCursor, (nextToken_congr (config_calls lexer n) hCursor).1⟩

/-- Calls that yield a token of a known kind issue no diagnostic. -/
theorem Rests.collector_calls {lexer : Lexer} {token : Token} (h : lexer.Rests)
    (hToken : lexer.nextToken.1 = .ok token) (hKind : token.kind ≠ .unknown) (n : Nat) :
    (lexer.calls n).collector = lexer.collector := by
  induction n with
  | zero => rfl
  | succ n ih =>
    have hResult : (lexer.calls n).nextToken.1 = .ok token := (h.calls n).2.trans hToken
    rw [Lexer.calls, collector_nextToken, hResult, issuedBy_of_kind_ne _ hKind, List.foldl_nil, ih]

-- ---------------------------------------------------------------------------
-- Where lexers stay
-- ---------------------------------------------------------------------------

theorem read_of_isGap {config : Config} {cs : List Char}
    (h : Trivia.IsGap config.nesting [] cs) : read config cs = .ok (cs, .plain .eof []) := by
  have hEnd := read_behind_gap h Trivia.StartsLexeme.nil
  rwa [List.append_nil] at hEnd

/-- The end is read exactly where only a gap is left. -/
theorem read_kind_eof_iff {config : Config} {cs gap : List Char} {lexeme : Lexeme}
    (h : read config cs = .ok (gap, lexeme)) :
    lexeme.kind = .eof ↔ Trivia.IsGap config.nesting [] cs := by
  constructor
  · intro hEof
    obtain ⟨hText, rfl⟩ := read_eof h hEof
    rw [hText] at h ⊢
    obtain ⟨hGap, -⟩ := gap_front_of_read h
    simpa [Lexeme.plain] using (Trivia.gap_eq_ok_iff.1 hGap).1
  · intro hGap
    rw [read_of_isGap hGap] at h
    cases h
    rfl

theorem behind_nil {cursor : Cursor} {ahead : List Char} (h : cursor.rest = ahead) :
    cursor.behind [] ahead = cursor := by
  rw [← h]
  rfl

namespace Stands

variable {config : Config} {source : String} {passed : List Char} {lexer : Lexer}

/-- The end is yielded exactly where only a gap is left. -/
theorem eof_iff (h : lexer.Stands config source passed) :
    (∃ token, lexer.nextToken.1 = .ok token ∧ token.kind = .eof) ↔
      Trivia.IsGap config.nesting [] lexer.cursor.rest := by
  constructor
  · rintro ⟨token, hToken, hEof⟩
    obtain ⟨gap, lexeme, ahead, hRead, -, rfl, -⟩ := h.token hToken
    exact (read_kind_eof_iff hRead).1 hEof
  · intro hGap
    have hText : lexer.cursor.rest = lexer.cursor.rest ++ ([] ++ []) := by simp
    have hNext := h.nextToken_of_read_ok (read_of_isGap hGap) hText
    exact ⟨_, congrArg Prod.fst hNext, rfl⟩

/-- Behind the end nothing is left, the lexer stays there, and it yields the same end again. -/
theorem rests_of_eof {token : Token} (h : lexer.Stands config source passed)
    (hToken : lexer.nextToken.1 = .ok token) (hEof : token.kind = .eof) :
    lexer.nextToken.2.cursor.rest = [] ∧ lexer.nextToken.2.Rests ∧
      lexer.nextToken.2.nextToken.1 = .ok token := by
  obtain ⟨gap, lexeme, ahead, hRead, hText, rfl, hNext⟩ := h.token hToken
  obtain ⟨hEnd, rfl⟩ := read_eof hRead hEof
  have hRest : lexer.nextToken.2.cursor.rest = [] := by
    refine h.rest_eq hNext ?_
    rw [List.append_assoc]
    exact hEnd
  have hReadEnd : read config lexer.nextToken.2.cursor.rest = .ok ([], .plain .eof []) := by
    rw [hRest]
    exact read_of_isGap .nil
  have hAgain := hNext.nextToken_of_read_ok hReadEnd hRest
  refine ⟨hRest, ?_, ?_⟩
  · have hCursor := congrArg (Lexer.cursor ∘ Prod.snd) hAgain
    exact hCursor.trans (behind_nil hRest)
  · rw [hAgain]
    simp [Lexeme.plain]

/-- An unexpected character lies ahead, the lexer stays there, and it yields the same error again. -/
theorem rests_of_unexpectedChar {error : LexError} {c : Char}
    (h : lexer.Stands config source passed) (hError : lexer.nextToken.1 = .error error)
    (hCause : error.cause = .unexpectedChar c) :
    config.unknownChars = .fatal ∧ lexer.nextToken.2.cursor.rest.head? = some c ∧
      lexer.nextToken.2.Rests ∧ lexer.nextToken.2.nextToken.1 = .error error := by
  obtain ⟨fault, ahead, hRead, hText, rfl, hNext⟩ := h.error hError
  obtain ⟨hPolicy, hLead, rest, hSplit, hAgain⟩ := read_unexpectedChar hRead hCause
  have hRest : lexer.nextToken.2.cursor.rest = c :: rest := h.rest_eq hNext hSplit
  rw [← hRest] at hAgain
  have hResult := hNext.nextToken_of_read_error hAgain (List.nil_append _).symm
  refine ⟨hPolicy, by rw [hRest, List.head?_cons], ?_, ?_⟩
  · have hCursor := congrArg (Lexer.cursor ∘ Prod.snd) hResult
    exact hCursor.trans (behind_nil rfl)
  · rw [hResult, Position.afterAll_append, ← hLead]
    have hCause' : fault.cause = .unexpectedChar c := hCause
    simp [Fault.errorAt, hCause']

-- ---------------------------------------------------------------------------
-- Lexers that get on
-- ---------------------------------------------------------------------------

/-- A token other than the end takes characters, and the lexer is left at its end. -/
theorem moves_of_token {token : Token} (h : lexer.Stands config source passed)
    (hToken : lexer.nextToken.1 = .ok token) (hMore : token.kind ≠ .eof) :
    lexer.nextToken.2.cursor.position.offset = token.span.stop ∧
      ∃ more, more ≠ [] ∧ lexer.nextToken.2.Stands config source (passed ++ more) := by
  obtain ⟨gap, lexeme, ahead, hRead, hText, rfl, hNext⟩ := h.token hToken
  have hTaken : gap ++ lexeme.written ≠ [] := by
    intro hNil
    exact written_ne_nil_of_read hRead hMore (List.append_eq_nil_iff.1 hNil).2
  refine ⟨?_, gap ++ lexeme.written, hTaken, hNext⟩
  rw [hNext.offset_eq, (h.covers hText).stop_eq]
  simp only [List.append_assoc]

/-- An error other than an unexpected character passes over characters. -/
theorem moves_of_error {error : LexError} (h : lexer.Stands config source passed)
    (hError : lexer.nextToken.1 = .error error) (hOther : ∀ c, error.cause ≠ .unexpectedChar c) :
    ∃ more, more ≠ [] ∧ lexer.nextToken.2.Stands config source (passed ++ more) := by
  obtain ⟨fault, ahead, hRead, -, rfl, hNext⟩ := h.error hError
  exact ⟨fault.passed, read_passed_ne_nil hRead hOther, hNext⟩

/-- A lexer that has passed over more characters is further on. -/
theorem offset_lt {later : Lexer} {more : List Char} (h : lexer.Stands config source passed)
    (hLater : later.Stands config source (passed ++ more)) (hMore : more ≠ []) :
    lexer.cursor.position.offset < later.cursor.position.offset := by
  obtain ⟨c, cs, rfl⟩ := List.exists_cons_of_ne_nil hMore
  have hPos := c.utf8Size_pos
  rw [h.offset_eq, hLater.offset_eq, ← List.append_assoc, Text.byteLength_append _ (c :: cs),
    Text.byteLength]
  omega

theorem offset_le {later : Lexer} {more : List Char} (h : lexer.Stands config source passed)
    (hLater : later.Stands config source (passed ++ more)) :
    lexer.cursor.position.offset ≤ later.cursor.position.offset := by
  rw [h.offset_eq, hLater.offset_eq, ← List.append_assoc, Text.byteLength_append _ more]
  omega

/-- A lexer that has passed over more characters has fewer of them ahead. -/
theorem length_rest_lt {later : Lexer} {more : List Char} (h : lexer.Stands config source passed)
    (hLater : later.Stands config source (passed ++ more)) (hMore : more ≠ []) :
    later.cursor.rest.length < lexer.cursor.rest.length := by
  have hSame := congrArg List.length (h.source_eq.symm.trans hLater.source_eq)
  have hPos := List.length_pos_iff.2 hMore
  simp only [List.length_append] at hSame
  omega

/-- Where unknown characters are passed through, a call meets the end or gets on. -/
theorem eof_or_moves (h : lexer.Stands config source passed)
    (hPolicy : config.unknownChars = .passThrough) :
    (∃ token, lexer.nextToken.1 = .ok token ∧ token.kind = .eof) ∨
      ∃ more, more ≠ [] ∧ lexer.nextToken.2.Stands config source (passed ++ more) := by
  cases hResult : lexer.nextToken.1 with
  | ok token =>
    by_cases hEof : token.kind = .eof
    · exact Or.inl ⟨token, rfl, hEof⟩
    · exact Or.inr (h.moves_of_token hResult hEof).2
  | error error =>
    refine Or.inr (h.moves_of_error hResult ?_)
    intro c hCause
    have hFatal := (h.rests_of_unexpectedChar hResult hCause).1
    rw [hPolicy] at hFatal
    cases hFatal

end Stands

/--
The end is reached after at most as many calls as characters are ahead. The
induction is on these characters, of which every earlier call leaves fewer.
-/
theorem Stands.exists_eof {config : Config} {source : String} {passed : List Char}
    {lexer : Lexer} (h : lexer.Stands config source passed)
    (hPolicy : config.unknownChars = .passThrough) :
    ∃ n token, n ≤ lexer.cursor.rest.length ∧ lexer.result n = .ok token ∧ token.kind = .eof := by
  induction hLength : lexer.cursor.rest.length using Nat.strong_induction_on
    generalizing lexer passed with
  | _ length ih =>
    rcases h.eof_or_moves hPolicy with ⟨token, hToken, hEof⟩ | ⟨more, hMore, hNext⟩
    · exact ⟨0, token, Nat.zero_le _, hToken, hEof⟩
    · have hLess := h.length_rest_lt hNext hMore
      rw [hLength] at hLess
      obtain ⟨n, token, hBound, hToken, hEof⟩ := ih _ hLess hNext rfl
      refine ⟨1 + n, token, by omega, ?_, hEof⟩
      -- the calls of the lexer behind the first one are its own later calls
      have hCalls := calls_add lexer 1 n
      unfold result at hToken ⊢
      rw [hCalls]
      exact hToken

/-- After a call that leaves the lexer where it then stays, all later calls yield the same. -/
theorem Rests.later {lexer : Lexer} {n : Nat} (h : (lexer.calls (n + 1)).Rests) {m : Nat}
    (hLater : n < m) :
    (lexer.calls m).cursor = (lexer.calls (n + 1)).cursor ∧
      lexer.result m = lexer.result (n + 1) := by
  obtain ⟨k, rfl⟩ : ∃ k, m = n + 1 + k := ⟨m - (n + 1), by omega⟩
  have hCalls := calls_add lexer (n + 1) k
  have hSame := h.calls k
  unfold result at hSame ⊢
  rw [hCalls]
  exact hSame

end Lexer

/--
What the calls of a run do, whatever came before. None goes back. A token but
the end leaves the lexer at its end, further on than before. The end comes
exactly where only a gap is left; the lexer is then at the end of the text, and
all later calls yield that same end and change nothing. An unexpected character
is left ahead and met again by all later calls; every other error leaves the
lexer further on. So the end is reached where unknown characters are passed
through, by a call whose number is at most that of the characters.
-/
theorem calls_progress (config : Config) (source : String) (n : Nat) :
    let lexer := Lexer.ofText config source
    let offset := fun k => (lexer.calls k).cursor.position.offset
    offset n ≤ offset (n + 1) ∧
    (∀ token, lexer.result n = .ok token → token.kind ≠ .eof →
      offset (n + 1) = token.span.stop ∧ offset n < offset (n + 1)) ∧
    ((∃ token, lexer.result n = .ok token ∧ token.kind = .eof) ↔
      Trivia.IsGap config.nesting [] (lexer.calls n).cursor.rest) ∧
    (∀ token, lexer.result n = .ok token → token.kind = .eof →
      offset (n + 1) = Text.byteLength source.toList ∧
      ∀ m, n < m → lexer.result m = .ok token ∧
        (lexer.calls m).cursor = (lexer.calls (n + 1)).cursor ∧
        (lexer.calls m).collector = (lexer.calls (n + 1)).collector) ∧
    (∀ error c, lexer.result n = .error error → error.cause = .unexpectedChar c →
      (lexer.calls (n + 1)).cursor.rest.head? = some c ∧
      ∀ m, n < m → lexer.result m = .error error ∧
        (lexer.calls m).cursor = (lexer.calls (n + 1)).cursor) ∧
    (∀ error, lexer.result n = .error error → (∀ c, error.cause ≠ .unexpectedChar c) →
      offset n < offset (n + 1)) ∧
    (config.unknownChars = .passThrough →
      ∃ k token, k ≤ source.length ∧ lexer.result k = .ok token ∧ token.kind = .eof) := by
  intro lexer offset
  obtain ⟨passed, hStands⟩ := Lexer.exists_stands_calls config source n
  refine ⟨?_, ?_, hStands.eof_iff, ?_, ?_, ?_, ?_⟩
  · obtain ⟨more, hNext⟩ := hStands.nextToken
    exact hStands.offset_le hNext
  · intro token hToken hMore
    obtain ⟨hStop, more, hTaken, hNext⟩ := hStands.moves_of_token hToken hMore
    exact ⟨hStop, hStands.offset_lt hNext hTaken⟩
  · intro token hToken hEof
    obtain ⟨hRest, hRests, hAgain⟩ := hStands.rests_of_eof hToken hEof
    refine ⟨?_, ?_⟩
    · obtain ⟨more, hNext⟩ := hStands.nextToken
      have hSource := hNext.source_eq
      rw [hRest, List.append_nil] at hSource
      rw [hSource]
      exact hNext.offset_eq
    · intro m hLater
      obtain ⟨hCursor, hResult⟩ := Lexer.Rests.later hRests hLater
      refine ⟨hResult.trans hAgain, hCursor, ?_⟩
      obtain ⟨k, rfl⟩ : ∃ k, m = n + 1 + k := ⟨m - (n + 1), by omega⟩
      rw [Lexer.calls_add lexer (n + 1) k]
      exact hRests.collector_calls hAgain (by simp [hEof]) k
  · intro error c hError hCause
    obtain ⟨-, hHead, hRests, hAgain⟩ := hStands.rests_of_unexpectedChar hError hCause
    refine ⟨hHead, ?_⟩
    intro m hLater
    obtain ⟨hCursor, hResult⟩ := Lexer.Rests.later hRests hLater
    exact ⟨hResult.trans hAgain, hCursor⟩
  · intro error hError hOther
    obtain ⟨more, hTaken, hNext⟩ := hStands.moves_of_error hError hOther
    exact hStands.offset_lt hNext hTaken
  · intro hPolicy
    have hStart := Lexer.stands_ofText config source
    obtain ⟨k, token, hBound, hToken, hEof⟩ := hStart.exists_eof hPolicy
    refine ⟨k, token, ?_, hToken, hEof⟩
    have hLength := congrArg List.length hStart.source_eq
    simp only [List.length_append, String.length_toList] at hLength
    omega

end HdlLex
