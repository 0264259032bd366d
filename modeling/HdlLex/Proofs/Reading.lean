import HdlLex.Lexer
import HdlLex.Proofs.Fault
import HdlLex.Proofs.FrontGrammar

/-!
# Reading — one step without positions

A step depends on the text ahead alone: it passes over a gap and reads one
lexeme, or it meets a fault. The cursor adds nothing but positions, which
count on from where it stands. What is reported of a step is all in its result:
the unknown character that it passes through is the text of its token.

* `Lexer.read` — a gap and a lexeme behind it, or a fault.
* `Lexer.Step.ofResult` — the step with a result.
* `Lexer.issuedBy`, `Lexer.loggedBy` — what a result is reported as.

Main results:

* `Lexer.read_eq_ok` — a reading is a gap and a lexeme at the front of the text.
* `Lexer.read_fits` — a fault lies where it says, seen from the cursor.
* `Lexer.step_of_read_ok`, `Lexer.step_of_read_error` — a step is a reading at
  the cursor's position.
* `Lexer.collector_nextToken`, `Lexer.events_nextToken` — what a call reports.
-/

namespace HdlLex

/-- The error of a fault that is found from a position on. -/
def Fault.errorAt (fault : Fault) (position : Position) : LexError :=
  let place := position.afterAll fault.lead
  ⟨fault.cause, place.line, place.column⟩

theorem Fault.errorAt_behind (fault : Fault) (cs : List Char) (position : Position) :
    (fault.behind cs).errorAt position = fault.errorAt (position.afterAll cs) := by
  unfold Fault.errorAt Fault.behind
  rw [Position.afterAll_append]

/-- The cursor behind `cs`, which is followed by `ahead`. -/
def Cursor.behind (cursor : Cursor) (cs ahead : List Char) : Cursor :=
  { cursor with rest := ahead, position := cursor.position.afterAll cs }

namespace Lexer

-- ---------------------------------------------------------------------------
-- Readings
-- ---------------------------------------------------------------------------

/-- What stands at the front of a text: a gap and a lexeme behind it, or a fault. -/
def read (config : Config) (cs : List Char) : Except Fault (List Char × Lexeme) :=
  match Trivia.gap config.nesting cs with
  | .error fault => .error fault
  | .ok gap =>
    match Lexeme.front config (cs.drop gap.length) with
    | .error fault => .error (fault.behind gap)
    | .ok lexeme => .ok (gap, lexeme)

/-- A reading takes a gap and then a lexeme off the front of the text. -/
theorem read_eq_ok {config : Config} {cs gap : List Char} {lexeme : Lexeme}
    (h : read config cs = .ok (gap, lexeme)) :
    ∃ ahead, cs = gap ++ (lexeme.written ++ ahead) ∧ Trivia.gap config.nesting cs = .ok gap ∧
      Lexeme.front config (lexeme.written ++ ahead) = .ok lexeme := by
  unfold read at h
  split at h
  · cases h
  · next hGap =>
    split at h
    · cases h
    · next hFront =>
      cases h
      obtain ⟨rest, rfl⟩ := Trivia.gap_isPrefix hGap
      rw [List.drop_left] at hFront
      obtain ⟨ahead, rfl⟩ := Lexeme.front_isPrefix hFront
      exact ⟨ahead, rfl, hGap, hFront⟩

/-- The parts of a reading that is known to take this gap and this lexeme. -/
theorem gap_front_of_read {config : Config} {gap ahead : List Char} {lexeme : Lexeme}
    (h : read config (gap ++ (lexeme.written ++ ahead)) = .ok (gap, lexeme)) :
    Trivia.gap config.nesting (gap ++ (lexeme.written ++ ahead)) = .ok gap ∧
      Lexeme.front config (lexeme.written ++ ahead) = .ok lexeme := by
  obtain ⟨ahead', hSplit, hGap, hFront⟩ := read_eq_ok h
  obtain rfl : ahead = ahead' := by simpa using hSplit
  exact ⟨hGap, hFront⟩

/-- The fault of a reading is one of its gap or one of the lexeme behind the gap. -/
theorem read_eq_error {config : Config} {cs : List Char} {fault : Fault}
    (h : read config cs = .error fault) :
    Trivia.gap config.nesting cs = .error fault ∨
      ∃ gap ahead f, cs = gap ++ ahead ∧ Trivia.gap config.nesting cs = .ok gap ∧
        Lexeme.front config ahead = .error f ∧ fault = f.behind gap := by
  unfold read at h
  split at h
  · next hGap =>
    cases h
    exact Or.inl hGap
  · next gap hGap =>
    split at h
    · next f hFront =>
      cases h
      obtain ⟨ahead, rfl⟩ := Trivia.gap_isPrefix hGap
      rw [List.drop_left] at hFront
      exact Or.inr ⟨gap, ahead, f, rfl, hGap, hFront, rfl⟩
    · cases h

theorem read_of_gap_front {config : Config} {gap ahead : List Char} {lexeme : Lexeme}
    (hGap : Trivia.gap config.nesting (gap ++ ahead) = .ok gap)
    (hFront : Lexeme.front config ahead = .ok lexeme) :
    read config (gap ++ ahead) = .ok (gap, lexeme) := by
  unfold read
  rw [hGap]
  simp only [List.drop_left]
  rw [hFront]

/-- The fault of a reading lies where it says. -/
theorem read_fits {config : Config} {cs : List Char} {fault : Fault}
    (h : read config cs = .error fault) : fault.Fits cs := by
  rcases read_eq_error h with hGap | ⟨gap, ahead, f, rfl, -, hFront, rfl⟩
  · exact Trivia.gap_fits hGap
  · exact (Lexeme.front_fits hFront).behind gap

-- ---------------------------------------------------------------------------
-- Results
-- ---------------------------------------------------------------------------

/-- The unknown character that a result passes through, read off its text. -/
def unknownOf : Except LexError Token → Option Char
  | .ok token => if token.kind = .unknown then token.text.toList.head? else none
  | .error _ => none

/-- The step with a result, which leaves the cursor here. -/
def Step.ofResult (result : Except LexError Token) (cursor : Cursor) : Step :=
  ⟨result, unknownOf result, cursor⟩

/-- The diagnostics that are issued because of a result. -/
def issuedBy (file : SourceFile) (result : Except LexError Token) : List Diagnostic :=
  diagnosticsOf file (unknownOf result) result

/-- The events that are logged because of a result. -/
def loggedBy (result : Except LexError Token) : List Event := eventsOf (unknownOf result) result

section Results

variable {token : Token}

theorem unknownOf_of_text (hKind : token.kind = .unknown) {c : Char}
    (hText : token.text = String.ofList [c]) : unknownOf (.ok token) = some c := by
  rw [unknownOf, if_pos hKind, hText, String.toList_ofList, List.head?_cons]

theorem unknownOf_of_kind_ne (h : token.kind ≠ .unknown) : unknownOf (.ok token) = none := if_neg h

/-- The unknown character of a token is the one at the front of the text. -/
theorem unknownOf_toToken {config : Config} {cs : List Char} {lexeme : Lexeme}
    (h : Lexeme.front config cs = .ok lexeme) (start stop : Position) :
    unknownOf (.ok (lexeme.toToken start stop)) =
      if lexeme.kind = .unknown then cs.head? else none := by
  by_cases hKind : lexeme.kind = .unknown
  · obtain ⟨c, hFirst, rfl⟩ := Lexeme.front_unknown h hKind
    rw [if_pos hKind, hFirst]
    exact unknownOf_of_text hKind rfl
  · rw [if_neg hKind]
    exact unknownOf_of_kind_ne hKind

theorem issuedBy_unknown (file : SourceFile) (hKind : token.kind = .unknown) {c : Char}
    (hText : token.text = String.ofList [c]) :
    issuedBy file (.ok token) = [unknownWarning file c token] := by
  rw [issuedBy, unknownOf_of_text hKind hText]
  rfl

theorem issuedBy_of_kind_ne (file : SourceFile) (h : token.kind ≠ .unknown) :
    issuedBy file (.ok token) = [] := by
  rw [issuedBy, unknownOf_of_kind_ne h]
  rfl

theorem loggedBy_unknown (hKind : token.kind = .unknown) {c : Char}
    (hText : token.text = String.ofList [c]) : loggedBy (.ok token) =
      [.unknownPassed c token.span.line token.span.column, .token token] := by
  rw [loggedBy, unknownOf_of_text hKind hText]
  rfl

theorem loggedBy_of_kind_ne (h : token.kind ≠ .unknown) :
    loggedBy (.ok token) = [.token token] := by
  rw [loggedBy, unknownOf_of_kind_ne h]
  rfl

end Results

-- ---------------------------------------------------------------------------
-- Steps
-- ---------------------------------------------------------------------------

/-- A fault found at a cursor leaves it behind what was passed. -/
theorem stopAt_of_fits {fault : Fault} {cursor : Cursor} {ahead : List Char}
    (hRest : cursor.rest = fault.passed ++ ahead) :
    stopAt fault cursor = .ofResult (.error (fault.errorAt cursor.position))
      (cursor.behind fault.passed ahead) := by
  unfold stopAt
  rw [Cursor.advanceBy_length hRest]
  rfl

theorem step_of_read_ok {config : Config} {cursor : Cursor} {gap ahead : List Char}
    {lexeme : Lexeme} (h : read config cursor.rest = .ok (gap, lexeme))
    (hRest : cursor.rest = gap ++ (lexeme.written ++ ahead)) :
    step config cursor =
      .ofResult (.ok (lexeme.toToken (cursor.position.afterAll gap)
        (cursor.position.afterAll (gap ++ lexeme.written))))
      (cursor.behind (gap ++ lexeme.written) ahead) := by
  rw [hRest] at h
  obtain ⟨hGap, hFront⟩ := gap_front_of_read h
  rw [← hRest] at hGap
  unfold step
  rw [hGap]
  -- the cursor in front of the lexeme
  have hMid := Cursor.advanceBy_length hRest
  simp only [hMid, readFront, hFront, Cursor.peek?]
  rw [Cursor.advanceBy_length rfl]
  simp [Step.ofResult, Cursor.behind, unknownOf_toToken hFront]

theorem step_of_read_error {config : Config} {cursor : Cursor} {ahead : List Char}
    {fault : Fault} (h : read config cursor.rest = .error fault)
    (hRest : cursor.rest = fault.passed ++ ahead) :
    step config cursor =
      .ofResult (.error (fault.errorAt cursor.position)) (cursor.behind fault.passed ahead) := by
  rcases read_eq_error h with hGap | ⟨gap, behind, f, hSplit, hGap, hFront, rfl⟩
  · unfold step
    rw [hGap]
    exact stopAt_of_fits hRest
  · -- the fault lies behind a gap that the step has passed
    have hBehind : behind = f.passed ++ ahead := by
      rw [hRest] at hSplit
      simpa [Fault.behind] using hSplit.symm
    subst hBehind
    unfold step
    rw [hGap]
    have hMid := Cursor.advanceBy_length hSplit
    simp only [hMid, readFront, hFront]
    rw [stopAt_of_fits rfl, Fault.errorAt_behind]
    simp [Cursor.behind, Fault.behind]

/-- Every step reads a lexeme or meets a fault. -/
theorem read_cases (config : Config) (cs : List Char) :
    (∃ gap lexeme ahead, read config cs = .ok (gap, lexeme) ∧
        cs = gap ++ (lexeme.written ++ ahead)) ∨
      ∃ fault ahead, read config cs = .error fault ∧ cs = fault.passed ++ ahead := by
  cases hRead : read config cs with
  | ok unit =>
    obtain ⟨gap, lexeme⟩ := unit
    obtain ⟨ahead, hSplit, -, -⟩ := read_eq_ok hRead
    exact Or.inl ⟨gap, lexeme, ahead, rfl, hSplit⟩
  | error fault =>
    obtain ⟨ahead, hSplit⟩ := (read_fits hRead).passed_isPrefix
    exact Or.inr ⟨fault, ahead, rfl, hSplit.symm⟩

/-- A call makes a step and reports its result. -/
theorem nextToken_of_step {lexer : Lexer} {result : Except LexError Token} {cursor : Cursor}
    (h : step lexer.config lexer.cursor = .ofResult result cursor) :
    lexer.nextToken = (result, lexer.record (.ofResult result cursor)) := by
  unfold nextToken
  rw [h]
  rfl

/-- A call yields the token of the lexeme that is read, and leaves the cursor behind it. -/
theorem nextToken_of_read_ok {lexer : Lexer} {gap ahead : List Char} {lexeme : Lexeme}
    (h : read lexer.config lexer.cursor.rest = .ok (gap, lexeme))
    (hRest : lexer.cursor.rest = gap ++ (lexeme.written ++ ahead)) :
    let token := lexeme.toToken (lexer.cursor.position.afterAll gap)
      (lexer.cursor.position.afterAll (gap ++ lexeme.written))
    lexer.nextToken = (.ok token,
      lexer.record (.ofResult (.ok token) (lexer.cursor.behind (gap ++ lexeme.written) ahead))) :=
  nextToken_of_step (step_of_read_ok h hRest)

/-- A call yields the fault that is met, and leaves the cursor behind what was passed. -/
theorem nextToken_of_read_error {lexer : Lexer} {ahead : List Char} {fault : Fault}
    (h : read lexer.config lexer.cursor.rest = .error fault)
    (hRest : lexer.cursor.rest = fault.passed ++ ahead) :
    let error := fault.errorAt lexer.cursor.position
    lexer.nextToken = (.error error,
      lexer.record (.ofResult (.error error) (lexer.cursor.behind fault.passed ahead))) :=
  nextToken_of_step (step_of_read_error h hRest)

/-- The unknown character of a step is the one of its result. -/
theorem step_eq_ofResult (config : Config) (cursor : Cursor) :
    step config cursor = .ofResult (step config cursor).result (step config cursor).cursor := by
  rcases read_cases config cursor.rest with
    ⟨gap, lexeme, ahead, hRead, hRest⟩ | ⟨fault, ahead, hRead, hRest⟩
  · rw [step_of_read_ok hRead hRest]
    rfl
  · rw [step_of_read_error hRead hRest]
    rfl

/-- A call issues the diagnostics of its result. -/
theorem collector_nextToken (lexer : Lexer) : lexer.nextToken.2.collector =
    (issuedBy lexer.file lexer.nextToken.1).foldl Diagnostic.Collector.emit lexer.collector := by
  rw [nextToken, step_eq_ofResult]
  rfl

/-- A call logs the events of its result. -/
theorem events_nextToken (lexer : Lexer) :
    lexer.nextToken.2.events = lexer.events ++ loggedBy lexer.nextToken.1 := by
  rw [nextToken, step_eq_ofResult]
  rfl

end Lexer

end HdlLex
