import HdlLex.Lexer

/-!
# Lexer — the whole stream

Every token but the end takes at least one character, so the stream of a
text ends.

* `Lexer.items` — the items that are left in the stream.
* `Lexer.tokenize` — the tokens that are left or the first error, with events
  for the beginning and the end of reading.
* `tokenize` — the tokens of a text.
-/

namespace HdlLex

namespace Lexer

/-! ## The stream ends -/

/-- A token other than the end leaves less text ahead. -/
theorem length_rest_readFront_lt {config : Config} {cursor : Cursor} {token : Token}
    (h : (readFront config cursor).result = .ok token) (hMore : token.isEof = false) :
    (readFront config cursor).cursor.rest.length < cursor.rest.length := by
  unfold readFront at h ⊢
  split at h
  · cases h
  · next lexeme hFront =>
    cases h
    simp only [Cursor.length_rest_advanceBy]
    cases hRest : cursor.rest with
    | nil =>
      -- at the end of the text there is only the end token
      rw [hRest, Lexeme.front] at hFront
      cases hFront
      cases hMore
    | cons c cs =>
      rw [hRest] at hFront
      have hWritten := List.length_pos_iff.2 (Lexeme.written_ne_nil hFront)
      simp only [List.length_cons]
      omega

/-- A token other than the end leaves less text ahead. -/
theorem length_rest_step_lt {config : Config} {cursor : Cursor} {token : Token}
    (h : (step config cursor).result = .ok token) (hMore : token.isEof = false) :
    (step config cursor).cursor.rest.length < cursor.rest.length := by
  unfold step at h ⊢
  split at h
  · cases h
  · next gap _ =>
    have hFewer := length_rest_readFront_lt h hMore
    rw [Cursor.length_rest_advanceBy] at hFewer
    omega

/-- How many more items the stream can have at most. -/
def bound (lexer : Lexer) : Nat :=
  if lexer.finished then 0 else lexer.cursor.rest.length + 1

/-- Every item of the stream leaves fewer to come. -/
theorem bound_next?_lt {lexer after : Lexer} {result : Except LexError Token}
    (h : lexer.next? = (some result, after)) : after.bound < lexer.bound := by
  unfold next? at h
  split at h
  · cases h
  · next hRunning =>
    simp only [nextToken, Prod.mk.injEq, Option.some.injEq] at h
    obtain ⟨hResult, rfl⟩ := h
    simp only [bound, record, hResult, hRunning]
    cases result with
    | error error => simp [endsStream]
    | ok token =>
      by_cases hEof : token.isEof = true
      · simp [endsStream, hEof]
      · have hFewer := length_rest_step_lt hResult (Bool.eq_false_iff.2 hEof)
        simp only [endsStream, hEof]
        simpa using hFewer

/-! ## Reading to the end -/

/-- The items that are left in the stream, and the lexer behind them. -/
def items (lexer : Lexer) : List (Except LexError Token) × Lexer :=
  match _ : lexer.next? with
  | (none, after) => ([], after)
  | (some result, after) =>
    let (results, last) := items after
    (result :: results, last)
termination_by lexer.bound
decreasing_by
  rename_i hItem
  exact bound_next?_lt hItem

/-- The lexer with one more event. -/
def log (lexer : Lexer) (event : Event) : Lexer :=
  { lexer with events := lexer.events.push event }

/-- Reads to the end: the tokens that are left, the end token last, or the first error. -/
def tokenize (lexer : Lexer) : Except LexError (List Token) × Lexer :=
  let (results, last) := (lexer.log (.started (Text.byteLength lexer.cursor.source))).items
  match results.mapM id with
  | .ok tokens => (.ok tokens, last.log (.finished tokens.length))
  | .error error => (.error error, last)

end Lexer

/-- The tokens of a text, the end token last, or the first error. -/
def tokenize (config : Config) (source : String) : Except LexError (List Token) :=
  (Lexer.ofText config source).tokenize.1

end HdlLex
