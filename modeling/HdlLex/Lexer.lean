import HdlLex.Cursor
import HdlLex.Diagnostic.Collector
import HdlLex.Lexeme.Front
import HdlLex.Lexer.Event
import HdlLex.Trivia

/-!
# Lexer — a text read token by token

A lexer holds a cursor on a text, the diagnostics it has issued and the
events it has recorded. Reading the next token may be repeated for ever: the
end of the text is met again and again, and after an error reading goes on
from wherever the cursor was left.

* `Lexer.step` — the next token or error, what it passes through, and the
  cursor behind it.
* `Lexer.nextToken` — the same with its diagnostics and events.
* `Lexer.next?` — the next item of a stream that ends after the end of the
  text or an error.
-/

namespace HdlLex

/-- A text that is being read. -/
structure Lexer where
  config : Config
  /-- The text, from which snippets are taken. -/
  file : SourceFile
  cursor : Cursor
  /-- Whether the stream has yielded the end of the text or an error. -/
  finished : Bool
  /-- The diagnostics issued so far. -/
  collector : Diagnostic.Collector
  /-- The events recorded so far, oldest first. -/
  events : Array Event

/-! ## One step -/

/-- The error of a fault found at a cursor. -/
def Fault.toError (fault : Fault) (cursor : Cursor) : LexError :=
  let place := cursor.position.afterAll fault.lead
  ⟨fault.cause, place.line, place.column⟩

/-- The token of a lexeme that stands between two positions. -/
def Lexeme.toToken (lexeme : Lexeme) (start stop : Position) : Token :=
  ⟨lexeme.kind, String.ofList lexeme.meaning,
    ⟨start.offset, stop.offset, start.line, start.column⟩⟩

namespace Lexer

/-- What a step yields, and the cursor behind it. -/
structure Step where
  result : Except LexError Token
  /-- The character that begins no token, if it is passed through as one. -/
  unknown : Option Char
  cursor : Cursor

/-- What a step yields when a fault is found at a cursor. -/
def stopAt (fault : Fault) (cursor : Cursor) : Step :=
  ⟨.error (fault.toError cursor), none, cursor.advanceBy fault.passed.length⟩

/-- The token or error at a cursor behind which no trivia stand. -/
def readFront (config : Config) (cursor : Cursor) : Step :=
  match Lexeme.front config cursor.rest with
  | .error fault => stopAt fault cursor
  | .ok lexeme =>
    let stop := cursor.advanceBy lexeme.written.length
    { result := .ok (lexeme.toToken cursor.position stop.position)
      unknown := if lexeme.kind = .unknown then cursor.peek? else none
      cursor := stop }

/-- The next token or error, and the cursor behind it. -/
def step (config : Config) (cursor : Cursor) : Step :=
  match Trivia.gap config.nesting cursor.rest with
  | .error fault => stopAt fault cursor
  | .ok gap => readFront config (cursor.advanceBy gap.length)

/-! ## What is reported -/

/-- The code of the warning about a character passed through as a token. -/
def unknownCharCode : Diagnostic.Code := ⟨"W", 101⟩

/-- The warning about a character passed through as a token. -/
def unknownWarning (file : SourceFile) (c : Char) (token : Token) : Diagnostic :=
  Diagnostic.warning ("unknown character " ++ Text.quoteChar c)
    |>.withSpan token.span
    |>.withCode unknownCharCode
    |>.withSnippetFrom file

/-- The diagnostics that a result gives rise to, and an unknown character with it. -/
def diagnosticsOf (file : SourceFile) (unknown : Option Char) :
    Except LexError Token → List Diagnostic
  | .error error => [error.toDiagnostic file]
  | .ok token => (unknown.map (unknownWarning file · token)).toList

/-- The events that a result gives rise to, and an unknown character with it. -/
def eventsOf (unknown : Option Char) : Except LexError Token → List Event
  | .error error => [.failed error]
  | .ok token =>
    (unknown.map (.unknownPassed · token.span.line token.span.column)).toList ++ [.token token]

/-- The lexer after a step. -/
def record (lexer : Lexer) (step : Step) : Lexer :=
  { lexer with
    cursor := step.cursor
    collector := (diagnosticsOf lexer.file step.unknown step.result).foldl
      Diagnostic.Collector.emit lexer.collector
    events := lexer.events ++ eventsOf step.unknown step.result }

/-! ## Reading -/

/-- The name under which the text is known to its snippets. -/
def sourceName : String := "<input>"

/-- A lexer at the beginning of a text, behind a byte-order mark that the configuration skips. -/
def ofText (config : Config) (source : String) : Lexer :=
  let start := Cursor.start source.toList
  -- behind a mark the column is still the first one, while the offset is not
  let (skipped, cursor) := if config.skipMark then start.skipMark else (false, start)
  { config
    file := { name := sourceName, content := source }
    cursor
    finished := false
    collector := Diagnostic.Collector.empty
    events := if skipped then #[.markSkipped] else #[] }

/-- The next token or error. At the end of the text this is the end token, however often. -/
def nextToken (lexer : Lexer) : Except LexError Token × Lexer :=
  let next := step lexer.config lexer.cursor
  (next.result, lexer.record next)

/-- Whether the stream ends with this result. -/
def endsStream : Except LexError Token → Bool
  | .ok token => token.isEof
  | .error _ => true

/-- The next item of the stream, which ends after the end token or an error. -/
def next? (lexer : Lexer) : Option (Except LexError Token) × Lexer :=
  if lexer.finished then (none, lexer)
  else
    let (result, after) := lexer.nextToken
    (some result, { after with finished := endsStream result })

end Lexer

end HdlLex
