import HdlLex.LexError
import HdlLex.Token

/-!
# Lexer — events

A lexer keeps a record of what happens while it reads: the beginning and the
end of a run, every token, every character passed through and every error.

* `Event` — what can happen.
* `Event.severity`, `message`, `fields` — how an event is recorded.
-/

namespace HdlLex

/-- What can happen while a text is read. -/
inductive Event where
  /-- A byte-order mark was passed over. -/
  | markSkipped
  /-- A text of so many bytes is going to be read to its end. -/
  | started (bytes : Nat)
  /-- A token was read. -/
  | token (token : Token)
  /-- A character that begins no token was passed through. -/
  | unknownPassed (character : Char) (line column : UInt32)
  /-- Reading failed. -/
  | failed (error : LexError)
  /-- The end was reached with so many tokens. -/
  | finished (tokens : Nat)
  deriving DecidableEq, Repr

/-- How much attention an event deserves. -/
inductive Severity where
  | trace
  | debug
  | warn
  deriving DecidableEq, Repr

/-- The value of a named field of an event. -/
inductive Event.Field where
  | number (n : Nat)
  | text (s : String)
  deriving DecidableEq, Repr

namespace Event

/-- How much attention the event deserves. -/
def severity : Event → Severity
  | .markSkipped | .token _ => .trace
  | .started _ | .failed _ | .finished _ => .debug
  | .unknownPassed .. => .warn

/-- The message recorded for the event. -/
def message : Event → String
  | .markSkipped => "skipped byte-order mark"
  | .started _ => "lexing started"
  | .token _ => "token"
  | .unknownPassed .. => "passing unknown character through"
  | .failed error => error.message
  | .finished _ => "lexing finished"

/-- The named fields recorded for the event. -/
def fields : Event → List (String × Field)
  | .markSkipped => []
  | .started bytes => [("bytes", .number bytes)]
  | .token unit =>
    [("kind", .text unit.kind.name), ("text", .text unit.text),
      ("line", .number unit.span.line.toNat), ("column", .number unit.span.column.toNat)]
  | .unknownPassed character line column =>
    [("character", .text (Text.quoteChar character)),
      ("line", .number line.toNat), ("column", .number column.toNat)]
  | .failed error => [("code", .text error.code.text)]
  | .finished tokens => [("tokens", .number tokens)]

end Event

end HdlLex
