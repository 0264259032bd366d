import HdlLex.Diagnostic.Code
import HdlLex.Diagnostic.Snippet

/-!
# Diagnostic — a report about a source text

A diagnostic has a severity and a message. A code, a place, suggestions and
snippets are added to it one by one.

* `Level`, `Diagnostic` — the severity and the report.
* `Diagnostic.error`, `Diagnostic.warning` — a report with a message only.
* `Diagnostic.withCode`, `withSpan`, `withHelp`, `withSnippet`,
  `withSnippetFrom` — a report with one thing more.
* `Diagnostic.render` — the text that is shown.
-/

namespace HdlLex

/-- How severe a report is. -/
inductive Level where
  | error
  | warning
  deriving DecidableEq, Repr

/-- Whether the report is of an error. -/
def Level.isError : Level → Bool
  | .error => true
  | .warning => false

/-- The word with which a report of this severity begins. -/
def Level.name : Level → String
  | .error => "error"
  | .warning => "warning"

/-- A report about a source text. -/
structure Diagnostic where
  level : Level
  message : String
  span : Span
  code : Option Diagnostic.Code
  /-- Suggestions, in the order in which they were added. -/
  helps : List String
  /-- Snippets, in the order in which they were added. -/
  snippets : List Diagnostic.Snippet
  deriving DecidableEq, Repr

namespace Diagnostic

/-- A report with a message only. -/
def ofMessage (level : Level) (message : String) : Diagnostic :=
  ⟨level, message, Span.nowhere, none, [], []⟩

/-- An error with a message only. -/
def error (message : String) : Diagnostic := ofMessage .error message

/-- A warning with a message only. -/
def warning (message : String) : Diagnostic := ofMessage .warning message

/-- The report with this code. -/
def withCode (code : Code) (diagnostic : Diagnostic) : Diagnostic :=
  { diagnostic with code := some code }

/-- The report about this stretch of source. -/
def withSpan (span : Span) (diagnostic : Diagnostic) : Diagnostic :=
  { diagnostic with span }

/-- The report with one more suggestion. -/
def withHelp (help : String) (diagnostic : Diagnostic) : Diagnostic :=
  { diagnostic with helps := diagnostic.helps ++ [help] }

/-- The report with one more snippet. -/
def withSnippet (snippet : Snippet) (diagnostic : Diagnostic) : Diagnostic :=
  { diagnostic with snippets := diagnostic.snippets ++ [snippet] }

/-- The report with a snippet of its span, if the span resolves to a line of the file. -/
def withSnippetFrom (file : SourceFile) (diagnostic : Diagnostic) : Diagnostic :=
  match Snippet.ofSpan file diagnostic.span with
  | .ok snippet => diagnostic.withSnippet snippet
  | .error _ => diagnostic

/-- The severity, with the code in brackets if there is one, and the message. -/
def headline (diagnostic : Diagnostic) : String :=
  match diagnostic.code with
  | some code => diagnostic.level.name ++ "[" ++ code.text ++ "]: " ++ diagnostic.message
  | none => diagnostic.level.name ++ ": " ++ diagnostic.message

/-- The line that names the place, unless the report has none. -/
def placeLine (diagnostic : Diagnostic) : List String :=
  if diagnostic.span.line = 0 then []
  else [s!" --> {diagnostic.span.line}:{diagnostic.span.column}"]

/-- The text of the report: headline, place, snippets and suggestions, each on lines of its own. -/
def render (diagnostic : Diagnostic) : String :=
  "\n".intercalate <|
    [diagnostic.headline] ++ diagnostic.placeLine ++ diagnostic.snippets.map Snippet.format ++
      diagnostic.helps.map ("  = help: " ++ ·)

end Diagnostic

end HdlLex
