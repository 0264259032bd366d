import HdlLex.Span
import HdlLex.Text.Lines
import HdlLex.Text.Quoted
import HdlLex.Text.Utf8

/-!
# SourceFile — a named text and its lines

A source file keeps its text cut into lines, so that a place given by line
or by byte offsets can be turned back into text. A lookup that does not
resolve says why.

* `SourceFile` — name, content and lines; the lines are those of the content.
* `LookupError` — why a place has no text, and the wording of it.
* `SourceFile.line?`, `lineText`, `range`, `textOf` — lookups by line number,
  by offsets and by span.
-/

namespace HdlLex

/-- A named text together with its lines. -/
structure SourceFile where
  name : String
  content : String
  /--
  The lines of the content, each with its line feed. The pieces are kept, and
  not the offsets where they begin: a line is looked up without cutting the
  text again, and the offsets can be counted off the pieces (see `lineStart?`).
  -/
  lines : List (List Char) := Text.linePieces content.toList
  lines_eq : lines = Text.linePieces content.toList := by rfl

/-- Why a place does not resolve to text. -/
inductive LookupError where
  /-- The offsets are in the wrong order. -/
  | reversed (start stop : Nat)
  /-- The text ends before the last offset. -/
  | beyondEnd (size start stop : Nat)
  /-- An offset falls inside a character. -/
  | insideCharacter (start stop : Nat)
  /-- There is no line of that number. -/
  | noSuchLine (line lineCount : Nat)
  deriving DecidableEq, Repr

/-- The wording of a failed lookup. -/
def LookupError.message : LookupError → String
  | .reversed start stop => s!"Invalid span: start {start} > end {stop}"
  | .beyondEnd size start stop =>
    s!"Span out of bounds: file has {size} bytes, span is {start}..{stop}"
  | .insideCharacter start stop => s!"Span {start}..{stop} is not on character boundaries"
  | .noSuchLine line lineCount => s!"Invalid line number: {line} (file has {lineCount} lines)"

namespace SourceFile

/-- How many lines the text has; a line feed at the end opens one more. -/
def lineCount (file : SourceFile) : Nat := file.lines.length

/-- The number of bytes of the text. -/
def byteLength (file : SourceFile) : Nat := Text.byteLength file.content.toList

/-- The offset where a line begins; the first line has index zero. -/
def lineStart? (file : SourceFile) (index : Nat) : Option Nat :=
  if index < file.lineCount then some (Text.byteLength (file.lines.take index).flatten) else none

/-- A line by its number, from one, without its terminator. -/
def line? (file : SourceFile) : (number : Nat) → Option String
  | 0 => none
  | index + 1 => file.lines[index]?.map fun line => String.ofList (Text.trimLineEnd line)

/-- A line by its number, or the report that there is none. -/
def lineText (file : SourceFile) (number : Nat) : Except LookupError String :=
  match file.line? number with
  | some line => .ok line
  | none => .error (.noSuchLine number file.lineCount)

/-- The text between two offsets. Order is checked first, then the end, then the boundaries. -/
def range (file : SourceFile) (start stop : Nat) : Except LookupError String :=
  -- reversed offsets are reported as such even where they lie beyond the end
  if stop < start then .error (.reversed start stop)
  else if file.byteLength < stop then .error (.beyondEnd file.byteLength start stop)
  else match Text.slice? file.content.toList start stop with
    | some text => .ok (String.ofList text)
    | none => .error (.insideCharacter start stop)

/-- The text that a span covers. -/
def textOf (file : SourceFile) (span : Span) : Except LookupError String :=
  file.range span.start span.stop

/-- A short account of the file: its name and how many lines it has. -/
def summary (file : SourceFile) : String :=
  "SourceFile \x7b name: " ++ Text.quoteText file.name ++ ", line_count: " ++
    toString file.lineCount ++ " \x7d"

end SourceFile

end HdlLex
