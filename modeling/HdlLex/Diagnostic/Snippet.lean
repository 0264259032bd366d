import HdlLex.SourceFile

/-!
# Diagnostic — snippets

A snippet shows one line of source with carets under a range of its columns.

* `Snippet.point` — a single column.
* `Snippet.ofSpan` — the part of a span that lies on its first line.
* `Snippet.format` — the two lines that are printed.
-/

namespace HdlLex.Diagnostic

/-- A source line and the columns to underline. -/
structure Snippet where
  line : String
  /-- The number of the line, from one. -/
  lineNumber : Nat
  /-- The first column underlined, from one. -/
  startColumn : Nat
  /-- The column after the last one underlined. -/
  endColumn : Nat
  deriving DecidableEq, Repr

namespace Snippet

/-- A snippet that points at one column. -/
def point (line : String) (lineNumber column : Nat) : Snippet :=
  ⟨line, lineNumber, column, column⟩

/-- The number of characters of a span that stand on its first line. -/
def widthOf (file : SourceFile) (span : Span) : Except LookupError Nat :=
  if span.isEmpty then .ok 0
  else do
    let text ← file.textOf span
    return (Text.firstLine text.toList).length

/--
The line where a span begins, underlined from its column to the end of the
span or of the line.
-/
def ofSpan (file : SourceFile) (span : Span) : Except LookupError Snippet := do
  let line ← file.lineText span.line.toNat
  let width ← widthOf file span
  let column := max span.column.toNat 1
  return ⟨line, span.line.toNat, column, column + width⟩

/-- The left margin: a text set flush right in `width` columns, and a bar. -/
def margin (width : Nat) (text : List Char) : List Char :=
  text.leftpad width ' ' ++ [' ', '|', ' ']

/-- The line with its number, and below it carets under the range, at least one. -/
def format (snippet : Snippet) : String :=
  let number := Nat.toDigits 10 snippet.lineNumber
  let width := max number.length 3
  let carets := max (snippet.endColumn - snippet.startColumn) 1
  String.ofList <|
    -- the line with its number, and under it the carets behind an empty margin
    margin width number ++ snippet.line.toList ++ ['\n'] ++
      margin width [] ++ List.replicate (snippet.startColumn - 1) ' ' ++ List.replicate carets '^'

end Snippet

end HdlLex.Diagnostic
