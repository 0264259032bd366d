import HdlLex.Diagnostic

/-!
# LexError — what is wrong with a text, and where

A lexical error has a cause and the place where the faulty construct begins.
Its message repeats the place; its code and its suggestion depend on the
cause alone.

* `LexError.Cause`, `LexError` — the causes, and a cause at a place.
* `LexError.message`, `code`, `help` — what is said about an error.
* `LexError.toDiagnostic` — the report of an error with a snippet.
-/

namespace HdlLex

/-- What can be wrong with a text. -/
inductive LexError.Cause where
  /-- The line or the text ends inside a string literal. -/
  | unclosedString
  /-- The line or the text ends inside a character literal. -/
  | unclosedChar
  /-- No digit of the base follows the mark of a base, `0b` or `0x` in either case. -/
  | noDigits (mark : String)
  /-- A character literal stands for no character or for several. -/
  | notOneChar (found : String)
  /-- A backslash stands before a character that has no escape. -/
  | unknownEscape (escape : Char)
  /-- The text ends inside a block comment. -/
  | unclosedComment
  /-- A character begins no token. -/
  | unexpectedChar (character : Char)
  /-- Block comments are nested deeper than allowed. -/
  | commentTooDeep (limit : UInt32)
  deriving DecidableEq, Repr

/-- A cause, and the line and column where the faulty construct begins. -/
structure LexError where
  cause : LexError.Cause
  line : UInt32
  column : UInt32
  deriving DecidableEq, Repr

namespace LexError

/-! ## Codes -/

/-- The code of a lexical error. -/
def Cause.code : Cause → Diagnostic.Code
  | .unclosedString => ⟨"E", 101⟩
  | .unclosedChar => ⟨"E", 102⟩
  | .noDigits _ => ⟨"E", 103⟩
  | .notOneChar _ => ⟨"E", 104⟩
  | .unknownEscape _ => ⟨"E", 105⟩
  | .unclosedComment => ⟨"E", 106⟩
  | .unexpectedChar _ => ⟨"E", 107⟩
  | .commentTooDeep _ => ⟨"E", 108⟩

/-! ## Wording -/

/-- What is wrong, up to the place. -/
def Cause.summary : Cause → String
  | .unclosedString => "unterminated string literal"
  | .unclosedChar => "unterminated character literal"
  | .noDigits mark => "no digits after '" ++ mark ++ "' prefix"
  | .notOneChar found => "invalid character literal '" ++ found ++ "'"
  | .unknownEscape escape => "invalid escape sequence '\\" ++ escape.toString ++ "'"
  | .unclosedComment => "unterminated block comment"
  | .unexpectedChar character => "unexpected character " ++ Text.quoteChar character
  | .commentTooDeep limit => "block comment nesting exceeds " ++ toString limit ++ " levels"

/-- What was expected, where the message says so after the place. -/
def Cause.expectation : Cause → String
  | .notOneChar _ => ": expected exactly one character"
  | _ => ""

/-- The digits that may follow the mark of a base. -/
def digitsAfter (mark : String) : String :=
  if mark = "0b" || mark = "0B" then "binary digits (0-1)" else "hex digits (0-9, a-f, A-F)"

/-- How the fault can be mended. -/
def Cause.help : Cause → String
  | .unclosedString => "close the string with '\"' before the end of the line"
  | .unclosedChar => "close the character literal with '\\'' before the end of the line"
  | .noDigits mark => "'" ++ mark ++ "' must be followed by one or more " ++ digitsAfter mark
  | .notOneChar _ => "use a string literal for more than one character"
  | .unknownEscape _ => "supported escapes are \\n \\t \\r \\\\ \\\" \\' \\0"
  | .unclosedComment => "close the comment with '*/'"
  | .unexpectedChar _ => "remove the character or place it inside a string literal"
  | .commentTooDeep _ => "flatten the nested comments or raise max_comment_depth"

/-- What is wrong and where. -/
def message (error : LexError) : String :=
  error.cause.summary ++ s!" at line {error.line}, column {error.column}" ++
    error.cause.expectation

/-- The code of the error. -/
def code (error : LexError) : Diagnostic.Code := error.cause.code

/-- How the fault can be mended. -/
def help (error : LexError) : String := error.cause.help

/-! ## Reports -/

/-- The place of the error. -/
def span (error : LexError) : Span := Span.point error.line error.column

/-- The report of the error, with a snippet if its place is a line of the file. -/
def toDiagnostic (error : LexError) (file : SourceFile) : Diagnostic :=
  Diagnostic.error error.message
    |>.withCode error.code
    |>.withSpan error.span
    |>.withSnippetFrom file
    |>.withHelp error.help

end LexError

end HdlLex
