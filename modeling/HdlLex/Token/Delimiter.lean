/-!
# Token — delimiters

Brackets and punctuation, each a single character. None is the beginning of
an operator.

* `Delimiter`, `Delimiter.symbol` — the delimiters, and the character of each.
* `Delimiter.table`, `Delimiter.ofChar?` — the characters to look for, and the
  delimiter for which one stands.
-/

namespace HdlLex

/-- The delimiters, each a single character. -/
inductive Delimiter where
  | leftParen | rightParen | leftBrace | rightBrace | leftBracket | rightBracket
  | semicolon | colon | comma | dot | atSign | question | hash
  deriving DecidableEq, Repr

namespace Delimiter

/-- Every delimiter. -/
def all : List Delimiter :=
  [.leftParen, .rightParen, .leftBrace, .rightBrace, .leftBracket, .rightBracket,
    .semicolon, .colon, .comma, .dot, .atSign, .question, .hash]

/-- The character that is the delimiter. -/
def symbol : Delimiter → Char
  | .leftParen => '('
  | .rightParen => ')'
  | .leftBrace => '\x7b'
  | .rightBrace => '\x7d'
  | .leftBracket => '['
  | .rightBracket => ']'
  | .semicolon => ';'
  | .colon => ':'
  | .comma => ','
  | .dot => '.'
  | .atSign => '@'
  | .question => '?'
  | .hash => '#'

/-- The delimiters under the characters that stand for them. -/
def table : List (Char × Delimiter) :=
  [('(', .leftParen), (')', .rightParen), ('\x7b', .leftBrace), ('\x7d', .rightBrace),
    ('[', .leftBracket), (']', .rightBracket), (';', .semicolon), (':', .colon), (',', .comma),
    ('.', .dot), ('@', .atSign), ('?', .question), ('#', .hash)]

/-- The delimiter for which this character stands. -/
def ofChar? (c : Char) : Option Delimiter := table.lookup c

/-- The name of a delimiter in listings. -/
def name : Delimiter → String
  | .leftParen => "LEFTPAREN"
  | .rightParen => "RIGHTPAREN"
  | .leftBrace => "LEFTBRACE"
  | .rightBrace => "RIGHTBRACE"
  | .leftBracket => "LEFTBRACKET"
  | .rightBracket => "RIGHTBRACKET"
  | .semicolon => "SEMICOLON"
  | .colon => "COLON"
  | .comma => "COMMA"
  | .dot => "DOT"
  | .atSign => "AT"
  | .question => "QUESTION"
  | .hash => "HASH"

theorem mem_all (delimiter : Delimiter) : delimiter ∈ all := by
  cases delimiter <;> decide

/-! ## The table -/

/-- The table has every delimiter under its character. -/
theorem ofChar?_symbol (delimiter : Delimiter) : ofChar? delimiter.symbol = some delimiter := by
  cases delimiter <;> decide

/-- It has no delimiter under another character. -/
theorem symbol_of_ofChar? {c : Char} {delimiter : Delimiter} (h : ofChar? c = some delimiter) :
    delimiter.symbol = c := by
  have hAll : ∀ entry ∈ table, entry.2.symbol = entry.1 := by decide
  obtain ⟨before, after, hTable, -⟩ := List.lookup_eq_some_iff.1 h
  have hMem : (c, delimiter) ∈ table := by
    rw [hTable]
    exact List.mem_append_right before List.mem_cons_self
  exact hAll (c, delimiter) hMem

end Delimiter

end HdlLex
