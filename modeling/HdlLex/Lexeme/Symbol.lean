import HdlLex.Alphabet
import HdlLex.Lexeme

/-!
# Lexeme — operators and delimiters

Of the operators with which a text begins the longest is taken. No delimiter
is the beginning of an operator.

* `operator?`, `delimiter?` — an operator or a delimiter at the front.
* `symbol?` — either of them.
-/

namespace HdlLex.Lexeme

/-- The operator at the front, the longest of those that are there. -/
def operator? (cs : List Char) : Option Lexeme :=
  if cs.head?.any isOperatorStart then
    (Operator.startOf? cs).map fun (text, operator) => plain (.operator operator) text
  else none

/-- The delimiter at the front. -/
def delimiter? : List Char → Option Lexeme
  | [] => none
  | c :: _ => (Delimiter.ofChar? c).map fun delimiter => plain (.delimiter delimiter) [c]

/-- The operator or delimiter at the front. -/
def symbol? (cs : List Char) : Option Lexeme := (operator? cs).or (delimiter? cs)

/-! ## What a symbol is -/

theorem operator?_eq_some {cs : List Char} {lexeme : Lexeme} (h : operator? cs = some lexeme) :
    ∃ operator : Operator, lexeme = plain (.operator operator) operator.spelling ∧
      Operator.startOf? cs = some (operator.spelling, operator) := by
  obtain ⟨-, hEntry⟩ := Option.ite_none_right_eq_some.1 h
  obtain ⟨⟨text, operator⟩, hStart, rfl⟩ := Option.map_eq_some_iff.1 hEntry
  obtain ⟨hMem, -⟩ := Operator.mem_and_isPrefix_of_startOf? hStart
  obtain rfl := Operator.spelling_of_mem_table hMem
  exact ⟨operator, rfl, hStart⟩

theorem delimiter?_eq_some {cs : List Char} {lexeme : Lexeme} (h : delimiter? cs = some lexeme) :
    ∃ (delimiter : Delimiter) (rest : List Char), cs = delimiter.symbol :: rest ∧
      lexeme = plain (.delimiter delimiter) [delimiter.symbol] := by
  cases cs with
  | nil => cases h
  | cons c rest =>
    obtain ⟨delimiter, hChar, rfl⟩ := Option.map_eq_some_iff.1 h
    obtain rfl := Delimiter.symbol_of_ofChar? hChar
    exact ⟨delimiter, rest, rfl, rfl⟩

theorem symbol?_isPrefix {cs : List Char} {lexeme : Lexeme} (h : symbol? cs = some lexeme) :
    lexeme.written <+: cs := by
  rcases Option.or_eq_some_iff.1 h with hOperator | ⟨-, hDelimiter⟩
  · obtain ⟨operator, rfl, hStart⟩ := operator?_eq_some hOperator
    exact (Operator.mem_and_isPrefix_of_startOf? hStart).2
  · obtain ⟨delimiter, rest, rfl, rfl⟩ := delimiter?_eq_some hDelimiter
    exact ⟨rest, rfl⟩

theorem symbol?_written_ne_nil {cs : List Char} {lexeme : Lexeme} (h : symbol? cs = some lexeme) :
    lexeme.written ≠ [] := by
  rcases Option.or_eq_some_iff.1 h with hOperator | ⟨-, hDelimiter⟩
  · obtain ⟨operator, rfl, -⟩ := operator?_eq_some hOperator
    exact Operator.ne_nil_of_mem_table (Operator.mem_table operator)
  · obtain ⟨delimiter, rest, -, rfl⟩ := delimiter?_eq_some hDelimiter
    exact List.cons_ne_nil _ _

end HdlLex.Lexeme
