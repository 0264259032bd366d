import HdlLex.Token.Delimiter
import HdlLex.Token.Keyword
import HdlLex.Token.Operator

/-!
# Token — kinds

A token is a word of the language, an operator, a delimiter, a literal, or
one of two markers: a character that belongs to nothing, and the end.

* `TokenKind`, `TokenCategory` — the kinds, and the families into which they
  fall.
* `TokenKind.spelling?`, `name`, `describe`, `category` — what is known of a
  token from its kind alone.
* `TokenKind.ofWord` — the kind of a word.
-/

namespace HdlLex

/-- The truth value that is written like this. -/
def booleanOfWord? (word : List Char) : Option Bool :=
  if word = ['t', 'r', 'u', 'e'] then some true
  else if word = ['f', 'a', 'l', 's', 'e'] then some false
  else none

/-- The kinds of tokens. -/
inductive TokenKind where
  | keyword (keyword : Keyword)
  | operator (operator : Operator)
  | delimiter (delimiter : Delimiter)
  | identifier
  | string
  | number
  | boolean
  | binary
  | hex
  | float
  | char
  /-- A character that begins no token. -/
  | unknown
  /-- The end of the text. -/
  | eof
  deriving DecidableEq, Repr

/-- The families into which the kinds fall. -/
inductive TokenCategory where
  | keyword
  | operator
  | delimiter
  | literal
  /-- A marker without a lexical form of its own. -/
  | sentinel
  deriving DecidableEq, Repr

namespace TokenKind

/-- The family of the kind; names count as literals. -/
def category : TokenKind → TokenCategory
  | .keyword _ => .keyword
  | .operator _ => .operator
  | .delimiter _ => .delimiter
  | .identifier | .string | .number | .boolean | .binary | .hex | .float | .char => .literal
  | .unknown | .eof => .sentinel

/-- Whether the token stores a value: the plain and the compound assignments. -/
def isAssignment : TokenKind → Bool
  | .operator op => op.isAssignment
  | _ => false

/-- The only way to write a token of this kind, if there is only one. -/
def spelling? : TokenKind → Option (List Char)
  | .keyword word => some word.spelling
  | .operator op => some op.spelling
  | .delimiter mark => some [mark.symbol]
  | _ => none

/-- The kind of a word: a reserved word, a truth value, or else a name. -/
def ofWord (word : List Char) : TokenKind :=
  match Keyword.ofWord? word with
  | some reserved => .keyword reserved
  | none => if (booleanOfWord? word).isSome then .boolean else .identifier

/-! ## Names in listings and messages -/

/-- The name of a kind in listings. -/
def name : TokenKind → String
  | .keyword word => word.name
  | .operator op => op.name
  | .delimiter mark => mark.name
  | .identifier => "IDENTIFIER"
  | .string => "STRING_LITERAL"
  | .number => "NUMBER_LITERAL"
  | .boolean => "BOOLEAN_LITERAL"
  | .binary => "BINARY_LITERAL"
  | .hex => "HEX_LITERAL"
  | .float => "FLOAT_LITERAL"
  | .char => "CHAR_LITERAL"
  | .unknown => "UNKNOWN"
  | .eof => "EOF"

/-- What a message calls a token of this kind: its spelling in quotes, or a description. -/
def describe : TokenKind → String
  | .keyword word => String.ofList ('\'' :: word.spelling ++ ['\''])
  | .operator op => String.ofList ('\'' :: op.spelling ++ ['\''])
  | .delimiter mark => String.ofList ['\'', mark.symbol, '\'']
  | .identifier => "identifier"
  | .string => "string literal"
  | .number => "number literal"
  | .boolean => "boolean literal"
  | .binary => "binary literal"
  | .hex => "hex literal"
  | .float => "float literal"
  | .char => "character literal"
  | .unknown => "unknown character"
  | .eof => "end of file"

end TokenKind

end HdlLex
