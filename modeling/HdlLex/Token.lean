import HdlLex.Span
import HdlLex.Text.Quoted
import HdlLex.Text.Utf8
import HdlLex.Token.Kind

/-!
# Token — a unit of the language and where it stands

The text of a token is what it stands for: a string or character literal is
decoded, and everything else is as written. The lexeme is always the source
text under the token's span.
-/

namespace HdlLex

/-- A unit of the language. -/
structure Token where
  kind : TokenKind
  /-- What the token stands for. -/
  text : String
  span : Span
  deriving DecidableEq, Repr

namespace Token

/-- Whether the token marks the end of the text. -/
def isEof (token : Token) : Bool := token.kind == .eof

/-- The source text under the token, empty if the span does not fit the source. -/
def lexeme (token : Token) (source : String) : String :=
  String.ofList ((Text.slice? source.toList token.span.start token.span.stop).getD [])

/-- The token in a message: its kind, its text in quotes and its place. -/
def render (token : Token) : String :=
  token.kind.name ++ " " ++ Text.quoteText token.text ++
    s!" at {token.span.line}:{token.span.column}"

end Token

end HdlLex
