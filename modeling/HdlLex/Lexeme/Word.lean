import HdlLex.Alphabet
import HdlLex.Lexeme

/-!
# Lexeme — words

A word is the longest run of word characters. Only then is it compared with
the reserved words, so a name may begin with one of them.
-/

namespace HdlLex.Lexeme

/-- The word at the front of a text that begins with one. -/
def word (unicode : Bool) (cs : List Char) : Lexeme :=
  let run := cs.takeWhile (isWordPart unicode)
  plain (TokenKind.ofWord run) run

end HdlLex.Lexeme
