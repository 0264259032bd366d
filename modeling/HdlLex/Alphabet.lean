import HdlLex.Text.Alphabetic
import HdlLex.Text.Blank
import HdlLex.Text.Numeric

/-!
# Alphabet — the character classes of the language

Words are made of ASCII letters, digits and underscores. On request any
alphabetic character may begin a word and any alphanumeric one may go on
with it. Digits are ASCII in every radix.

* `isWordStart`, `isWordPart` — the characters of words.
* `Radix`, `Radix.isDigit` — the digits of the three number notations.
* `isOperatorStart` — the characters with which an operator begins.
-/

namespace HdlLex

/-! ## Words -/

/-- An ASCII letter or an underscore. -/
def isAsciiWordStart (c : Char) : Bool :=
  c.isAlpha || c == '_'

/-- An ASCII letter or digit, or an underscore. -/
def isAsciiWordPart (c : Char) : Bool :=
  c.isAlphanum || c == '_'

/-- Whether `c` may begin a word; `unicode` admits every alphabetic character. -/
def isWordStart (unicode : Bool) (c : Char) : Bool :=
  isAsciiWordStart c || (unicode && Text.isAlphabetic c)

/-- Whether `c` may go on with a word; `unicode` admits every alphanumeric character. -/
def isWordPart (unicode : Bool) (c : Char) : Bool :=
  isAsciiWordPart c || (unicode && (Text.isAlphabetic c || Text.isNumeric c))

/-! ## Digits -/

/-- The bases in which a number can be written. -/
inductive Radix where
  | binary
  | decimal
  | hexadecimal
  deriving DecidableEq, Repr

/-- Whether `c` is a digit of the base; hexadecimal letters may have either case. -/
def Radix.isDigit : Radix → Char → Bool
  | .binary, c => c == '0' || c == '1'
  | .decimal, c => c.isDigit
  | .hexadecimal, c => c.isDigit || ('a' ≤ c && c ≤ 'f') || ('A' ≤ c && c ≤ 'F')

/-! ## Operators -/

/-- Whether an operator can begin with `c`. -/
def isOperatorStart (c : Char) : Bool :=
  c ∈ ['+', '-', '*', '/', '%', '&', '|', '^', '~', '<', '>', '=', '!']

end HdlLex
