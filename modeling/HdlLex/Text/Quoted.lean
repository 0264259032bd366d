import HdlLex.Text.GraphemeExtend
import HdlLex.Text.Unprintable

/-!
# Text — quoted for display

Messages show text between quotes in a form that stays on one line: the
usual controls and the backslash have short escapes, the surrounding quote is
escaped, and a character without a picture of its own is written by number.

* `escapeFor` — one character as it stands between given quotes.
* `quoteText`, `quoteChar` — text between double quotes, a character between
  single quotes.
-/

namespace HdlLex.Text

/-- A character by number: lower-case hexadecimal digits without leading zeros. -/
def numericEscape (c : Char) : List Char :=
  ['\\', 'u', '\x7b'] ++ Nat.toDigits 16 c.toNat ++ ['\x7d']

/-- How `c` is written between two characters `quote`. -/
def escapeFor (quote c : Char) : List Char :=
  if c = '\x00' then ['\\', '0']
  else if c = '\t' then ['\\', 't']
  else if c = '\r' then ['\\', 'r']
  else if c = '\n' then ['\\', 'n']
  else if c = '\\' || c = quote then ['\\', c]
  else if isCombining c || isUnprintable c then numericEscape c
  else [c]

/-- Characters between two quotes, escaped where they have to be. -/
def quoteWith (quote : Char) (cs : List Char) : List Char :=
  quote :: cs.flatMap (escapeFor quote) ++ [quote]

/-- A text between double quotes. -/
def quoteText (text : String) : String :=
  String.ofList (quoteWith '"' text.toList)

/-- A character between single quotes. -/
def quoteChar (c : Char) : String :=
  String.ofList (quoteWith '\'' [c])

end HdlLex.Text
