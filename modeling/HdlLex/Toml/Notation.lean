import HdlLex.Toml.Space

/-!
# Toml — plain documents

TOML 1.0 knows many notations. Of these the plainest are stated here, without
regard to how they are read: documents of lines that each set a bare key to a
text without escapes, a decimal number or a truth value. Line feeds end the
lines; the last one may go without.

* `Scalar`, `Notates` — values without parts, and how they can be written.
* `Assignment`, `Assignment.document` — a line with a key and a value, and
  lines one after another.
* `Describes` — which table a plain document describes.
-/

namespace HdlLex.Toml

/-! ## Values -/

/-- A value without parts. -/
inductive Scalar where
  | string (text : String)
  | integer (n : Int)
  | boolean (b : Bool)
  deriving DecidableEq, Repr

/-- A character that stands for itself between double quotes. -/
def isQuotable (c : Char) : Bool := isPlain c && c != '"' && c != '\\'

/-- Decimal digits without leading zeros. -/
structure IsDecimal (digits : List Char) : Prop where
  isDigit : ∀ c ∈ digits, c.isDigit = true
  exists_cons : ∃ c more, digits = c :: more ∧ (c = '0' → more = [])

/-- The text is a notation of the value; integers have at most sixty-four bits. -/
inductive Notates : List Char → Scalar → Prop where
  | string {text : List Char} (hQuotable : text.all isQuotable = true) :
      Notates ('"' :: (text ++ ['"'])) (.string (String.ofList text))
  | integer {digits : List Char} (hDecimal : IsDecimal digits)
      (hSmall : Nat.ofDigitChars 10 digits 0 < Nat.pow 2 63) :
      Notates digits (.integer (Nat.ofDigitChars 10 digits 0))
  | ofTrue : Notates ['t', 'r', 'u', 'e'] (.boolean true)
  | ofFalse : Notates ['f', 'a', 'l', 's', 'e'] (.boolean false)

/-! ## Lines -/

/-- A character of a key without quotes. -/
def isBareKeyChar (c : Char) : Bool := c.isAlphanum || c == '_' || c == '-'

/-- A key that is set to a value, which is written as a text. -/
structure Assignment where
  key : List Char
  text : List Char
  value : Scalar

namespace Assignment

/-- The key stands without quotes, and the text is a notation of the value. -/
structure IsPlain (assignment : Assignment) : Prop where
  key_ne_nil : assignment.key ≠ []
  isBareKeyChar : assignment.key.all isBareKeyChar = true
  notates : Notates assignment.text assignment.value

/-- The line that sets the key, up to its end. -/
def line (assignment : Assignment) : List Char :=
  assignment.key ++ ([' ', '=', ' '] ++ assignment.text)

/-- What a table holds of it. -/
def pair (assignment : Assignment) : String × Scalar :=
  (String.ofList assignment.key, assignment.value)

/-- Lines one after another; the last one is `closed` by a line feed or not. -/
def document (closed : Bool) : List Assignment → List Char
  | [] => []
  | [last] => last.line ++ if closed then ['\n'] else []
  | first :: next :: later => first.line ++ '\n' :: document closed (next :: later)

end Assignment

/-- A document of plain lines with distinct keys describes the table of their values. -/
inductive Describes : String → List (String × Scalar) → Prop where
  | ofLines (closed : Bool) {assignments : List Assignment}
      (hPlain : ∀ assignment ∈ assignments, assignment.IsPlain)
      (hDistinct : (assignments.map Assignment.key).Nodup) :
      Describes (String.ofList (Assignment.document closed assignments))
        (assignments.map Assignment.pair)

end HdlLex.Toml
