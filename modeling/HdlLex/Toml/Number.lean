import HdlLex.Toml.Space

/-!
# Toml — numbers

Digits may be grouped by single underscores. Decimal integers have no
leading zeros and lie within sixty-four bits; hexadecimal, octal and binary
ones have a mark and no sign. A float has a fraction or an exponent, or is
`inf` or `nan`. Only `inf` writes the positive infinity: digits that would
round to it in double precision are no float, whereas behind a minus they may
have any size.

* `integer?` — an integer and its value.
* `float?` — the text behind a float; its value is never needed.
-/

namespace HdlLex.Toml

/-! ## Digits -/

/-- The value of a digit in any base up to sixteen. -/
def digitValue (c : Char) : Nat :=
  if c.isDigit then c.toNat - '0'.toNat
  else if 'a' ≤ c then c.toNat - 'a'.toNat + 10
  else c.toNat - 'A'.toNat + 10

/-- The number that digits write in a base. -/
def numeral (base : Nat) (digits : List Char) : Nat :=
  digits.foldl (fun n c => base * n + digitValue c) 0

/-- Whether `c` is a digit of the base; letters may have either case. -/
def isDigitOf (base : Nat) (c : Char) : Bool :=
  (c.isDigit || ('a' ≤ c && c ≤ 'f') || ('A' ≤ c && c ≤ 'F')) && digitValue c < base

/-- Further digits, each with at most one underscore before it, and the text behind them. -/
def moreDigits (test : Char → Bool) : List Char → List Char × List Char
  | [] => ([], [])
  | '_' :: d :: cs =>
    if test d then
      let (digits, rest) := moreDigits test cs
      (d :: digits, rest)
    else ([], '_' :: d :: cs)
  | c :: cs =>
    if test c then
      let (digits, rest) := moreDigits test cs
      (c :: digits, rest)
    else ([], c :: cs)

/-- At least one digit, grouped or not, and the text behind. -/
def digits? (test : Char → Bool) : List Char → Option (List Char × List Char)
  | [] => none
  | c :: cs =>
    if test c then
      let (digits, rest) := moreDigits test cs
      some (c :: digits, rest)
    else none

/-- Decimal digits without leading zeros: a zero stands alone. -/
def wholeDigits? : List Char → Option (List Char × List Char)
  | '0' :: cs => some (['0'], cs)
  | cs => digits? Char.isDigit cs

/-- Whether a minus stands in front, and the text behind an optional sign. -/
def sign : List Char → Bool × List Char
  | '-' :: cs => (true, cs)
  | '+' :: cs => (false, cs)
  | cs => (false, cs)

/-! ## Integers -/

/-- The integer, if sixty-four bits hold it. -/
def within64 (n : Int) : Option Int :=
  if -Int.pow 2 63 ≤ n && n < Int.pow 2 63 then some n else none

/-- The digits behind the mark of a base. -/
def markedInteger? (base : Nat) (cs : List Char) : Option (Int × List Char) := do
  let (digits, rest) ← digits? (isDigitOf base) cs
  let n ← within64 (numeral base digits)
  return (n, rest)

/-- A decimal integer with an optional sign. -/
def decimalInteger? (cs : List Char) : Option (Int × List Char) := do
  let (negative, body) := sign cs
  let (digits, rest) ← wholeDigits? body
  let magnitude : Int := numeral 10 digits
  let n ← within64 (if negative then -magnitude else magnitude)
  return (n, rest)

/-- An integer in any of its notations. -/
def integer? : List Char → Option (Int × List Char)
  | '0' :: 'x' :: cs => markedInteger? 16 cs
  | '0' :: 'o' :: cs => markedInteger? 8 cs
  | '0' :: 'b' :: cs => markedInteger? 2 cs
  | cs => decimalInteger? cs

/-! ## Floats -/

/-- The digits of a fraction behind its point. -/
def fraction? : List Char → Option (List Char × List Char)
  | '.' :: cs => digits? Char.isDigit cs
  | _ => none

/-- The power of ten of an exponent. -/
def exponent? : List Char → Option (Int × List Char)
  | c :: cs =>
    if c = 'e' || c = 'E' then do
      let (negative, body) := sign cs
      let (digits, rest) ← digits? Char.isDigit body
      let magnitude : Int := numeral 10 digits
      return (if negative then -magnitude else magnitude, rest)
    else none
  | [] => none

/-- The least number that rounds to infinity in double precision. -/
def doubleOverflow : Nat := Nat.pow 2 1024 - Nat.pow 2 970

/-- Whether digits times a power of ten stay below the overflow of double precision. -/
def isFinite (digits : List Char) (power : Int) : Bool :=
  let significant := digits.dropWhile (· == '0')
  let magnitude : Int := significant.length + power
  if significant.isEmpty || magnitude < 308 then true
  else if 310 < magnitude then false
  else numeral 10 significant * Nat.pow 10 power.toNat <
    doubleOverflow * Nat.pow 10 (-power).toNat

/-- The text behind a number with a fraction, an exponent or both. -/
def decimalFloat? (cs : List Char) : Option (List Char) := do
  let (negative, body) := sign cs
  let (whole, afterWhole) ← wholeDigits? body
  let (part, afterPart) := (fraction? afterWhole).getD ([], afterWhole)
  let (power, rest) := (exponent? afterPart).getD (0, afterPart)
  -- with neither a fraction nor an exponent this is an integer
  if rest.length = afterWhole.length then none
  else if negative || isFinite (whole ++ part) (power - part.length) then some rest
  else none

/-- The text behind a float. -/
def float? (cs : List Char) : Option (List Char) :=
  ((dropText? ['i', 'n', 'f'] (sign cs).2).or (dropText? ['n', 'a', 'n'] (sign cs).2)).or
    (decimalFloat? cs)

end HdlLex.Toml
