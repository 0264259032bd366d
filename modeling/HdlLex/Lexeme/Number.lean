import HdlLex.Alphabet
import HdlLex.Lexeme

/-!
# Lexeme — numbers

A mark `0b` or `0x`, in either case, demands digits of its base. A number
without a mark is decimal and may have a fraction and an exponent, each only
if it has a digit; otherwise its first character is left for the next token.

* `fraction`, `exponent` — the optional parts, empty where there is none.
* `decimal` — the longest decimal number.
* `number` — a number in any notation.
-/

namespace HdlLex

/-- The base that a letter marks after a zero. -/
def Radix.ofMark? (c : Char) : Option Radix :=
  if c = 'b' || c = 'B' then some .binary
  else if c = 'x' || c = 'X' then some .hexadecimal
  else none

/-- The kind of a number written in this base. -/
def Radix.kind : Radix → TokenKind
  | .binary => .binary
  | .decimal => .number
  | .hexadecimal => .hex

namespace Lexeme

/-- The longest run of digits of a base. -/
def digits (radix : Radix) (cs : List Char) : List Char := cs.takeWhile radix.isDigit

/-- A point and the digits after it, if there is a digit. -/
def fraction : List Char → List Char
  | '.' :: cs => if digits .decimal cs = [] then [] else '.' :: digits .decimal cs
  | _ => []

/-- The sign with which the text begins, if any. -/
def sign : List Char → List Char
  | c :: _ => if c = '+' || c = '-' then [c] else []
  | [] => []

/-- A letter `e`, an optional sign and the digits after it, if there is a digit. -/
def exponent : List Char → List Char
  | c :: cs =>
    let power := digits .decimal (cs.drop (sign cs).length)
    if (c = 'e' || c = 'E') && power ≠ [] then c :: sign cs ++ power else []
  | [] => []

/-- The decimal number at the front: digits, then a fraction and an exponent where there are any. -/
def decimal (cs : List Char) : Lexeme :=
  let whole := digits .decimal cs
  let part := fraction (cs.drop whole.length)
  let power := exponent (cs.drop (whole ++ part).length)
  plain (if part = [] && power = [] then .number else .float) (whole ++ part ++ power)

/-- The number behind the mark of its base, which has to have a digit. -/
def marked (radix : Radix) (mark cs : List Char) : Except Fault Lexeme :=
  if digits radix cs = [] then .error ⟨.noDigits (String.ofList mark), [], mark⟩
  else .ok (plain radix.kind (mark ++ digits radix cs))

/-- The number at the front of a text that begins with a digit. -/
def number (cs : List Char) : Except Fault Lexeme :=
  match cs with
  | '0' :: m :: rest =>
    match Radix.ofMark? m with
    | some radix => marked radix ['0', m] rest
    -- a zero in front of anything else is an ordinary digit
    | none => .ok (decimal cs)
  | _ => .ok (decimal cs)

/-! ## What is read stands at the front -/

theorem digits_isPrefix (radix : Radix) (cs : List Char) : digits radix cs <+: cs :=
  List.takeWhile_prefix _

theorem fraction_isPrefix (cs : List Char) : fraction cs <+: cs := by
  unfold fraction
  split
  · split
    · exact List.nil_prefix
    · exact (List.prefix_cons_inj _).2 (digits_isPrefix _ _)
  · exact List.nil_prefix

theorem sign_isPrefix (cs : List Char) : sign cs <+: cs := by
  unfold sign
  split
  · split
    · exact ⟨_, rfl⟩
    · exact List.nil_prefix
  · exact List.nil_prefix

theorem exponent_isPrefix (cs : List Char) : exponent cs <+: cs := by
  cases cs with
  | nil => exact List.nil_prefix
  | cons c cs =>
    simp only [exponent]
    split
    · rw [List.cons_append]
      exact (List.prefix_cons_inj _).2
        (append_isPrefix (sign_isPrefix cs) (digits_isPrefix .decimal _))
    · exact List.nil_prefix

theorem decimal_isPrefix (cs : List Char) : (decimal cs).written <+: cs :=
  append_isPrefix (append_isPrefix (digits_isPrefix _ _) (fraction_isPrefix _))
    (exponent_isPrefix _)

theorem number_isPrefix {cs : List Char} {lexeme : Lexeme} (h : number cs = .ok lexeme) :
    lexeme.written <+: cs := by
  unfold number at h
  split at h
  · next m rest =>
    split at h
    · next radix _ =>
      unfold marked at h
      split at h
      · cases h
      · cases h
        exact (List.prefix_append_right_inj ['0', m]).2 (digits_isPrefix radix rest)
    · cases h
      exact decimal_isPrefix _
  · cases h
    exact decimal_isPrefix _

end Lexeme

end HdlLex
