import HdlLex.Toml.Number

/-!
# Toml — dates and times

A date, a time, or both with an optional offset. Only the text behind is
needed; the numbers have to be those of a calendar and a clock.

* `dateTime?` — the text behind a date, a time or both.
-/

namespace HdlLex.Toml

/-- Exactly `count` digits, their number, and the text behind. -/
def fixedDigits? (count : Nat) (cs : List Char) : Option (Nat × List Char) :=
  let digits := cs.take count
  if digits.length = count && digits.all Char.isDigit then
    some (numeral 10 digits, cs.drop count)
  else none

/-- A number of two digits between two bounds, and the text behind. -/
def twoDigits? (least most : Nat) (cs : List Char) : Option (Nat × List Char) := do
  let (n, rest) ← fixedDigits? 2 cs
  if least ≤ n && n ≤ most then some (n, rest) else none

/-- Whether the year has a leap day. -/
def isLeapYear (year : Nat) : Bool :=
  year % 4 == 0 && (year % 100 != 0 || year % 400 == 0)

/-- The number of days of a month. -/
def daysOf (year month : Nat) : Nat :=
  if month = 2 then if isLeapYear year then 29 else 28
  else if month = 4 || month = 6 || month = 9 || month = 11 then 30
  else 31

/-- The text behind a date. -/
def date? (cs : List Char) : Option (List Char) := do
  let (year, cs) ← fixedDigits? 4 cs
  let cs ← dropText? ['-'] cs
  let (month, cs) ← twoDigits? 1 12 cs
  let cs ← dropText? ['-'] cs
  let (_, cs) ← twoDigits? 1 (daysOf year month) cs
  return cs

/-- The text behind a fraction of a second, or all of it if it begins with none. -/
def skipSecondFraction : List Char → List Char
  | '.' :: d :: cs => if d.isDigit then cs.dropWhile Char.isDigit else '.' :: d :: cs
  | cs => cs

/-- The text behind a time of day; a leap second is allowed. -/
def time? (cs : List Char) : Option (List Char) := do
  let (_, cs) ← twoDigits? 0 23 cs
  let cs ← dropText? [':'] cs
  let (_, cs) ← twoDigits? 0 59 cs
  let cs ← dropText? [':'] cs
  let (_, cs) ← twoDigits? 0 60 cs
  return skipSecondFraction cs

/-- The text behind an offset from universal time. -/
def offset? : List Char → Option (List Char)
  | c :: cs =>
    if c = 'Z' || c = 'z' then some cs
    else if c = '+' || c = '-' then do
      let (_, cs) ← twoDigits? 0 23 cs
      let cs ← dropText? [':'] cs
      let (_, cs) ← twoDigits? 0 59 cs
      return cs
    else none
  | [] => none

/-- The text behind a time of day that follows a date, with its offset if there is one. -/
def timeAfterDate? : List Char → Option (List Char)
  | c :: cs =>
    if c = 'T' || c = 't' || c = ' ' then do
      let rest ← time? cs
      return (offset? rest).getD rest
    else none
  | [] => none

/-- The text behind a date, a date with a time, or a time. -/
def dateTime? (cs : List Char) : Option (List Char) :=
  match date? cs with
  | some rest => some ((timeAfterDate? rest).getD rest)
  | none => time? cs

end HdlLex.Toml
