/-!
# Toml — blanks, line ends and comments

Readers take the text ahead and give back what they read together with the
text behind it, or nothing.

* `skipBlanks` — spaces and tabs.
* `lineEnd?` — an optional comment and the end of a line or of the text.
* `skipGap` — blanks, line ends and comments, where a value may go on over
  several lines.
-/

namespace HdlLex.Toml

/-- A character that comments and strings may hold: no control character but the tab. -/
def isPlain (c : Char) : Bool :=
  c == '\t' || (0x20 ≤ c.toNat && c.toNat != 0x7F)

/-- Whether `c` separates words within a line. -/
def isBlank (c : Char) : Bool := c == ' ' || c == '\t'

/-- The text behind spaces and tabs. -/
def skipBlanks (cs : List Char) : List Char := cs.dropWhile isBlank

/-- The text behind a line feed, which a carriage return may precede. -/
def newline? : List Char → Option (List Char)
  | '\n' :: cs => some cs
  | '\r' :: '\n' :: cs => some cs
  | _ => none

/-- The text from the end of a comment on, or all of it if it begins with none. -/
def skipComment : List Char → List Char
  | '#' :: cs => cs.dropWhile isPlain
  | cs => cs

/-- The text behind blanks, an optional comment and the end of the line or of the text. -/
def lineEnd? (cs : List Char) : Option (List Char) :=
  match skipComment (skipBlanks cs) with
  | [] => some []
  | rest => newline? rest

/-- The text behind blanks, line ends and comments; `inComment` within a comment. -/
def skipGap (inComment : Bool) : List Char → List Char
  | [] => []
  | c :: cs =>
    if c = '\n' then skipGap false cs
    else if c = '\r' && cs.head? == some '\n' then skipGap inComment cs
    else if inComment then
      if isPlain c then skipGap true cs else c :: cs
    else if isBlank c then skipGap false cs
    else if c = '#' then skipGap true cs
    else c :: cs

/-- The text behind a given one, if it begins with that. -/
def dropText? : List Char → List Char → Option (List Char)
  | [], cs => some cs
  | _ :: _, [] => none
  | t :: ts, c :: cs => if t = c then dropText? ts cs else none

end HdlLex.Toml
