import HdlLex.Toml.Number

/-!
# Toml — strings

Basic strings know escapes, literal strings do not. Either may stand between
three quotes and then go on over several lines; a line feed directly behind
the opening quotes is dropped.

* `escape?` — the character that an escape stands for.
* `basic?`, `literal?` — the rest of a string on one line.
* `longBasic?`, `longLiteral?` — the rest of a string between three quotes.
* `string?` — a string of any form.
-/

namespace HdlLex.Toml

/-- A character in front of what is read next. -/
def prepend (c : Char) (read : Option (List Char × List Char)) :
    Option (List Char × List Char) :=
  read.map fun (text, rest) => (c :: text, rest)

/-! ## Escapes -/

/-- The character with a given number, written in `count` hexadecimal digits. -/
def codePoint? (count : Nat) (cs : List Char) : Option (Char × List Char) :=
  let digits := cs.take count
  let n := numeral 16 digits
  if digits.length = count && digits.all (isDigitOf 16) && n.isValidChar then
    some (Char.ofNat n, cs.drop count)
  else none

/-- The character that an escape of one letter stands for. -/
def letterEscape? (c : Char) : Option Char :=
  if c = 'b' then some '\x08'
  else if c = 't' then some '\t'
  else if c = 'n' then some '\n'
  else if c = 'f' then some '\x0c'
  else if c = 'r' then some '\r'
  else if c = '"' || c = '\\' then some c
  else none

/-- The character that an escape stands for, and the text behind; the backslash is read already. -/
def escape? : List Char → Option (Char × List Char)
  | [] => none
  | c :: cs =>
    if c = 'u' then codePoint? 4 cs
    else if c = 'U' then codePoint? 8 cs
    else (letterEscape? c).map fun x => (x, cs)

theorem codePoint?_length_le {count : Nat} {cs rest : List Char} {x : Char}
    (h : codePoint? count cs = some (x, rest)) : rest.length ≤ cs.length := by
  unfold codePoint? at h
  simp only at h
  split at h
  · cases h; simp
  · cases h

/-- An escape takes at least one character. -/
theorem escape?_length_lt {cs rest : List Char} {x : Char}
    (h : escape? cs = some (x, rest)) : rest.length < cs.length := by
  cases cs with
  | nil => cases h
  | cons c cs =>
    rw [List.length_cons, Nat.lt_succ_iff]
    rw [escape?] at h
    split at h
    · exact codePoint?_length_le h
    split at h
    · exact codePoint?_length_le h
    · obtain ⟨_, _, hEscape⟩ := Option.map_eq_some_iff.1 h
      cases hEscape
      exact Nat.le_refl _

/-! ## Strings on one line -/

/-- The text of a basic string up to its closing quote, and what is behind. -/
def basic? (cs : List Char) : Option (List Char × List Char) :=
  match cs with
  | [] => none
  | c :: rest =>
    if c = '"' then some ([], rest)
    else if c = '\\' then
      match _ : escape? rest with
      | none => none
      | some (x, behind) => prepend x (basic? behind)
    else if isPlain c then prepend c (basic? rest)
    else none
termination_by cs.length
decreasing_by
  · rename_i hEscape
    have hFewer := escape?_length_lt hEscape
    simp only [List.length_cons]; omega
  · simp

/-- The text of a literal string up to its closing quote, and what is behind. -/
def literal? : List Char → Option (List Char × List Char)
  | [] => none
  | c :: cs =>
    if c = '\'' then some ([], cs)
    else if isPlain c then prepend c (literal? cs)
    else none

/-! ## Strings over several lines -/

/-- The text behind an optional line feed. -/
def skipNewline (cs : List Char) : List Char := (newline? cs).getD cs

/-- Three quotes end a long string; up to two more before them are its last characters. -/
def closing? (quote : Char) (cs : List Char) : Option (List Char × List Char) :=
  let run := min (cs.takeWhile (· == quote)).length 5
  if 3 ≤ run then some (List.replicate (run - 3) quote, cs.drop run) else none

/-- Whether only blanks stand before the end of the line. -/
def endsLine (cs : List Char) : Bool := (newline? (skipBlanks cs)).isSome

/--
The text of a long basic string up to its closing quotes, and what is behind.
A backslash at the end of a line drops the line end and all blanks and line
ends after it; `dropping` says that this is going on.
-/
def longBasic? (dropping : Bool) (cs : List Char) : Option (List Char × List Char) :=
  match cs with
  | [] => none
  | c :: rest =>
    if c = '\r' then if rest.head? == some '\n' then longBasic? dropping rest else none
    else if dropping && (isBlank c || c == '\n') then longBasic? true rest
    else if c = '\n' then prepend c (longBasic? false rest)
    else if c = '"' then
      -- one or two quotes are characters of the string
      match closing? '"' (c :: rest) with
      | some read => some read
      | none => prepend c (longBasic? false rest)
    else if c = '\\' then
      if endsLine rest then longBasic? true rest
      else match _ : escape? rest with
        | none => none
        | some (x, behind) => prepend x (longBasic? false behind)
    else if isPlain c then prepend c (longBasic? false rest)
    else none
termination_by cs.length
decreasing_by
  all_goals try (simp; done)
  rename_i hEscape
  have hFewer := escape?_length_lt hEscape
  simp only [List.length_cons]; omega

/-- The text of a long literal string up to its closing quotes, and what is behind. -/
def longLiteral? : List Char → Option (List Char × List Char)
  | [] => none
  | c :: cs =>
    if c = '\r' then if cs.head? == some '\n' then longLiteral? cs else none
    else if c = '\'' then
      match closing? '\'' (c :: cs) with
      | some read => some read
      | none => prepend c (longLiteral? cs)
    else if c = '\n' || isPlain c then prepend c (longLiteral? cs)
    else none

/-! ## Any form -/

/-- A string and the text behind it. -/
def string? : List Char → Option (List Char × List Char)
  | '"' :: '"' :: '"' :: cs => longBasic? false (skipNewline cs)
  | '"' :: cs => basic? cs
  | '\'' :: '\'' :: '\'' :: cs => longLiteral? (skipNewline cs)
  | '\'' :: cs => literal? cs
  | _ => none

end HdlLex.Toml
