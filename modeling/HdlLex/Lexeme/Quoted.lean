import HdlLex.Lexeme

/-!
# Lexeme — string and character literals

Both stand between two equal quotes on one line and know the same seven
escapes. A literal is decoded as it is read. A backslash before the end of
the line leaves the literal open; before any other character without an
escape it is a fault of its own.

* `unescape?` — the meaning of the character after a backslash.
* `Inside`, `inside` — what stands behind an opening quote.
* `string`, `char` — the two literals.
-/

namespace HdlLex.Lexeme

/-- The meaning of the character after a backslash. -/
def unescape? (c : Char) : Option Char :=
  if c = 'n' then some '\n'
  else if c = 't' then some '\t'
  else if c = 'r' then some '\r'
  else if c = '0' then some '\x00'
  else if c = '\\' || c = '"' || c = '\'' then some c
  else none

/-- What stands behind an opening quote. -/
inductive Inside where
  /-- Characters up to the closing quote, and what they stand for. -/
  | closed (written meaning : List Char)
  /-- Characters up to the end of the line or of the text. -/
  | unclosed (written : List Char)
  /-- Characters up to a backslash, and the character behind it, which has no escape. -/
  | stray (written : List Char) (escape : Char)
  deriving DecidableEq, Repr

/-- The same, behind further characters that stand for `meaning`. -/
def Inside.behind (cs meaning : List Char) : Inside → Inside
  | .closed written rest => .closed (cs ++ written) (meaning ++ rest)
  | .unclosed written => .unclosed (cs ++ written)
  | .stray written escape => .stray (cs ++ written) escape

/-- What stands behind an opening `quote`. -/
def inside (quote : Char) : List Char → Inside
  | [] => .unclosed []
  | c :: cs =>
    if c = quote then .closed [] []
    else if c = '\n' then .unclosed []
    else if c = '\\' then
      match cs with
      | [] => .unclosed ['\\']
      | e :: rest =>
        -- the line ends: the literal is open, whatever the backslash was meant for
        if e = '\n' then .unclosed ['\\']
        else match unescape? e with
          | some x => (inside quote rest).behind ['\\', e] [x]
          | none => .stray [] e
    else (inside quote cs).behind [c] [c]

/--
The fault of a backslash behind an opening quote and further characters. The
backslash is passed, the character behind it is not.
-/
def strayEscape (quote : Char) (written : List Char) (escape : Char) : Fault :=
  ⟨.unknownEscape escape, quote :: written, quote :: written ++ ['\\']⟩

/-- The string literal whose opening quote stands before `cs`. -/
def string (cs : List Char) : Except Fault Lexeme :=
  match inside '"' cs with
  | .closed written meaning => .ok ⟨.string, '"' :: written ++ ['"'], meaning⟩
  | .unclosed written => .error ⟨.unclosedString, [], '"' :: written⟩
  | .stray written escape => .error (strayEscape '"' written escape)

/-- The character literal whose opening quote stands before `cs`; it stands for one character. -/
def char (cs : List Char) : Except Fault Lexeme :=
  match inside '\'' cs with
  | .closed written meaning =>
    if meaning.length = 1 then .ok ⟨.char, '\'' :: written ++ ['\''], meaning⟩
    else .error ⟨.notOneChar (String.ofList meaning), [], '\'' :: written ++ ['\'']⟩
  | .unclosed written => .error ⟨.unclosedChar, [], '\'' :: written⟩
  | .stray written escape => .error (strayEscape '\'' written escape)

/-! ## What is read stands at the front -/

theorem Inside.behind_eq_closed {cs meaning written rest : List Char} {found : Inside}
    (h : found.behind cs meaning = .closed written rest) :
    ∃ w m, found = .closed w m ∧ written = cs ++ w ∧ rest = meaning ++ m := by
  cases found with
  | closed w m =>
    cases h
    exact ⟨w, m, rfl, rfl, rfl⟩
  | unclosed w => cases h
  | stray w e => cases h

/-- A closed literal goes on up to its quote. -/
theorem inside_closed_isPrefix {quote : Char} {cs written meaning : List Char}
    (h : inside quote cs = .closed written meaning) : written ++ [quote] <+: cs := by
  fun_induction inside quote cs generalizing written meaning with
  | case1 => cases h
  | case2 cs =>
    cases h
    exact ⟨cs, rfl⟩
  | case3 => cases h
  | case4 => cases h
  | case5 => cases h
  | case6 e rest _ x _ _ _ ih =>
    obtain ⟨w, m, hFound, rfl, rfl⟩ := Inside.behind_eq_closed h
    simpa using ih hFound
  | case7 => cases h
  | case8 c cs _ _ _ ih =>
    obtain ⟨w, m, hFound, rfl, rfl⟩ := Inside.behind_eq_closed h
    simpa using ih hFound

theorem string_isPrefix {cs : List Char} {lexeme : Lexeme} (h : string cs = .ok lexeme) :
    lexeme.written <+: '"' :: cs := by
  unfold string at h
  split at h
  · next hClosed =>
    cases h
    exact (List.prefix_cons_inj _).2 (inside_closed_isPrefix hClosed)
  · cases h
  · cases h

theorem char_isPrefix {cs : List Char} {lexeme : Lexeme} (h : char cs = .ok lexeme) :
    lexeme.written <+: '\'' :: cs := by
  unfold char at h
  split at h
  · next hClosed =>
    split at h
    · cases h
      exact (List.prefix_cons_inj _).2 (inside_closed_isPrefix hClosed)
    · cases h
  · cases h
  · cases h

end HdlLex.Lexeme
