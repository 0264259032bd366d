import HdlLex.Config
import HdlLex.Lexeme.Number
import HdlLex.Lexeme.Quoted
import HdlLex.Lexeme.Symbol
import HdlLex.Lexeme.Word

/-!
# Lexeme — the front of a text

The first character decides which kind of lexeme stands at the front. A
character that begins none is a lexeme of its own or a fault, as the
configuration says; it is not passed when it is a fault.

* `front` — the lexeme at the front of a text.
* `written_ne_nil` — every lexeme but the end has at least one character.
-/

namespace HdlLex.Lexeme

/-- A character that begins no token. -/
def unknown (policy : UnknownPolicy) (c : Char) : Except Fault Lexeme :=
  match policy with
  | .passThrough => .ok (plain .unknown [c])
  | .fatal => .error ⟨.unexpectedChar c, [], []⟩

/-- The lexeme at the front of a text; at its end, the empty lexeme that marks the end. -/
def front (config : Config) : List Char → Except Fault Lexeme
  | [] => .ok (plain .eof [])
  | c :: cs =>
    if isWordStart config.unicodeWords c then .ok (word config.unicodeWords (c :: cs))
    -- digits of other scripts begin neither a word nor a number
    else if c.isDigit then number (c :: cs)
    else if c = '"' then string cs
    else if c = '\'' then char cs
    else match symbol? (c :: cs) with
      | some lexeme => .ok lexeme
      | none => unknown config.unknownChars c

/-! ## No lexeme is empty -/

theorem isWordPart_of_isWordStart {unicode : Bool} {c : Char} (h : isWordStart unicode c = true) :
    isWordPart unicode c = true := by
  simp only [isWordStart, isAsciiWordStart, isWordPart, isAsciiWordPart, Bool.or_eq_true,
    Bool.and_eq_true, Char.isAlphanum] at h ⊢
  rcases h with (hLetter | hScore) | ⟨hOn, hLetter⟩
  · exact Or.inl (Or.inl (Or.inl hLetter))
  · exact Or.inl (Or.inr hScore)
  · exact Or.inr ⟨hOn, Or.inl hLetter⟩

theorem word_written_ne_nil {unicode : Bool} {c : Char} {cs : List Char}
    (h : isWordStart unicode c = true) : (word unicode (c :: cs)).written ≠ [] := by
  simp [word, plain, isWordPart_of_isWordStart h]

theorem decimal_written_ne_nil {c : Char} {cs : List Char} (h : c.isDigit = true) :
    (decimal (c :: cs)).written ≠ [] := by
  simp [decimal, plain, digits, Radix.isDigit, h]

theorem number_written_ne_nil {c : Char} {cs : List Char} (hDigit : c.isDigit = true)
    {lexeme : Lexeme} (h : number (c :: cs) = .ok lexeme) : lexeme.written ≠ [] := by
  unfold number at h
  split at h
  · split at h
    · unfold marked at h
      split at h
      · cases h
      · cases h
        simp [plain]
    · cases h
      exact decimal_written_ne_nil hDigit
  · cases h
    exact decimal_written_ne_nil hDigit

theorem string_written_ne_nil {cs : List Char} {lexeme : Lexeme} (h : string cs = .ok lexeme) :
    lexeme.written ≠ [] := by
  unfold string at h
  split at h <;> cases h
  simp

theorem char_written_ne_nil {cs : List Char} {lexeme : Lexeme} (h : char cs = .ok lexeme) :
    lexeme.written ≠ [] := by
  unfold char at h
  split at h
  · split at h <;> cases h
    simp
  · cases h
  · cases h

/-- Every lexeme but the end has at least one character. -/
theorem written_ne_nil {config : Config} {c : Char} {cs : List Char} {lexeme : Lexeme}
    (h : front config (c :: cs) = .ok lexeme) : lexeme.written ≠ [] := by
  rw [front] at h
  split at h
  · next hStart =>
    cases h
    exact word_written_ne_nil hStart
  split at h
  · next hDigit => exact number_written_ne_nil hDigit h
  split at h
  · exact string_written_ne_nil h
  split at h
  · exact char_written_ne_nil h
  split at h
  · next hSymbol =>
    cases h
    exact symbol?_written_ne_nil hSymbol
  · unfold unknown at h
    split at h <;> cases h
    simp [plain]

/-! ## What is read stands at the front -/

/-- What a lexeme is read from stands at the front of the text. -/
theorem front_isPrefix {config : Config} {cs : List Char} {lexeme : Lexeme}
    (h : front config cs = .ok lexeme) : lexeme.written <+: cs := by
  cases cs with
  | nil =>
    cases h
    exact List.nil_prefix
  | cons c cs =>
    rw [front] at h
    split at h
    · cases h
      exact List.takeWhile_prefix _
    split at h
    · exact number_isPrefix h
    split at h
    · next hQuote => exact hQuote ▸ string_isPrefix h
    split at h
    · next hQuote => exact hQuote ▸ char_isPrefix h
    split at h
    · next hSymbol =>
      cases h
      exact symbol?_isPrefix hSymbol
    · unfold unknown at h
      split at h
      · cases h
        exact ⟨cs, rfl⟩
      · cases h

end HdlLex.Lexeme
