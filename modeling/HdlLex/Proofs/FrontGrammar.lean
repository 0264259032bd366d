import HdlLex.Proofs.NumberGrammar
import HdlLex.Proofs.QuotedGrammar

/-!
# Front grammar — the lexeme at the front of a text

The first character decides which class of lexemes is tried, and every lexeme
of the grammar begins with a character that leads to its own class. So what
holds in each class holds for the lexemes altogether.

* `Lexeme.opening` — the class that a first character leads to.
* `Lexeme.Apart` — texts with which no lexeme before them goes on.

Main results:

* `Lexeme.front_valid` — what is read at the front is a lexeme, or a character
  that begins none.
* `Lexeme.length_le_front` — no lexeme at the front is longer.
* `Lexeme.front_append` — a lexeme that does not go on is read whole.
-/

namespace HdlLex.Lexeme

-- ---------------------------------------------------------------------------
-- Classes of lexemes
-- ---------------------------------------------------------------------------

/-- The classes of lexemes by their first characters. -/
inductive Opening where
  | word
  | number
  | string
  | char
  /-- A symbol, or nothing at all. -/
  | symbol
  deriving DecidableEq

/-- The class that a first character leads to. -/
def opening (unicode : Bool) (c : Char) : Opening :=
  if isWordStart unicode c then .word
  else if c.isDigit then .number
  else if c = '"' then .string
  else if c = '\'' then .char
  else .symbol

/-- The lexemes of a class. -/
def OfOpening (unicode : Bool) : Opening → Lexeme → Prop
  | .word, lexeme => ∃ kind cs, lexeme = plain kind cs ∧ IsWord unicode cs ∧ IsWordKind kind cs
  | .number, lexeme => ∃ kind cs, lexeme = plain kind cs ∧ IsNumber kind cs
  | .string, lexeme => ∃ meaning cs, lexeme = ⟨.string, '"' :: (cs ++ ['"']), meaning⟩ ∧
      Encodes '"' meaning cs
  | .char, lexeme => ∃ x cs, lexeme = ⟨.char, '\'' :: (cs ++ ['\'']), [x]⟩ ∧
      Encodes '\'' [x] cs
  | .symbol, lexeme => (∃ operator, lexeme = plain (.operator operator) operator.spelling) ∨
      ∃ delimiter, lexeme = plain (.delimiter delimiter) [delimiter.symbol]

/-- The front of a text is read in the class of its first character. -/
theorem front_cons (config : Config) (c : Char) (cs : List Char) :
    front config (c :: cs) =
      match opening config.unicodeWords c with
      | .word => .ok (word config.unicodeWords (c :: cs))
      | .number => number (c :: cs)
      | .string => string cs
      | .char => char cs
      | .symbol =>
        match symbol? (c :: cs) with
        | some lexeme => .ok lexeme
        | none => unknown config.unknownChars c := by
  rw [front]
  unfold opening
  split
  · rfl
  split
  · rfl
  split
  · rfl
  split
  · rfl
  · rfl

/-- What is known of a character that leads to a class. -/
def Opening.Leads (unicode : Bool) (c : Char) : Opening → Prop
  | .word => isWordStart unicode c = true
  | .number => c.isDigit = true
  | .string => c = '"'
  | .char => c = '\''
  | .symbol => True

theorem leads_opening (unicode : Bool) (c : Char) : (opening unicode c).Leads unicode c := by
  unfold opening
  split
  · assumption
  split
  · assumption
  split
  · assumption
  split
  · assumption
  · trivial

theorem leads_of_opening {unicode : Bool} {c : Char} {found : Opening}
    (h : opening unicode c = found) : found.Leads unicode c :=
  h ▸ leads_opening unicode c

theorem opening_of_isDigit (unicode : Bool) {c : Char} (h : c.isDigit = true) :
    opening unicode c = .number := by
  have hAll : (Radix.decimal.numerals.all fun d => opening unicode d == .number) = true := by
    revert unicode
    decide +kernel
  exact beq_iff_eq.1 (List.all_eq_true.1 hAll c (mem_numerals_of_isDigit h))

theorem opening_of_isOperatorStart (unicode : Bool) {c : Char} (h : isOperatorStart c = true) :
    opening unicode c = .symbol := by
  have hAll : (['+', '-', '*', '/', '%', '&', '|', '^', '~', '<', '>', '=', '!'].all
      fun d => opening unicode d == .symbol) = true := by
    revert unicode
    decide +kernel
  exact beq_iff_eq.1 (List.all_eq_true.1 hAll c (of_decide_eq_true h))

theorem opening_symbol (unicode : Bool) (delimiter : Delimiter) :
    opening unicode delimiter.symbol = .symbol := by
  have hAll : ∀ d ∈ Delimiter.all, ∀ u : Bool, opening u d.symbol = .symbol := by
    decide +kernel
  exact hAll delimiter (Delimiter.mem_all delimiter) unicode

theorem opening_quotes (unicode : Bool) :
    opening unicode '"' = .string ∧ opening unicode '\'' = .char := by
  revert unicode
  decide +kernel

theorem spelling_ne_nil (operator : Operator) : operator.spelling ≠ [] := by
  cases operator <;> simp [Operator.spelling]

theorem IsNumber.exists_digit {kind : TokenKind} {cs : List Char} (h : IsNumber kind cs) :
    ∃ c rest, cs = c :: rest ∧ c.isDigit = true := by
  rcases h.cases with ⟨whole, part, power, hParts, rfl, -⟩ | ⟨m, radix, ds, -, -, rfl, -⟩
  · obtain ⟨d, ds, rfl⟩ := List.exists_cons_of_ne_nil hParts.whole_isDigits.1
    exact ⟨d, _, rfl, hParts.whole_isDigits.isDigit d (by simp)⟩
  · exact ⟨'0', _, rfl, by decide⟩

/-- Every lexeme begins with a character that leads to its own class. -/
theorem Valid.ofOpening {unicode : Bool} {lexeme : Lexeme} (h : Valid unicode lexeme) :
    ∃ c rest, lexeme.written = c :: rest ∧ OfOpening unicode (opening unicode c) lexeme := by
  cases h with
  | @word kind cs hWord hKind =>
    obtain ⟨c, rest, hText, hStart, -⟩ := id hWord
    refine ⟨c, rest, hText, ?_⟩
    rw [opening, if_pos hStart]
    exact ⟨kind, cs, rfl, hWord, hKind⟩
  | @number kind cs hNumber =>
    obtain ⟨c, rest, hText, hDigit⟩ := hNumber.exists_digit
    refine ⟨c, rest, hText, ?_⟩
    rw [opening_of_isDigit unicode hDigit]
    exact ⟨kind, cs, rfl, hNumber⟩
  | @string meaning cs hEncodes =>
    refine ⟨'"', cs ++ ['"'], rfl, ?_⟩
    rw [(opening_quotes unicode).1]
    exact ⟨meaning, cs, rfl, hEncodes⟩
  | @char x cs hEncodes =>
    refine ⟨'\'', cs ++ ['\''], rfl, ?_⟩
    rw [(opening_quotes unicode).2]
    exact ⟨x, cs, rfl, hEncodes⟩
  | operator operator =>
    obtain ⟨c, rest, hText⟩ := List.exists_cons_of_ne_nil (spelling_ne_nil operator)
    have hStart := isOperatorStart_of_mem_spelling operator c (by simp [hText])
    refine ⟨c, rest, hText, ?_⟩
    rw [opening_of_isOperatorStart unicode hStart]
    exact Or.inl ⟨operator, rfl⟩
  | delimiter delimiter =>
    refine ⟨delimiter.symbol, [], rfl, ?_⟩
    rw [opening_symbol]
    exact Or.inr ⟨delimiter, rfl⟩

/-- A lexeme at the front of a text belongs to the class of the first character. -/
theorem Valid.ofOpening_of_isPrefix {unicode : Bool} {lexeme : Lexeme} {c : Char}
    {cs : List Char} (h : Valid unicode lexeme) (hFront : lexeme.written <+: c :: cs) :
    OfOpening unicode (opening unicode c) lexeme := by
  obtain ⟨d, rest, hText, hClass⟩ := h.ofOpening
  rw [hText, List.cons_prefix_cons] at hFront
  rw [← hFront.1]
  exact hClass

/-- A string literal is read wherever it stands. -/
theorem string_of_isPrefix {unicode : Bool} {lexeme : Lexeme} {cs : List Char}
    (h : Valid unicode lexeme) (hFront : lexeme.written <+: '"' :: cs) :
    string cs = .ok lexeme := by
  have hSame := h.ofOpening_of_isPrefix hFront
  rw [(opening_quotes unicode).1] at hSame
  obtain ⟨meaning, written, rfl, hEncodes⟩ := hSame
  obtain ⟨ahead, hText⟩ := hFront
  obtain rfl : written ++ '"' :: ahead = cs := by simpa using (List.cons.inj hText).2
  exact string_append hEncodes ahead

/-- So is a character literal. -/
theorem char_of_isPrefix {unicode : Bool} {lexeme : Lexeme} {cs : List Char}
    (h : Valid unicode lexeme) (hFront : lexeme.written <+: '\'' :: cs) :
    char cs = .ok lexeme := by
  have hSame := h.ofOpening_of_isPrefix hFront
  rw [(opening_quotes unicode).2] at hSame
  obtain ⟨x, written, rfl, hEncodes⟩ := hSame
  obtain ⟨ahead, hText⟩ := hFront
  obtain rfl : written ++ '\'' :: ahead = cs := by simpa using (List.cons.inj hText).2
  exact char_append hEncodes ahead

theorem OfOpening.isSymbol {unicode : Bool} {lexeme : Lexeme}
    (h : OfOpening unicode .symbol lexeme) : IsSymbol lexeme.written := by
  rcases h with ⟨operator, rfl⟩ | ⟨delimiter, rfl⟩
  · exact Or.inl ⟨operator, rfl⟩
  · exact Or.inr ⟨delimiter, rfl⟩

-- ---------------------------------------------------------------------------
-- What is read is a lexeme
-- ---------------------------------------------------------------------------

/-- What is read at the front is a lexeme, or a character that begins none. -/
theorem front_valid {config : Config} {c : Char} {cs : List Char} {lexeme : Lexeme}
    (h : front config (c :: cs) = .ok lexeme) :
    Valid config.unicodeWords lexeme ∨
      (lexeme = plain .unknown [c] ∧ config.unknownChars = .passThrough ∧
        ∀ other, Valid config.unicodeWords other → ¬ other.written <+: c :: cs) := by
  rw [front_cons] at h
  cases hClass : opening config.unicodeWords c with
  | word =>
    rw [hClass] at h
    cases h
    exact Or.inl (word_valid (leads_of_opening hClass))
  | number =>
    rw [hClass] at h
    obtain ⟨kind, written, rfl, hNumber⟩ := number_valid (leads_of_opening hClass) h
    exact Or.inl (.number hNumber)
  | string =>
    rw [hClass] at h
    exact Or.inl (string_valid _ h)
  | char =>
    rw [hClass] at h
    exact Or.inl (char_valid _ h)
  | symbol =>
    simp only [hClass] at h
    split at h
    · next hSymbol =>
      cases h
      exact Or.inl (symbol?_valid _ hSymbol)
    · next hNone =>
      unfold unknown at h
      split at h
      · next hPolicy =>
        cases h
        refine Or.inr ⟨rfl, hPolicy, ?_⟩
        intro other hOther hFront
        have hSame := hOther.ofOpening_of_isPrefix hFront
        rw [hClass] at hSame
        exact not_isPrefix_of_symbol?_eq_none hSame.isSymbol hNone hFront
      · cases h

/-- The end marks the end of the text. -/
theorem front_kind_eof_iff {config : Config} {cs : List Char} {lexeme : Lexeme}
    (h : front config cs = .ok lexeme) : lexeme.kind = .eof ↔ cs = [] := by
  cases cs with
  | nil =>
    cases h
    simp [plain]
  | cons c cs =>
    have hNot : lexeme.kind ≠ .eof := by
      rcases front_valid h with hValid | ⟨rfl, -, -⟩
      · exact hValid.kind_ne.2
      · simp [plain]
    simp [hNot]

/-- A lexeme of no known kind is the character at the front, which begins no other. -/
theorem front_unknown {config : Config} {cs : List Char} {lexeme : Lexeme}
    (h : front config cs = .ok lexeme) (hKind : lexeme.kind = .unknown) :
    ∃ c, cs.head? = some c ∧ lexeme = plain .unknown [c] := by
  cases cs with
  | nil =>
    cases h
    cases hKind
  | cons c cs =>
    rcases front_valid h with hValid | ⟨hLexeme, -, -⟩
    · exact absurd hKind hValid.kind_ne.1
    · exact ⟨c, rfl, hLexeme⟩

-- ---------------------------------------------------------------------------
-- Nothing longer is there to be read
-- ---------------------------------------------------------------------------

/-- No lexeme at the front of a text is longer than the one that is read. -/
theorem length_le_front {config : Config} {c : Char} {cs : List Char} {lexeme other : Lexeme}
    (h : front config (c :: cs) = .ok lexeme) (hOther : Valid config.unicodeWords other)
    (hFront : other.written <+: c :: cs) : other.written.length ≤ lexeme.written.length := by
  have hSame := hOther.ofOpening_of_isPrefix hFront
  rw [front_cons] at h
  cases hClass : opening config.unicodeWords c with
  | word =>
    rw [hClass] at h hSame
    cases h
    obtain ⟨kind, cs', rfl, hWord, -⟩ := hSame
    exact length_le_word hWord hFront
  | number =>
    rw [hClass] at h hSame
    obtain ⟨kind, cs', rfl, hNumber⟩ := hSame
    exact length_le_number hNumber hFront h
  | string =>
    rw [hClass] at h
    obtain rfl : c = '"' := leads_of_opening hClass
    -- the literal that is there is the one that is read
    obtain rfl := Except.ok.inj ((string_of_isPrefix hOther hFront).symm.trans h)
    exact Nat.le_refl _
  | char =>
    rw [hClass] at h
    obtain rfl : c = '\'' := leads_of_opening hClass
    obtain rfl := Except.ok.inj ((char_of_isPrefix hOther hFront).symm.trans h)
    exact Nat.le_refl _
  | symbol =>
    rw [hClass] at hSame
    simp only [hClass] at h
    split at h
    · next hSymbol =>
      cases h
      exact length_le_symbol? hSame.isSymbol hFront hSymbol
    · next hNone =>
      exact absurd hFront (not_isPrefix_of_symbol?_eq_none hSame.isSymbol hNone)

-- ---------------------------------------------------------------------------
-- Lexemes that do not go on
-- ---------------------------------------------------------------------------

/-- A text with which no lexeme before it goes on. -/
structure Apart (unicode : Bool) (ahead : List Char) : Prop where
  word : StopsBefore (isWordPart unicode) ahead
  number : StopsBefore isNumberPart ahead
  operator : StopsBefore isOperatorStart ahead

theorem Apart.nil (unicode : Bool) : Apart unicode [] :=
  ⟨StopsBefore.nil _, StopsBefore.nil _, StopsBefore.nil _⟩

/-- White space keeps lexemes apart. -/
theorem Apart.of_isBlank {c : Char} (h : Text.isBlank c = true) (unicode : Bool)
    (cs : List Char) : Apart unicode (c :: cs) :=
  ⟨StopsBefore.cons (isWordPart_of_isBlank h unicode) cs,
    StopsBefore.cons (isNumberPart_of_isBlank h) cs,
    StopsBefore.cons (isOperatorStart_of_isBlank h) cs⟩

/-- A lexeme that does not go on is read whole. -/
theorem front_append {config : Config} {lexeme : Lexeme} {ahead : List Char}
    (h : Valid config.unicodeWords lexeme) (hApart : Apart config.unicodeWords ahead) :
    front config (lexeme.written ++ ahead) = .ok lexeme := by
  obtain ⟨c, rest, hText, hClass⟩ := h.ofOpening
  rw [hText, List.cons_append, front_cons]
  cases hOpening : opening config.unicodeWords c with
  | word =>
    rw [hOpening] at hClass
    obtain ⟨kind, cs, rfl, hWord, hKind⟩ := hClass
    have hRead := word_append hWord hKind hApart.word
    rw [show cs = c :: rest from hText] at hRead ⊢
    exact congrArg Except.ok hRead
  | number =>
    rw [hOpening] at hClass
    obtain ⟨kind, cs, rfl, hNumber⟩ := hClass
    have hRead := number_append hNumber hApart.number
    rw [show cs = c :: rest from hText] at hRead ⊢
    exact hRead
  | string =>
    rw [hOpening] at hClass
    obtain ⟨meaning, cs, rfl, hEncodes⟩ := hClass
    obtain rfl : cs ++ ['"'] = rest := (List.cons.inj hText).2
    have hRead := string_append hEncodes ahead
    rw [List.append_assoc]
    exact hRead
  | char =>
    rw [hOpening] at hClass
    obtain ⟨x, cs, rfl, hEncodes⟩ := hClass
    obtain rfl : cs ++ ['\''] = rest := (List.cons.inj hText).2
    have hRead := char_append hEncodes ahead
    rw [List.append_assoc]
    exact hRead
  | symbol =>
    rw [hOpening] at hClass
    rw [← List.cons_append, ← hText]
    rcases hClass with ⟨operator, rfl⟩ | ⟨delimiter, rfl⟩
    · have hRead := symbol?_operator_append operator hApart.operator
      simp only [plain] at hRead ⊢
      rw [hRead]
    · have hRead := symbol?_delimiter_append delimiter ahead
      simp only [plain] at hRead ⊢
      rw [hRead]

end HdlLex.Lexeme
