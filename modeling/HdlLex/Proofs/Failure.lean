import HdlLex.Proofs.FrontGrammar
import HdlLex.Proofs.GapGrammar
import HdlLex.Proofs.Run

/-!
# Failure — exactly when no lexeme can be read

Behind a gap, reading fails for one of five reasons, each of which can be told
from the text alone: the mark of a base without a digit, a literal that its
line leaves open, a backslash without an escape, a character literal with the
wrong number of characters, and a character that begins no lexeme. In a literal
the longest stretch of characters that can stand between its quotes decides,
together with what stops it.

* `Lexeme.IsBody` — that stretch and what follows it.
* `Lexeme.Fails` — the texts that fail, with the fault of each.

Main results:

* `Lexeme.exists_isBody` — behind every quote there is such a stretch.
* `Lexeme.front_eq_error_iff` — the front of a text cannot be read exactly if
  the text fails.
* `failure_exact` — the same for every call of a run, with its error and the
  place where the lexer is left.
-/

namespace HdlLex

namespace Lexeme

-- ---------------------------------------------------------------------------
-- Texts that fail
-- ---------------------------------------------------------------------------

/-- The line, or the text, ends here. -/
def LineEnds (cs : List Char) : Prop :=
  cs = [] ∨ cs.head? = some '\n'

/-- The longest stretch of a text that can stand between quotes, and what follows it. -/
structure IsBody (quote : Char) (text meaning written ahead : List Char) : Prop where
  text_eq : text = written ++ ahead
  encodes : Encodes quote meaning written
  length_le : ∀ other cs, Encodes quote other cs → cs <+: text → cs.length ≤ written.length

/-- What is wrong with a literal that is left open. -/
def openCause (quote : Char) : LexError.Cause :=
  if quote = '"' then .unclosedString else .unclosedChar

theorem openCause_cases (quote : Char) :
    openCause quote = .unclosedString ∨ openCause quote = .unclosedChar := by
  unfold openCause
  split
  · exact Or.inl rfl
  · exact Or.inr rfl

theorem openCause_ne {cause : LexError.Cause} (hString : cause ≠ .unclosedString)
    (hChar : cause ≠ .unclosedChar) (quote : Char) : openCause quote ≠ cause := by
  rintro rfl
  rcases openCause_cases quote with hCause | hCause
  · exact hString hCause
  · exact hChar hCause

/--
The texts at whose front no lexeme can be read, with the fault of each: its
cause, the characters before the place that it is reported at, and the
characters that are passed.
-/
inductive Fails (config : Config) : List Char → Fault → Prop
  /-- The mark of a base, and no digit of the base behind it. -/
  | noDigits {m : Char} {radix : Radix} {ahead : List Char} :
      (radix = .binary ∧ m ∈ ['b', 'B']) ∨ (radix = .hexadecimal ∧ m ∈ ['x', 'X']) →
      (∀ d, ahead.head? = some d → d ∉ radix.numerals) →
      Fails config ('0' :: m :: ahead) ⟨.noDigits (String.ofList ['0', m]), [], ['0', m]⟩
  /-- A literal whose line ends. -/
  | unclosed {quote : Char} {text meaning written ahead : List Char} :
      quote ∈ ['"', '\''] → IsBody quote text meaning written ahead → LineEnds ahead →
      Fails config (quote :: text) ⟨openCause quote, [], quote :: written⟩
  /-- A literal whose line ends behind a backslash. -/
  | unclosedEscape {quote : Char} {text meaning written ahead : List Char} :
      quote ∈ ['"', '\''] → IsBody quote text meaning written ('\\' :: ahead) → LineEnds ahead →
      Fails config (quote :: text) ⟨openCause quote, [], quote :: (written ++ ['\\'])⟩
  /-- A backslash before a character without an escape, which is not passed. -/
  | unknownEscape {quote x : Char} {text meaning written ahead : List Char} :
      quote ∈ ['"', '\''] → IsBody quote text meaning written ('\\' :: x :: ahead) →
      x ≠ '\n' → (∀ y, (x, y) ∉ escapes) →
      Fails config (quote :: text)
        ⟨.unknownEscape x, quote :: written, quote :: (written ++ ['\\'])⟩
  /-- A character literal that stands for no character or for several. -/
  | notOneChar {text meaning written ahead : List Char} :
      IsBody '\'' text meaning written ('\'' :: ahead) → meaning.length ≠ 1 →
      Fails config ('\'' :: text)
        ⟨.notOneChar (String.ofList meaning), [], '\'' :: (written ++ ['\''])⟩
  /-- A character that begins no lexeme, where such characters are not passed through. -/
  | unexpected {c : Char} {cs : List Char} :
      config.unknownChars = .fatal →
      (∀ lexeme, Valid config.unicodeWords lexeme → lexeme.written.head? ≠ some c) →
      Fails config (c :: cs) ⟨.unexpectedChar c, [], []⟩

-- ---------------------------------------------------------------------------
-- Bodies of literals
-- ---------------------------------------------------------------------------

/-- What can follow the longest stretch between quotes. -/
inductive StopsBody (quote : Char) : List Char → Prop
  | closes (ahead : List Char) : StopsBody quote (quote :: ahead)
  | ends {ahead : List Char} : LineEnds ahead → StopsBody quote ahead
  | endsEscape {ahead : List Char} : LineEnds ahead → StopsBody quote ('\\' :: ahead)
  | stray {x : Char} {ahead : List Char} :
      x ≠ '\n' → (∀ y, (x, y) ∉ escapes) → StopsBody quote ('\\' :: x :: ahead)

/-- Nothing that can stand between quotes begins where a body stops. -/
theorem eq_nil_of_stopsBody {quote : Char} {meaning written ahead : List Char}
    (h : StopsBody quote ahead) (hQuote : quote ≠ '\\') (hEncodes : Encodes quote meaning written)
    (hFront : written <+: ahead) : written = [] := by
  obtain ⟨rest, hText⟩ := hFront
  cases hEncodes with
  | nil => rfl
  | @raw c meaning cs hNotQuote hNotLine hNotBackslash _ =>
    cases h with
    | closes => exact absurd (List.cons.inj hText).1 hNotQuote
    | ends hEnds => simp [LineEnds, ← hText, hNotLine] at hEnds
    | endsEscape => exact absurd (List.cons.inj hText).1 hNotBackslash
    | stray => exact absurd (List.cons.inj hText).1 hNotBackslash
  | @escape e x meaning cs hEscape _ =>
    have hNotLine := ne_lineFeed_of_mem_escapes hEscape
    cases h with
    | closes => exact absurd (List.cons.inj hText).1.symm hQuote
    | ends hEnds => simp [LineEnds, ← hText] at hEnds
    | endsEscape hEnds => simp [LineEnds, ← (List.cons.inj hText).2, hNotLine] at hEnds
    | stray _ hNone =>
      obtain rfl := (List.cons.inj (List.cons.inj hText).2).1
      exact absurd hEscape (hNone x)

/-- A stretch between quotes that is followed by what stops it is the longest one. -/
theorem length_le_of_stopsBody {quote : Char} {meaning written ahead : List Char}
    (h : Encodes quote meaning written) (hQuote : quote ≠ '\\') (hStop : StopsBody quote ahead)
    {other cs : List Char} (hOther : Encodes quote other cs) (hFront : cs <+: written ++ ahead) :
    cs.length ≤ written.length := by
  induction h generalizing other cs with
  | nil =>
    rw [eq_nil_of_stopsBody hStop hQuote hOther hFront]
  | @raw c meaning written _ _ hNotBackslash _ ih =>
    cases hOther with
    | nil => exact Nat.zero_le _
    | raw _ _ _ hOther =>
      rw [List.cons_append, List.cons_prefix_cons] at hFront
      exact Nat.succ_le_succ (ih hOther hFront.2)
    | escape =>
      rw [List.cons_append, List.cons_prefix_cons] at hFront
      exact absurd hFront.1.symm hNotBackslash
  | @escape e x meaning written _ _ ih =>
    cases hOther with
    | nil => exact Nat.zero_le _
    | raw _ _ hNotBackslash _ =>
      rw [List.cons_append, List.cons_prefix_cons] at hFront
      exact absurd hFront.1 hNotBackslash
    | escape _ hOther =>
      simp only [List.cons_append, List.cons_prefix_cons] at hFront
      exact Nat.succ_le_succ (Nat.succ_le_succ (ih hOther hFront.2.2))

/-- Every text begins with a stretch that can stand between quotes, up to what stops it. -/
theorem exists_encodes_stopsBody (quote : Char) (text : List Char) :
    ∃ meaning written ahead, text = written ++ ahead ∧ Encodes quote meaning written ∧
      StopsBody quote ahead := by
  fun_induction inside quote text with
  | case1 => exact ⟨[], [], [], rfl, .nil, .ends (Or.inl rfl)⟩
  | case2 cs => exact ⟨[], [], quote :: cs, rfl, .nil, .closes cs⟩
  | case3 cs => exact ⟨[], [], '\n' :: cs, rfl, .nil, .ends (Or.inr rfl)⟩
  | case4 => exact ⟨[], [], ['\\'], rfl, .nil, .endsEscape (Or.inl rfl)⟩
  | case5 => exact ⟨[], [], _, rfl, .nil, .endsEscape (Or.inr rfl)⟩
  | case6 e rest _ x hEscape _ _ ih =>
    obtain ⟨meaning, written, ahead, rfl, hEncodes, hStop⟩ := ih
    exact ⟨x :: meaning, '\\' :: e :: written, ahead, rfl,
      .escape (unescape?_eq_some_iff.1 hEscape) hEncodes, hStop⟩
  | case7 e rest hLine hNone =>
    have hNoEscape : ∀ y, (e, y) ∉ escapes := by
      intro y hMem
      rw [unescape?_eq_some_iff.2 hMem] at hNone
      cases hNone
    exact ⟨[], [], _, rfl, .nil, .stray hLine hNoEscape⟩
  | case8 c cs hQuote hLine hBackslash ih =>
    obtain ⟨meaning, written, ahead, rfl, hEncodes, hStop⟩ := ih
    exact ⟨c :: meaning, c :: written, ahead, rfl, .raw hQuote hLine hBackslash hEncodes, hStop⟩

/-- Behind every quote there is a longest stretch that can stand between quotes. -/
theorem exists_isBody {quote : Char} (hQuote : quote ≠ '\\') (text : List Char) :
    ∃ meaning written ahead, IsBody quote text meaning written ahead ∧ StopsBody quote ahead := by
  obtain ⟨meaning, written, ahead, rfl, hEncodes, hStop⟩ := exists_encodes_stopsBody quote text
  refine ⟨meaning, written, ahead, ⟨rfl, hEncodes, ?_⟩, hStop⟩
  intro other cs hOther hFront
  exact length_le_of_stopsBody hEncodes hQuote hStop hOther hFront

-- ---------------------------------------------------------------------------
-- What a body is read as
-- ---------------------------------------------------------------------------

theorem inside_of_lineEnds {quote : Char} {ahead : List Char} (hQuote : quote ≠ '\n')
    (h : LineEnds ahead) : inside quote ahead = .unclosed [] := by
  cases ahead with
  | nil => rw [inside.eq_def]
  | cons c cs =>
    obtain rfl : c = '\n' := by simpa [LineEnds] using h
    rw [inside.eq_def]
    simp [hQuote.symm]

theorem inside_of_lineEnds_escape {quote : Char} {ahead : List Char} (hQuote : quote ≠ '\\')
    (h : LineEnds ahead) : inside quote ('\\' :: ahead) = .unclosed ['\\'] := by
  cases ahead with
  | nil =>
    rw [inside.eq_def]
    simp [hQuote.symm]
  | cons c cs =>
    obtain rfl : c = '\n' := by simpa [LineEnds] using h
    rw [inside.eq_def]
    simp [hQuote.symm]

theorem inside_of_stray {quote x : Char} (hQuote : quote ≠ '\\') (hLine : x ≠ '\n')
    (hNone : ∀ y, (x, y) ∉ escapes) (ahead : List Char) :
    inside quote ('\\' :: x :: ahead) = .stray [] x := by
  have hNoMeaning : unescape? x = none := by
    cases hMeaning : unescape? x with
    | none => rfl
    | some y => exact absurd (unescape?_eq_some_iff.1 hMeaning) (hNone y)
  rw [inside.eq_def]
  simp [hQuote.symm, hLine, hNoMeaning]

namespace IsBody

variable {quote : Char} {text meaning written ahead : List Char}

theorem inside_eq (h : IsBody quote text meaning written ahead) (hQuote : quote ≠ '\\') :
    inside quote text = (inside quote ahead).behind written meaning := by
  rw [h.text_eq]
  exact inside_encodes_append h.encodes hQuote ahead

theorem inside_closed (h : IsBody quote text meaning written (quote :: ahead))
    (hQuote : quote ≠ '\\') : inside quote text = .closed written meaning := by
  rw [h.text_eq]
  exact inside_append h.encodes hQuote ahead

theorem inside_unclosed (h : IsBody quote text meaning written ahead)
    (hQuote : quote ≠ '\\' ∧ quote ≠ '\n') (hEnds : LineEnds ahead) :
    inside quote text = .unclosed written := by
  rw [h.inside_eq hQuote.1, inside_of_lineEnds hQuote.2 hEnds]
  simp [Inside.behind]

theorem inside_unclosedEscape (h : IsBody quote text meaning written ('\\' :: ahead))
    (hQuote : quote ≠ '\\') (hEnds : LineEnds ahead) :
    inside quote text = .unclosed (written ++ ['\\']) := by
  rw [h.inside_eq hQuote, inside_of_lineEnds_escape hQuote hEnds]
  rfl

theorem inside_stray {x : Char} (h : IsBody quote text meaning written ('\\' :: x :: ahead))
    (hQuote : quote ≠ '\\') (hLine : x ≠ '\n') (hNone : ∀ y, (x, y) ∉ escapes) :
    inside quote text = .stray written x := by
  rw [h.inside_eq hQuote, inside_of_stray hQuote hLine hNone]
  simp [Inside.behind]

end IsBody

-- ---------------------------------------------------------------------------
-- Literals that fail
-- ---------------------------------------------------------------------------

theorem front_string (config : Config) (cs : List Char) : front config ('"' :: cs) = string cs := by
  rw [front_cons, (opening_quotes config.unicodeWords).1]

theorem front_char (config : Config) (cs : List Char) : front config ('\'' :: cs) = char cs := by
  rw [front_cons, (opening_quotes config.unicodeWords).2]

/-- A quote is neither a backslash nor a line feed. -/
theorem ne_of_mem_quotes {quote : Char} (h : quote ∈ ['"', '\'']) :
    quote ≠ '\\' ∧ quote ≠ '\n' := by
  simp only [List.mem_cons, List.not_mem_nil, or_false] at h
  rcases h with rfl | rfl
  · decide
  · decide

theorem front_of_unclosed (config : Config) {quote : Char} {text written : List Char}
    (hQuote : quote ∈ ['"', '\'']) (h : inside quote text = .unclosed written) :
    front config (quote :: text) = .error ⟨openCause quote, [], quote :: written⟩ := by
  simp only [List.mem_cons, List.not_mem_nil, or_false] at hQuote
  rcases hQuote with rfl | rfl
  · rw [front_string, string, h]
    rfl
  · rw [front_char, char, h]
    rfl

theorem front_of_stray (config : Config) {quote x : Char} {text written : List Char}
    (hQuote : quote ∈ ['"', '\'']) (h : inside quote text = .stray written x) :
    front config (quote :: text) =
      .error ⟨.unknownEscape x, quote :: written, quote :: (written ++ ['\\'])⟩ := by
  simp only [List.mem_cons, List.not_mem_nil, or_false] at hQuote
  rcases hQuote with rfl | rfl
  · rw [front_string, string, h]
    rfl
  · rw [front_char, char, h]
    rfl

/-- A literal that is not closed fails as what stops its body demands. -/
theorem fails_of_stopsBody (config : Config) {quote : Char} {text meaning written ahead : List Char}
    {fault : Fault} (hQuote : quote ∈ ['"', '\'']) (hBody : IsBody quote text meaning written ahead)
    (hStop : StopsBody quote ahead) (hOpen : ahead.head? ≠ some quote)
    (h : front config (quote :: text) = .error fault) : Fails config (quote :: text) fault := by
  obtain ⟨hNotBackslash, hNotLine⟩ := ne_of_mem_quotes hQuote
  cases hStop with
  | closes => exact absurd rfl hOpen
  | ends hEnds =>
    rw [front_of_unclosed config hQuote (hBody.inside_unclosed ⟨hNotBackslash, hNotLine⟩ hEnds)] at h
    cases h
    exact .unclosed hQuote hBody hEnds
  | endsEscape hEnds =>
    rw [front_of_unclosed config hQuote (hBody.inside_unclosedEscape hNotBackslash hEnds)] at h
    cases h
    exact .unclosedEscape hQuote hBody hEnds
  | stray hLine hNone =>
    rw [front_of_stray config hQuote (hBody.inside_stray hNotBackslash hLine hNone)] at h
    cases h
    exact .unknownEscape hQuote hBody hLine hNone

/-- A string literal that cannot be read fails. -/
theorem fails_of_string {config : Config} {cs : List Char} {fault : Fault}
    (h : front config ('"' :: cs) = .error fault) : Fails config ('"' :: cs) fault := by
  obtain ⟨meaning, written, ahead, hBody, hStop⟩ := exists_isBody (by decide : '"' ≠ '\\') cs
  by_cases hCloses : ahead.head? = some '"'
  · obtain ⟨rest, rfl⟩ := List.head?_eq_some_iff.1 hCloses
    rw [front_string, string, hBody.inside_closed (by decide)] at h
    cases h
  · exact fails_of_stopsBody config (by simp) hBody hStop hCloses h

/-- A character literal that cannot be read fails. -/
theorem fails_of_char {config : Config} {cs : List Char} {fault : Fault}
    (h : front config ('\'' :: cs) = .error fault) : Fails config ('\'' :: cs) fault := by
  obtain ⟨meaning, written, ahead, hBody, hStop⟩ := exists_isBody (by decide : '\'' ≠ '\\') cs
  by_cases hCloses : ahead.head? = some '\''
  · obtain ⟨rest, rfl⟩ := List.head?_eq_some_iff.1 hCloses
    rw [front_char, char, hBody.inside_closed (by decide)] at h
    simp only at h
    split at h
    · cases h
    · next hNotOne =>
      cases h
      exact .notOneChar hBody hNotOne
  · exact fails_of_stopsBody config (by simp) hBody hStop hCloses h

-- ---------------------------------------------------------------------------
-- Numbers that fail
-- ---------------------------------------------------------------------------

theorem digits_eq_nil_iff {radix : Radix} {cs : List Char} :
    digits radix cs = [] ↔ ∀ d, cs.head? = some d → d ∉ radix.numerals := by
  cases cs with
  | nil => simp [digits]
  | cons c cs =>
    simp only [digits, List.takeWhile_cons, List.head?_cons, Option.some.injEq, forall_eq',
      ← Radix.isDigit_iff]
    cases radix.isDigit c <;> simp

theorem front_zero (config : Config) (cs : List Char) :
    front config ('0' :: cs) = number ('0' :: cs) := by
  rw [front_cons, opening_of_isDigit config.unicodeWords (by decide)]

theorem fails_of_number {config : Config} {cs : List Char} {fault : Fault}
    (h : number cs = .error fault) : Fails config cs fault := by
  rcases number_cases cs with ⟨m, rest, radix, rfl, hMark⟩ | hDecimal
  · rw [number_eq_marked hMark, marked] at h
    split at h
    · next hNone =>
      cases h
      exact .noDigits (Radix.ofMark?_eq_some_iff.1 hMark) (digits_eq_nil_iff.1 hNone)
    · cases h
  · rw [number_eq_decimal hDecimal] at h
    cases h

-- ---------------------------------------------------------------------------
-- Characters that begin no lexeme
-- ---------------------------------------------------------------------------

/-- The first character of an operator is an operator of its own. -/
theorem exists_spelling_eq_singleton {operator : Operator} {c : Char} {rest : List Char}
    (h : operator.spelling = c :: rest) : ∃ other : Operator, other.spelling = [c] := by
  have hAll : Operator.table.all (fun entry => Operator.table.any
      fun other => other.1 == entry.1.take 1) = true := by
    decide
  have hAny := List.all_eq_true.1 hAll _ (Operator.mem_table operator)
  obtain ⟨⟨text, other⟩, hMem, hOther⟩ := List.any_eq_true.1 hAny
  obtain rfl := Operator.spelling_of_mem_table hMem
  rw [h] at hOther
  exact ⟨other, by simpa using hOther⟩

/-- A lexeme that begins with this character is led to by it. -/
theorem Valid.ofOpening_of_head? {unicode : Bool} {lexeme : Lexeme} {c : Char}
    (h : Valid unicode lexeme) (hHead : lexeme.written.head? = some c) :
    OfOpening unicode (opening unicode c) lexeme := by
  obtain ⟨rest, hText⟩ := List.head?_eq_some_iff.1 hHead
  have hFront : lexeme.written <+: c :: rest := ⟨[], by simp [hText]⟩
  exact h.ofOpening_of_isPrefix hFront

/-- Where no symbol is found, no lexeme begins with a character of that class. -/
theorem head?_ne_of_symbol?_eq_none {unicode : Bool} {c : Char} {cs : List Char}
    (hClass : opening unicode c = .symbol) (hNone : symbol? (c :: cs) = none) {lexeme : Lexeme}
    (h : Valid unicode lexeme) : lexeme.written.head? ≠ some c := by
  intro hHead
  have hSymbol := h.ofOpening_of_head? hHead
  rw [hClass] at hSymbol
  rcases hSymbol with ⟨operator, rfl⟩ | ⟨delimiter, rfl⟩
  · obtain ⟨rest, hSpelling⟩ := List.head?_eq_some_iff.1 hHead
    obtain ⟨other, hOther⟩ := exists_spelling_eq_singleton hSpelling
    exact not_isPrefix_of_symbol?_eq_none (Or.inl ⟨other, rfl⟩) hNone (by simp [hOther])
  · have hSame : delimiter.symbol = c := by simpa [plain] using hHead
    exact not_isPrefix_of_symbol?_eq_none (Or.inr ⟨delimiter, rfl⟩) hNone (by simp [hSame])

/-- What is read as a lexeme begins with the first character of the text. -/
theorem head?_written {config : Config} {c : Char} {cs : List Char} {lexeme : Lexeme}
    (h : front config (c :: cs) = .ok lexeme) : lexeme.written.head? = some c := by
  obtain ⟨d, rest, hText⟩ := List.exists_cons_of_ne_nil (written_ne_nil h)
  have hFront := front_isPrefix h
  rw [hText, List.cons_prefix_cons] at hFront
  rw [hText, hFront.1]
  rfl

/-- A character that leads to another class than that of symbols begins a lexeme. -/
theorem exists_valid_of_opening {unicode : Bool} {c : Char} (h : opening unicode c ≠ .symbol) :
    ∃ lexeme, Valid unicode lexeme ∧ lexeme.written.head? = some c := by
  unfold opening at h
  split at h
  · next hStart =>
    have hValid : Valid unicode (word unicode [c]) := word_valid hStart
    exact ⟨_, hValid, by simp [word, plain, isWordPart_of_isWordStart hStart]⟩
  split at h
  · next hDigit =>
    have hDigits : IsDigits .decimal [c] :=
      ⟨by simp, by simpa using mem_numerals_of_isDigit hDigit⟩
    exact ⟨_, .number (.number hDigits), rfl⟩
  split at h
  · next hQuote => exact ⟨_, .string .nil, by rw [hQuote]; rfl⟩
  split at h
  · next hQuote =>
    have hRaw : Encodes '\'' ['a'] ['a'] := .raw (by decide) (by decide) (by decide) .nil
    exact ⟨_, .char hRaw, by rw [hQuote]; rfl⟩
  · exact absurd rfl h

theorem fails_of_unknown {config : Config} {c : Char} {cs : List Char} {fault : Fault}
    (hClass : opening config.unicodeWords c = .symbol) (hNone : symbol? (c :: cs) = none)
    (h : unknown config.unknownChars c = .error fault) : Fails config (c :: cs) fault := by
  unfold unknown at h
  split at h
  · cases h
  · next hPolicy =>
    cases h
    exact .unexpected hPolicy fun _ => head?_ne_of_symbol?_eq_none hClass hNone

theorem front_of_unexpected {config : Config} {c : Char} (cs : List Char)
    (hPolicy : config.unknownChars = .fatal)
    (hNone : ∀ lexeme, Valid config.unicodeWords lexeme → lexeme.written.head? ≠ some c) :
    front config (c :: cs) = .error ⟨.unexpectedChar c, [], []⟩ := by
  have hClass : opening config.unicodeWords c = .symbol := by
    by_contra hOther
    obtain ⟨lexeme, hValid, hHead⟩ := exists_valid_of_opening hOther
    exact hNone lexeme hValid hHead
  cases hSymbol : symbol? (c :: cs) with
  | some lexeme =>
    have hFront : front config (c :: cs) = .ok lexeme := by
      rw [front_cons, hClass]
      simp only [hSymbol]
    exact absurd (head?_written hFront) (hNone lexeme (symbol?_valid _ hSymbol))
  | none =>
    rw [front_cons, hClass]
    simp only [hSymbol, hPolicy, unknown]

-- ---------------------------------------------------------------------------
-- Exactly these texts fail
-- ---------------------------------------------------------------------------

/-- What cannot be read fails. -/
theorem fails_of_front {config : Config} {cs : List Char} {fault : Fault}
    (h : front config cs = .error fault) : Fails config cs fault := by
  cases cs with
  | nil => cases h
  | cons c cs =>
    have hFront := h
    rw [front_cons] at h
    cases hClass : opening config.unicodeWords c with
    | word =>
      rw [hClass] at h
      cases h
    | number =>
      rw [hClass] at h
      exact fails_of_number h
    | string =>
      obtain rfl : c = '"' := leads_of_opening hClass
      exact fails_of_string hFront
    | char =>
      obtain rfl : c = '\'' := leads_of_opening hClass
      exact fails_of_char hFront
    | symbol =>
      simp only [hClass] at h
      split at h
      · cases h
      · next hNone => exact fails_of_unknown hClass hNone h

/-- The front of a text cannot be read exactly if the text fails. -/
theorem front_eq_error_iff {config : Config} {cs : List Char} {fault : Fault} :
    front config cs = .error fault ↔ Fails config cs fault := by
  constructor
  · exact fails_of_front
  · intro h
    cases h with
    | @noDigits m radix ahead hMark hNone =>
      rw [front_zero, number_eq_marked (Radix.ofMark?_eq_some_iff.2 hMark), marked,
        if_pos (digits_eq_nil_iff.2 hNone)]
    | unclosed hQuote hBody hEnds =>
      exact front_of_unclosed config hQuote (hBody.inside_unclosed (ne_of_mem_quotes hQuote) hEnds)
    | unclosedEscape hQuote hBody hEnds =>
      exact front_of_unclosed config hQuote
        (hBody.inside_unclosedEscape (ne_of_mem_quotes hQuote).1 hEnds)
    | unknownEscape hQuote hBody hLine hNone =>
      exact front_of_stray config hQuote
        (hBody.inside_stray (ne_of_mem_quotes hQuote).1 hLine hNone)
    | notOneChar hBody hNotOne =>
      rw [front_char, char, hBody.inside_closed (by decide)]
      exact if_neg hNotOne
    | unexpected hPolicy hNone => exact front_of_unexpected _ hPolicy hNone

end Lexeme

-- ---------------------------------------------------------------------------
-- Runs
-- ---------------------------------------------------------------------------

namespace Lexer

/-- Behind a gap in front of a lexeme, reading is reading the front of what follows. -/
theorem read_behind_gap {config : Config} {gap ahead : List Char}
    (hGap : Trivia.IsGap config.nesting ahead gap) (hStarts : Trivia.StartsLexeme ahead) :
    read config (gap ++ ahead) =
      match Lexeme.front config ahead with
      | .error fault => .error (fault.behind gap)
      | .ok lexeme => .ok (gap, lexeme) := by
  have hRead := Trivia.gap_eq_ok_iff.2 ⟨hGap, hStarts⟩
  cases hFront : Lexeme.front config ahead with
  | error fault => simp only [read, hRead, List.drop_left, hFront]
  | ok lexeme => simp only [read, hRead, List.drop_left, hFront]

/-- A call on a text that fails behind a gap yields its error and stops where reading stopped. -/
theorem Stands.nextToken_of_fails {config : Config} {source : String}
    {passed gap ahead : List Char} {fault : Fault} {lexer : Lexer}
    (h : lexer.Stands config source passed) (hRest : lexer.cursor.rest = gap ++ ahead)
    (hGap : Trivia.IsGap config.nesting ahead gap) (hStarts : Trivia.StartsLexeme ahead)
    (hFails : Lexeme.Fails config ahead fault) :
    lexer.nextToken.1 = .error (fault.errorAt (lexer.cursor.position.afterAll gap)) ∧
      ∃ behind, ahead = fault.passed ++ behind ∧
        lexer.nextToken.2.cursor = lexer.cursor.behind (gap ++ fault.passed) behind := by
  have hFront := Lexeme.front_eq_error_iff.2 hFails
  obtain ⟨behind, hAhead⟩ := (Lexeme.front_fits hFront).passed_isPrefix
  have hRead := read_behind_gap hGap hStarts
  rw [hFront, ← hRest] at hRead
  have hSplit : lexer.cursor.rest = (fault.behind gap).passed ++ behind := by
    rw [hRest, ← hAhead, ← List.append_assoc]
    rfl
  have hNext := h.nextToken_of_read_error hRead hSplit
  rw [← h.position_eq, Fault.errorAt_behind] at hNext
  exact ⟨congrArg Prod.fst hNext, behind, hAhead.symm, congrArg (Lexer.cursor ∘ Prod.snd) hNext⟩

/-- A call on a text that yields an error behind a gap is one on a text that fails. -/
theorem Stands.fails_of_error {config : Config} {source : String}
    {passed gap ahead : List Char} {error : LexError} {lexer : Lexer}
    (h : lexer.Stands config source passed) (hRest : lexer.cursor.rest = gap ++ ahead)
    (hGap : Trivia.IsGap config.nesting ahead gap) (hStarts : Trivia.StartsLexeme ahead)
    (hError : lexer.nextToken.1 = .error error) : ∃ fault, Lexeme.Fails config ahead fault := by
  obtain ⟨fault, -, hRead, -, -, -⟩ := h.error hError
  rw [hRest, read_behind_gap hGap hStarts] at hRead
  split at hRead
  · next found hFront => exact ⟨found, Lexeme.front_eq_error_iff.1 hFront⟩
  · cases hRead

end Lexer

/--
In every run, a call on a text that continues with a gap yields an error
exactly if what follows the gap fails. The error is then that of the fault,
placed by its lead, and the lexer is left behind what was passed.
-/
theorem failure_exact {config : Config} {source : String} {n : Nat} {gap ahead : List Char}
    (hRest : ((Lexer.ofText config source).calls n).cursor.rest = gap ++ ahead)
    (hGap : Trivia.IsGap config.nesting ahead gap) (hStarts : Trivia.StartsLexeme ahead) :
    let lexer := Lexer.ofText config source
    let cursor := (lexer.calls n).cursor
    ((∃ error, lexer.result n = .error error) ↔ ∃ fault, Lexeme.Fails config ahead fault) ∧
    ∀ fault, Lexeme.Fails config ahead fault →
      lexer.result n = .error (fault.errorAt (cursor.position.afterAll gap)) ∧
      ∃ behind, ahead = fault.passed ++ behind ∧
        (lexer.calls (n + 1)).cursor = cursor.behind (gap ++ fault.passed) behind := by
  intro lexer cursor
  obtain ⟨passed, hStands⟩ := Lexer.exists_stands_calls config source n
  refine ⟨⟨?_, ?_⟩, ?_⟩
  · rintro ⟨error, hError⟩
    exact hStands.fails_of_error hRest hGap hStarts hError
  · rintro ⟨fault, hFails⟩
    exact ⟨_, (hStands.nextToken_of_fails hRest hGap hStarts hFails).1⟩
  · intro fault hFails
    exact hStands.nextToken_of_fails hRest hGap hStarts hFails

/-- Behind another error and a comment, a string with an escape and a backslash without one. -/
theorem failure_of_unknown_escape :
    let lexer := Lexer.ofText {} "0x /**/\"a\\t\\q\n"
    let gap := [' ', '/', '*', '*', '/']
    let ahead := ['"', 'a', '\\', 't', '\\', 'q', '\n']
    (lexer.calls 1).cursor.rest = gap ++ ahead ∧ Trivia.IsGap none ahead gap ∧
      Trivia.StartsLexeme ahead ∧ lexer.result 1 = .error ⟨.unknownEscape 'q', 1, 12⟩ ∧
      (lexer.calls 2).cursor.rest = ['q', '\n'] := by
  intro lexer gap ahead
  have hRest : (lexer.calls 1).cursor.rest = gap ++ ahead := by
    decide +kernel
  have hRead : Trivia.gap none (gap ++ ahead) = .ok gap := by
    decide +kernel
  obtain ⟨hGap, hStarts⟩ := Trivia.gap_eq_ok_iff.1 hRead
  have hFails : Lexeme.Fails {} ahead
      ⟨.unknownEscape 'q', ['"', 'a', '\\', 't'], ['"', 'a', '\\', 't', '\\']⟩ := by
    have hFront : Lexeme.front {} ahead = .error
        ⟨.unknownEscape 'q', ['"', 'a', '\\', 't'], ['"', 'a', '\\', 't', '\\']⟩ := by
      decide +kernel
    exact Lexeme.front_eq_error_iff.1 hFront
  obtain ⟨-, hExact⟩ := failure_exact hRest hGap hStarts
  obtain ⟨hError, behind, hAhead, hCursor⟩ := hExact _ hFails
  have hPlace : (lexer.calls 1).cursor.position = ⟨2, 1, 3⟩ := by
    decide +kernel
  obtain rfl : ['q', '\n'] = behind := by simpa [ahead] using hAhead
  refine ⟨hRest, hGap, hStarts, ?_, ?_⟩
  · rw [hPlace] at hError
    exact hError
  · rw [hCursor]
    rfl

end HdlLex
