import HdlLex.Proofs.Spaced
import HdlLex.Proofs.UnknownPolicy

/-!
# Unicode words — the larger alphabet changes nothing that could be read

With Unicode words more characters may begin a word and go on with one. Under
the ASCII alphabet these characters begin no lexeme at all, so a word that would
be longer with Unicode words is followed by an unknown character. A text without
unknown characters therefore reads the same under both alphabets, whatever
stands in its comments and literals.

* `isForeign` — the characters of words that only the larger alphabet has.

Main results:

* `Lexeme.isStray_of_isForeign` — such a character begins no lexeme under ASCII.
* `Lexeme.front_unicode` — the front of a text that is not followed by one.
* `items_unicodeWords` — the items of a text without unknown characters.
-/

namespace HdlLex

-- ---------------------------------------------------------------------------
-- Characters
-- ---------------------------------------------------------------------------

/-- Whether only the larger alphabet has `c` in words. -/
def isForeign (c : Char) : Bool := isWordPart true c && !isWordPart false c

theorem isForeign_iff {c : Char} :
    isForeign c = true ↔ isWordPart true c = true ∧ isWordPart false c = false := by
  simp [isForeign]

theorem isWordPart_true_of_false {c : Char} (h : isWordPart false c = true) :
    isWordPart true c = true := by
  have hAscii : isAsciiWordPart c = true := by simpa [isWordPart] using h
  simp [isWordPart, hAscii]

/-- Where a text does not go on with a foreign character, both alphabets see a word end. -/
theorem StopsBefore.wordPart_true {cs : List Char} (hForeign : StopsBefore isForeign cs)
    (hAscii : StopsBefore (isWordPart false) cs) : StopsBefore (isWordPart true) cs := by
  intro c hHead
  have hNot := hForeign c hHead
  rw [isForeign, hAscii c hHead] at hNot
  simpa using hNot

/-- The characters of words that begin no word are the digits. -/
theorem isDigit_of_wordPart {c : Char} (hPart : isWordPart false c = true)
    (hStart : isWordStart false c = false) : c.isDigit = true := by
  simp only [isWordPart, isWordStart, isAsciiWordPart, isAsciiWordStart, Char.isAlphanum,
    Bool.false_and, Bool.or_false, Bool.or_eq_true, Bool.or_eq_false_iff] at hPart hStart
  rcases hPart with (hAlpha | hDigit) | hScore
  · rw [hStart.1] at hAlpha
    cases hAlpha
  · exact hDigit
  · rw [hStart.2] at hScore
    cases hScore

namespace Lexeme

/-- Only a foreign character leads to another class under the larger alphabet. -/
theorem opening_unicode {c : Char} (h : isForeign c = false) :
    opening true c = opening false c := by
  cases hPart : isWordPart false c with
  | true =>
    cases hStart : isWordStart false c with
    | true =>
      have hAscii : isAsciiWordStart c = true := by simpa [isWordStart] using hStart
      simp [opening, isWordStart, hAscii]
    | false =>
      have hDigit := isDigit_of_wordPart hPart hStart
      rw [opening_of_isDigit true hDigit, opening_of_isDigit false hDigit]
  | false =>
    -- the character begins a word under neither alphabet
    have hNone : ∀ unicode, isWordStart unicode c = false := by
      intro unicode
      by_contra hStart
      rw [Bool.not_eq_false] at hStart
      have hPart' := isWordPart_of_isWordStart hStart
      cases unicode with
      | false =>
        rw [hPart] at hPart'
        cases hPart'
      | true =>
        rw [isForeign, hPart, hPart'] at h
        cases h
    unfold opening
    rw [hNone true, hNone false]

/-- Under the ASCII alphabet a foreign character begins no lexeme. -/
theorem isStray_of_isForeign {c : Char} (h : isForeign c = true) : isStray false c = true := by
  obtain ⟨hUnicode, hAscii⟩ := isForeign_iff.1 h
  have hOther : ∀ chars : List Char, (chars.all fun d => !isWordPart true d) = true → c ∉ chars := by
    intro chars hAll hMem
    have hNot := List.all_eq_true.1 hAll c hMem
    rw [hUnicode] at hNot
    cases hNot
  have hOpening : opening false c = .symbol := by
    cases hClass : opening false c with
    | word =>
      have hPart := isWordPart_of_isWordStart (leads_of_opening hClass)
      rw [hAscii] at hPart
      cases hPart
    | number =>
      have hDigit : c.isDigit = true := leads_of_opening hClass
      simp [isWordPart, isAsciiWordPart, Char.isAlphanum, hDigit] at hAscii
    | string =>
      obtain rfl : c = '"' := leads_of_opening hClass
      exact absurd List.mem_cons_self (hOther ['"'] (by decide +kernel))
    | char =>
      obtain rfl : c = '\'' := leads_of_opening hClass
      exact absurd List.mem_cons_self (hOther ['\''] (by decide +kernel))
    | symbol => rfl
  have hOperator : isOperatorStart c = false := by
    have hNot := hOther ['+', '-', '*', '/', '%', '&', '|', '^', '~', '<', '>', '=', '!']
      (by decide +kernel)
    simpa [isOperatorStart] using hNot
  have hDelimiter : (Delimiter.all.all fun delimiter => delimiter.symbol != c) = true := by
    have hNot := hOther (Delimiter.all.map Delimiter.symbol) (by decide +kernel)
    rw [List.all_eq_true]
    intro delimiter hMem
    rw [bne_iff_ne]
    rintro rfl
    exact hNot (List.mem_map_of_mem hMem)
  rw [isStray, hOpening, hOperator, hDelimiter]
  rfl

/-- A character that begins no lexeme is read as such. -/
theorem front_of_isStray {config : Config} {c : Char}
    (h : isStray config.unicodeWords c = true) (cs : List Char) :
    front config (c :: cs) = unknown config.unknownChars c := by
  have hClass : opening config.unicodeWords c = .symbol := by
    simp only [isStray, Bool.and_eq_true, beq_iff_eq] at h
    exact h.1.1
  have hNone : symbol? (c :: cs) = none := by
    cases hSymbol : symbol? (c :: cs) with
    | none => rfl
    | some lexeme =>
      have hFront := symbol?_isPrefix hSymbol
      obtain ⟨d, rest, hText⟩ := List.exists_cons_of_ne_nil (symbol?_written_ne_nil hSymbol)
      rw [hText, List.cons_prefix_cons] at hFront
      rw [hFront.1] at hText
      exact absurd hText ((symbol?_valid config.unicodeWords hSymbol).written_ne_cons h rest)
  rw [front_cons, hClass]
  simp only [hNone]

/-- A foreign character is no white space, and begins no comment. -/
theorem startsLexeme_of_isForeign {c : Char} (h : isForeign c = true) (cs : List Char) :
    Trivia.StartsLexeme (c :: cs) := by
  obtain ⟨hUnicode, -⟩ := isForeign_iff.1 h
  have hSlash : c ≠ '/' := by
    rintro rfl
    revert hUnicode
    decide +kernel
  have hBlank : Text.isBlank c = false := by
    by_contra hBlank
    rw [Bool.not_eq_false] at hBlank
    rw [isWordPart_of_isBlank hBlank] at hUnicode
    cases hUnicode
  refine ⟨StopsBefore.cons hBlank cs, ?_, ?_⟩
  · intro hLine
    exact hSlash (List.cons_prefix_cons.1 hLine).1.symm
  · intro hBlock
    exact hSlash (List.cons_prefix_cons.1 hBlock).1.symm

/-- A word is the same under both alphabets if no foreign character follows it. -/
theorem word_unicode {cs : List Char}
    (h : StopsBefore isForeign (cs.dropWhile (isWordPart false))) : word true cs = word false cs := by
  have hStop := h.wordPart_true (stopsBefore_dropWhile _ cs)
  have hAll : ∀ c ∈ cs.takeWhile (isWordPart false), isWordPart true c = true := by
    intro c hMem
    exact isWordPart_true_of_false (List.mem_takeWhile_imp hMem)
  have hRun := takeWhile_append_of_stop hAll hStop
  rw [List.takeWhile_append_dropWhile] at hRun
  unfold word
  rw [hRun]

/-- The front of a text reads the same if no foreign character stands there or follows. -/
theorem front_unicode {config : Config} {cs : List Char} (hFront : StopsBefore isForeign cs)
    (hBehind : ∀ lexeme ahead, cs = lexeme.written ++ ahead →
      front { config with unicodeWords := false } cs = .ok lexeme → StopsBefore isForeign ahead) :
    front { config with unicodeWords := true } cs =
      front { config with unicodeWords := false } cs := by
  cases cs with
  | nil => rfl
  | cons c cs =>
    rw [front_cons] at hBehind
    rw [front_cons, front_cons]
    simp only at hBehind ⊢
    rw [opening_unicode (hFront c rfl)]
    cases hClass : opening false c with
    | word =>
      rw [hClass] at hBehind
      have hStop := hBehind _ _ (List.takeWhile_append_dropWhile (p := isWordPart false)).symm rfl
      exact congrArg Except.ok (word_unicode hStop)
    | number => rfl
    | string => rfl
    | char => rfl
    | symbol => rfl

end Lexeme

-- ---------------------------------------------------------------------------
-- Readings
-- ---------------------------------------------------------------------------

/-- The fault is not one of a character that begins no token. -/
def Fault.IsExpected (fault : Fault) : Prop := ∀ c, fault.cause ≠ .unexpectedChar c

namespace Lexer

/-- What is read at the front of a text, if this is no unknown character, is no foreign one. -/
theorem read_foreign {config : Config} {gap ahead : List Char} {c : Char}
    (hGap : Trivia.IsGap config.nesting (c :: ahead) gap) (hForeign : isForeign c = true) :
    (∃ lexeme, read { config with unicodeWords := false } (gap ++ c :: ahead) = .ok (gap, lexeme) ∧
        lexeme.kind = .unknown) ∨
      ∃ fault, read { config with unicodeWords := false } (gap ++ c :: ahead) = .error fault ∧
        ¬ fault.IsExpected := by
  have hRead := @read_behind_gap { config with unicodeWords := false } _ _ hGap
    (Lexeme.startsLexeme_of_isForeign hForeign ahead)
  rw [Lexeme.front_of_isStray (Lexeme.isStray_of_isForeign hForeign)] at hRead
  cases hPolicy : config.unknownChars with
  | passThrough =>
    simp only [hPolicy, Lexeme.unknown] at hRead
    exact Or.inl ⟨_, hRead, rfl⟩
  | fatal =>
    simp only [hPolicy, Lexeme.unknown] at hRead
    exact Or.inr ⟨_, hRead, fun hExpected => hExpected c rfl⟩

section Clean

variable {config : Config} {cs : List Char} {pieces : List Piece} {ending : Option Fault}

/-- No gap in a text without unknown characters is followed by a foreign character. -/
theorem Reads.not_foreign (h : Reads { config with unicodeWords := false } cs pieces ending)
    (hKnown : AllKnown pieces) (hExpected : ∀ fault ∈ ending, fault.IsExpected)
    {gap ahead : List Char} (hGap : Trivia.IsGap config.nesting ahead gap)
    (hSplit : cs = gap ++ ahead) : StopsBefore isForeign ahead := by
  intro c hHead
  by_contra hForeign
  rw [Bool.not_eq_false] at hForeign
  obtain ⟨rest, rfl⟩ := List.head?_eq_some_iff.1 hHead
  have hRead := read_foreign hGap hForeign
  rw [← hSplit] at hRead
  rcases hRead with ⟨lexeme, hRead, hKind⟩ | ⟨fault, hRead, hFault⟩
  · obtain ⟨piece, hMem, rfl⟩ := h.exists_mem_of_read_ok hRead
    exact hKnown piece hMem hKind
  · exact hFault (hExpected fault (h.mem_ending_of_read_error hRead))

/-- Nor is any lexeme in it. -/
theorem Reads.not_foreign_behind
    (h : Reads { config with unicodeWords := false } cs pieces ending)
    (hKnown : AllKnown pieces) (hExpected : ∀ fault ∈ ending, fault.IsExpected)
    {gap ahead : List Char} {lexeme : Lexeme}
    (hRead : read { config with unicodeWords := false } cs = .ok (gap, lexeme))
    (hSplit : cs = gap ++ (lexeme.written ++ ahead)) : StopsBefore isForeign ahead := by
  cases h with
  | last hLast hEof =>
    rw [hRead] at hLast
    cases hLast
    obtain ⟨hText, -⟩ := read_eof hRead hEof
    obtain rfl : [] = ahead := by simpa using hText.symm.trans hSplit
    exact StopsBefore.nil _
  | fault hFault =>
    rw [hRead] at hFault
    cases hFault
  | @more piece ahead' pieces _ hFirst _ hLater =>
    rw [hRead] at hFirst
    cases hFirst
    have hText : piece.written ++ ahead' = piece.written ++ ahead := by
      rw [hSplit, Piece.written, List.append_assoc]
    obtain rfl := List.append_cancel_left hText
    -- behind the lexeme the text goes on without unknown characters
    exact hLater.not_foreign (fun later hMem => hKnown later (List.mem_cons_of_mem _ hMem))
      hExpected .nil rfl

/-- What is read first in such a text is read under both alphabets. -/
theorem Reads.read_unicode (h : Reads { config with unicodeWords := false } cs pieces ending)
    (hKnown : AllKnown pieces) (hExpected : ∀ fault ∈ ending, fault.IsExpected) :
    read { config with unicodeWords := true } cs =
      read { config with unicodeWords := false } cs := by
  cases hGap : Trivia.gap config.nesting cs with
  | error fault =>
    have hBoth : ∀ unicodeWords, read { config with unicodeWords } cs = .error fault := by
      intro unicodeWords
      unfold read
      rw [show Trivia.gap (Config.nesting { config with unicodeWords }) cs = .error fault from hGap]
    rw [hBoth true, hBoth false]
  | ok gap =>
    obtain ⟨ahead, rfl⟩ := Trivia.gap_isPrefix hGap
    obtain ⟨hIsGap, hStarts⟩ := Trivia.gap_eq_ok_iff.1 hGap
    have hAscii := @read_behind_gap { config with unicodeWords := false } _ _ hIsGap hStarts
    have hUnicode := @read_behind_gap { config with unicodeWords := true } _ _ hIsGap hStarts
    rw [hUnicode, Lexeme.front_unicode (h.not_foreign hKnown hExpected hIsGap rfl), hAscii]
    intro lexeme behind hSplit hLexeme
    rw [hLexeme] at hAscii
    exact h.not_foreign_behind hKnown hExpected hAscii (by rw [hSplit])

/-- A text without unknown characters splits the same under both alphabets. -/
theorem Reads.unicode (h : Reads { config with unicodeWords := false } cs pieces ending)
    (hKnown : AllKnown pieces) (hExpected : ∀ fault ∈ ending, fault.IsExpected) :
    Reads { config with unicodeWords := true } cs pieces ending := by
  refine h.congr (P := fun lexeme => lexeme.kind ≠ .unknown) (Q := Fault.IsExpected) ?_ hKnown
    hExpected
  intro cs pieces ending hReads hKnown hExpected
  exact hReads.read_unicode hKnown hExpected

end Clean

theorem error_mem_faulty {ending : Option Fault} {fault : Fault} (h : fault ∈ ending)
    (start : Position) (before : List Char) :
    .error (fault.errorAt (start.afterAll before)) ∈ faulty start before ending :=
  List.mem_map.2 ⟨fault, Option.mem_toList.2 h, rfl⟩

end Lexer

/--
A text whose stream holds no unknown character, neither as a token nor as the
error at its end, has the same items with Unicode words as without.
-/
theorem items_unicodeWords {config : Config} {source : String} (hAscii : config.unicodeWords = false)
    (hTokens : ∀ token, .ok token ∈ (Lexer.ofText config source).items.1 → token.kind ≠ .unknown)
    (hErrors : ∀ error, .error error ∈ (Lexer.ofText config source).items.1 →
      ∀ c, error.cause ≠ .unexpectedChar c) :
    (Lexer.ofText { config with unicodeWords := true } source).items.1 =
      (Lexer.ofText config source).items.1 := by
  have hConfig : { config with unicodeWords := false } = config := by
    rw [← hAscii]
  obtain ⟨pieces, ending, hReads⟩ := Lexer.exists_reads config (config.body source.toList)
  rw [Lexer.items_ofText hReads] at hTokens hErrors
  have hKnown : Lexer.AllKnown pieces := by
    rw [← Lexer.kind_placed_ne_unknown_iff]
    intro token hMem
    exact hTokens token (List.mem_append_left _ (List.mem_map_of_mem hMem))
  have hExpected : ∀ fault ∈ ending, fault.IsExpected := by
    intro fault hFault
    exact hErrors _ (List.mem_append_right _ (Lexer.error_mem_faulty hFault _ _))
  rw [← hConfig] at hReads
  have hUnicode := hReads.unicode hKnown hExpected
  rw [hConfig] at hReads
  exact Lexer.items_congr rfl hReads hUnicode

/-- Letters of other scripts in comments and literals, and a fault behind them. -/
theorem items_unicodeWords_literals :
    let source := "x1/* é */ \"ñandú\"'ß' if // ü\n0b2"
    let items := (Lexer.ofText {} source).items.1
    items = [.ok ⟨.identifier, "x1", ⟨0, 2, 1, 1⟩⟩, .ok ⟨.string, "ñandú", ⟨11, 20, 1, 11⟩⟩,
      .ok ⟨.char, "ß", ⟨20, 24, 1, 18⟩⟩, .ok ⟨.keyword .ifWord, "if", ⟨25, 27, 1, 22⟩⟩,
      .error ⟨.noDigits "0b", 2, 1⟩] ∧
    (Lexer.ofText { unicodeWords := true } source).items.1 = items := by
  intro source items
  have hItems : items = [.ok ⟨.identifier, "x1", ⟨0, 2, 1, 1⟩⟩, .ok ⟨.string, "ñandú", ⟨11, 20, 1, 11⟩⟩,
      .ok ⟨.char, "ß", ⟨20, 24, 1, 18⟩⟩, .ok ⟨.keyword .ifWord, "if", ⟨25, 27, 1, 22⟩⟩,
      .error ⟨.noDigits "0b", 2, 1⟩] := by
    decide +kernel
  refine ⟨hItems, @items_unicodeWords {} source rfl ?_ ?_⟩
  · intro token hMem
    have hMem' : .ok token ∈ items := hMem
    rw [hItems] at hMem'
    simp only [List.mem_cons, Except.ok.injEq, reduceCtorEq, List.not_mem_nil, or_false] at hMem'
    rcases hMem' with rfl | rfl | rfl | rfl <;> exact fun hKind => nomatch hKind
  · intro error hMem c
    have hMem' : .error error ∈ items := hMem
    rw [hItems] at hMem'
    simp only [List.mem_cons, Except.error.injEq, reduceCtorEq, List.not_mem_nil, or_false,
      false_or] at hMem'
    rw [hMem']
    exact fun hCause => nomatch hCause

end HdlLex
