import HdlLex.Proofs.GapGrammar
import HdlLex.Proofs.Stream

/-!
# Spaced lexemes — written out and read back

Lexemes that are written with separators between them are read back as they
were, whatever the separators. A separator begins with white space, which ends
every lexeme, and further white space and complete comments may follow.

* `Lexeme.Spaced` — lexemes with separators between them.
* `Lexeme.IsMargin` — what may stand before the first lexeme and behind the
  last one.

Main results:

* `Lexeme.Valid.startsLexeme` — no gap goes on into a lexeme.
* `Lexer.reads_of_spaced` — the pieces of spaced lexemes.
* `tokenize_spaced` — the tokens of spaced lexemes.
-/

namespace HdlLex

namespace Lexeme

-- ---------------------------------------------------------------------------
-- How a lexeme begins
-- ---------------------------------------------------------------------------

/-- Whether a character leads to the class of symbols, but begins none of them. -/
def isStray (unicode : Bool) (c : Char) : Bool :=
  opening unicode c == .symbol && !isOperatorStart c &&
    Delimiter.all.all fun delimiter => delimiter.symbol != c

/-- No lexeme begins with a stray character. -/
theorem Valid.written_ne_cons {unicode : Bool} {lexeme : Lexeme} {c : Char}
    (h : Valid unicode lexeme) (hStray : isStray unicode c = true) (rest : List Char) :
    lexeme.written ≠ c :: rest := by
  intro hText
  simp only [isStray, Bool.and_eq_true, beq_iff_eq, Bool.not_eq_true', List.all_eq_true,
    bne_iff_ne] at hStray
  obtain ⟨⟨hOpening, hOperator⟩, hDelimiter⟩ := hStray
  obtain ⟨d, rest', hText', hClass⟩ := h.ofOpening
  obtain ⟨rfl, -⟩ := List.cons.inj (hText.symm.trans hText')
  rw [hOpening] at hClass
  rcases hClass with ⟨operator, rfl⟩ | ⟨delimiter, rfl⟩
  · have hSpelling : operator.spelling = c :: rest := hText
    have hStart := isOperatorStart_of_mem_spelling operator c (by simp [hSpelling])
    rw [hOperator] at hStart
    cases hStart
  · have hSymbol : [delimiter.symbol] = c :: rest := hText
    exact hDelimiter delimiter (Delimiter.mem_all delimiter) (List.cons.inj hSymbol).1

theorem isStray_of_isBlank {c : Char} (h : Text.isBlank c = true) (unicode : Bool) :
    isStray unicode c = true := by
  have hAll : (blankCodes.all fun n => isStray unicode (Char.ofNat n)) = true := by
    revert unicode
    decide +kernel
  exact of_isBlank (isStray unicode) hAll h

theorem isStray_byteOrderMark (unicode : Bool) : isStray unicode byteOrderMark = true := by
  revert unicode
  decide +kernel

theorem spelling_ne_comment (operator : Operator) {d : Char} (h : d ∈ ['/', '*'])
    (rest : List Char) : operator.spelling ≠ '/' :: d :: rest := by
  intro hSpelling
  simp only [List.mem_cons, List.not_mem_nil, or_false] at h
  rcases h with rfl | rfl
  · cases operator <;> simp [Operator.spelling] at hSpelling
  · cases operator <;> simp [Operator.spelling] at hSpelling

/-- No lexeme begins like a comment, not even together with what follows it. -/
theorem Valid.not_comment {unicode : Bool} {lexeme : Lexeme} {ahead : List Char} {d : Char}
    (h : Valid unicode lexeme) (hApart : Apart unicode ahead) (hMark : d ∈ ['/', '*']) :
    ¬ ['/', d] <+: lexeme.written ++ ahead := by
  intro hFront
  obtain ⟨c, rest, hText, hClass⟩ := h.ofOpening
  rw [hText, List.cons_append, List.cons_prefix_cons] at hFront
  obtain ⟨rfl, hNext⟩ := hFront
  have hSlash : opening unicode '/' = .symbol := opening_of_isOperatorStart unicode (by decide)
  rw [hSlash] at hClass
  rcases hClass with ⟨operator, rfl⟩ | ⟨delimiter, rfl⟩
  · have hSpelling : operator.spelling = '/' :: rest := hText
    cases rest with
    | nil =>
      -- what follows would go on with the operator
      obtain ⟨cs, rfl⟩ := hNext
      have hGoesOn : ['/', '*'].all isOperatorStart = true := by decide
      have hStart := List.all_eq_true.1 hGoesOn d hMark
      rw [hApart.operator d rfl] at hStart
      cases hStart
    | cons e rest =>
      rw [List.cons_append, List.cons_prefix_cons] at hNext
      obtain ⟨rfl, -⟩ := hNext
      exact spelling_ne_comment operator hMark rest hSpelling
  · have hSymbol : [delimiter.symbol] = '/' :: rest := hText
    have hNot := isOperatorStart_symbol delimiter
    rw [(List.cons.inj hSymbol).1] at hNot
    cases hNot

/-- No gap goes on into a lexeme. -/
theorem Valid.startsLexeme {unicode : Bool} {lexeme : Lexeme} {ahead : List Char}
    (h : Valid unicode lexeme) (hApart : Apart unicode ahead) :
    Trivia.StartsLexeme (lexeme.written ++ ahead) where
  not_blank := by
    obtain ⟨c, rest, hText, -⟩ := h.ofOpening
    have hNotBlank : Text.isBlank c = false := by
      by_contra hBlank
      rw [Bool.not_eq_false] at hBlank
      exact h.written_ne_cons (isStray_of_isBlank hBlank unicode) rest hText
    rw [hText]
    exact StopsBefore.cons hNotBlank (rest ++ ahead)
  not_line := h.not_comment hApart (by simp)
  not_block := h.not_comment hApart (by simp)

-- ---------------------------------------------------------------------------
-- Lexemes with separators
-- ---------------------------------------------------------------------------

/-- Lexemes written one behind the other, with a separator between any two of them. -/
inductive Spaced (config : Config) : List Lexeme → List Char → Prop
  | nil : Spaced config [] []
  | single {lexeme : Lexeme} :
      Valid config.unicodeWords lexeme → Spaced config [lexeme] lexeme.written
  | cons {lexeme next : Lexeme} {separator : List Char} {lexemes : List Lexeme}
      {cs : List Char} :
      Valid config.unicodeWords lexeme → Trivia.IsSeparator config.nesting separator →
      Spaced config (next :: lexemes) cs →
      Spaced config (lexeme :: next :: lexemes) (lexeme.written ++ (separator ++ cs))

/-- A separator, or nothing. -/
def IsMargin (config : Config) (cs : List Char) : Prop :=
  cs = [] ∨ Trivia.IsSeparator config.nesting cs

theorem IsMargin.isFiller {config : Config} {cs : List Char} (h : IsMargin config cs) :
    Trivia.IsFiller config.nesting cs := by
  rcases h with rfl | hSeparator
  · exact .nil
  · exact hSeparator.isFiller

theorem apart_of_isSeparator {config : Config} {separator : List Char}
    (h : Trivia.IsSeparator config.nesting separator) (ahead : List Char) :
    Apart config.unicodeWords (separator ++ ahead) := by
  obtain ⟨c, filler, rfl, hBlank, -⟩ := h
  exact Apart.of_isBlank hBlank config.unicodeWords (filler ++ ahead)

theorem IsMargin.apart {config : Config} {cs : List Char} (h : IsMargin config cs) :
    Apart config.unicodeWords cs := by
  rcases h with rfl | hSeparator
  · exact Apart.nil config.unicodeWords
  · have hApart := apart_of_isSeparator hSeparator []
    rwa [List.append_nil] at hApart

theorem IsMargin.stopsBefore {config : Config} {margin cs : List Char}
    (h : IsMargin config margin) (hStop : StopsBefore (· == byteOrderMark) cs) :
    StopsBefore (· == byteOrderMark) (margin ++ cs) := by
  rcases h with rfl | ⟨c, filler, rfl, hBlank, -⟩
  · exact hStop
  · have hMark : Text.isBlank byteOrderMark = false := by decide +kernel
    refine StopsBefore.cons ?_ (filler ++ cs)
    rw [beq_eq_false_iff_ne]
    rintro rfl
    rw [hMark] at hBlank
    cases hBlank

theorem Valid.stopsBefore {unicode : Bool} {lexeme : Lexeme} (h : Valid unicode lexeme)
    (ahead : List Char) : StopsBefore (· == byteOrderMark) (lexeme.written ++ ahead) := by
  obtain ⟨c, rest, hText, -⟩ := h.ofOpening
  rw [hText]
  refine StopsBefore.cons ?_ (rest ++ ahead)
  rw [beq_eq_false_iff_ne]
  rintro rfl
  exact h.written_ne_cons (isStray_byteOrderMark unicode) rest hText

theorem Spaced.stopsBefore {config : Config} {lexemes : List Lexeme} {cs back : List Char}
    (h : Spaced config lexemes cs) (hBack : IsMargin config back) :
    StopsBefore (· == byteOrderMark) (cs ++ back) := by
  cases h with
  | nil =>
    have hStop := hBack.stopsBefore (StopsBefore.nil _)
    rwa [List.append_nil] at hStop
  | single hValid => exact hValid.stopsBefore back
  | @cons lexeme next separator lexemes cs hValid _ _ =>
    rw [List.append_assoc]
    exact hValid.stopsBefore _

end Lexeme

theorem Config.passedMark_eq_nil (config : Config) {cs : List Char}
    (h : StopsBefore (· == byteOrderMark) cs) : config.passedMark cs = [] := by
  refine (config.passedMark_eq_nil_iff cs).2 (Or.inr fun hHead => ?_)
  have hNot := h byteOrderMark hHead
  simp at hNot

-- ---------------------------------------------------------------------------
-- Reading them back
-- ---------------------------------------------------------------------------

namespace Lexer

open Lexeme

variable {config : Config}

/-- Behind a filler at the end of a text there is only the end. -/
theorem reads_of_filler {filler : List Char} (h : Trivia.IsFiller config.nesting filler) :
    Reads config filler [⟨filler, .plain .eof []⟩] none := by
  have hRead : read config (filler ++ []) = .ok (filler, .plain .eof []) :=
    read_of_gap_front (Trivia.gap_of_filler h Trivia.StartsLexeme.nil) rfl
  rw [List.append_nil] at hRead
  exact .last hRead rfl

/-- A lexeme behind a filler is read, and nothing of what follows. -/
theorem read_of_filler {filler ahead : List Char} {lexeme : Lexeme}
    (hFiller : Trivia.IsFiller config.nesting filler)
    (hValid : Valid config.unicodeWords lexeme) (hApart : Apart config.unicodeWords ahead) :
    read config (filler ++ (lexeme.written ++ ahead)) = .ok (filler, lexeme) := by
  have hStarts := hValid.startsLexeme hApart
  exact read_of_gap_front (Trivia.gap_of_filler hFiller hStarts) (front_append hValid hApart)

/-- The pieces of spaced lexemes. -/
theorem reads_of_spaced {lexemes : List Lexeme} {cs back : List Char}
    (h : Spaced config lexemes cs) (hBack : IsMargin config back) (front : List Char)
    (hFront : Trivia.IsFiller config.nesting front) :
    ∃ pieces, Reads config (front ++ (cs ++ back)) pieces none ∧
      pieces.map Piece.lexeme = lexemes ++ [.plain .eof []] := by
  induction h generalizing front with
  | nil =>
    exact ⟨_, reads_of_filler (hFront.append hBack.isFiller), rfl⟩
  | @single lexeme hValid =>
    have hRead := read_of_filler hFront hValid hBack.apart
    have hEnd := reads_of_filler hBack.isFiller
    exact ⟨_, hEnd.cons hRead hValid.kind_ne.2, rfl⟩
  | @cons lexeme next separator lexemes cs hValid hSeparator _ ih =>
    obtain ⟨pieces, hReads, hLexemes⟩ := ih separator hSeparator.isFiller
    have hRead := read_of_filler hFront hValid (apart_of_isSeparator hSeparator (cs ++ back))
    have hText : front ++ (lexeme.written ++ (separator ++ cs) ++ back) =
        front ++ (lexeme.written ++ (separator ++ (cs ++ back))) := by
      simp
    rw [hText]
    refine ⟨_, hReads.cons hRead hValid.kind_ne.2, ?_⟩
    rw [List.map_cons, hLexemes]
    rfl

end Lexer

/--
Spaced lexemes, perhaps with separators before and behind them, are read back:
the tokens are of the same kinds, are written the same and stand for the same,
and the end token follows them.
-/
theorem tokenize_spaced {config : Config} {lexemes : List Lexeme}
    {front middle back : List Char} (hFront : Lexeme.IsMargin config front)
    (hMiddle : Lexeme.Spaced config lexemes middle) (hBack : Lexeme.IsMargin config back) :
    let source := String.ofList (front ++ middle ++ back)
    ∃ tokens, tokenize config source = .ok tokens ∧
      tokens.map (Token.asLexeme source) = lexemes ++ [.plain .eof []] := by
  intro source
  have hText : source.toList = front ++ (middle ++ back) := by simp [source]
  have hMark : config.passedMark source.toList = [] := by
    rw [hText]
    exact config.passedMark_eq_nil (hFront.stopsBefore (hMiddle.stopsBefore hBack))
  obtain ⟨pieces, hReads, hLexemes⟩ := Lexer.reads_of_spaced hMiddle hBack front hFront.isFiller
  rw [← hText] at hReads
  have hBody : config.body source.toList = source.toList := by
    rw [Config.body, hMark]
    rfl
  have hSource : source.toList = config.passedMark source.toList ++ ([] ++ source.toList) := by
    rw [hMark]
    rfl
  have hTokens := Lexer.asLexeme_placed hReads [] hSource
  rw [← hBody] at hReads
  exact ⟨_, tokenize_of_reads hReads, hTokens.trans hLexemes⟩

/--
A name and a string with an escape, with a comment between them and a line
comment behind; and a name beyond ASCII in front of an operator.
-/
theorem tokens_of_spaced_lexemes :
    (let source := String.ofList ([] ++ (['x'] ++ ([' ', '/', '*', '*', '/'] ++
        ['"', '\\', 'n', '"'])) ++ ['\t', '/', '/', '\n'])
      ∃ tokens, tokenize {} source = .ok tokens ∧
        tokens.map (Token.asLexeme source) =
          [.plain .identifier ['x'], ⟨.string, ['"', '\\', 'n', '"'], ['\n']⟩] ++
            [.plain .eof []]) ∧
    let source := String.ofList ([] ++ (['é', '²', 'é'] ++ (['\u2003'] ++ ['<', '<'])) ++ [])
    ∃ tokens, tokenize { unicodeWords := true } source = .ok tokens ∧
      tokens.map (Token.asLexeme source) =
        [.plain .identifier ['é', '²', 'é'], .plain (.operator .shiftLeft) ['<', '<']] ++
          [.plain .eof []] := by
  refine ⟨?_, ?_⟩
  · have hNotKeyword : ∀ keyword : Keyword, ['x'] ≠ keyword.spelling := by
      intro keyword
      cases keyword <;> decide
    have hName : Lexeme.Valid false (.plain .identifier ['x']) :=
      .word ⟨'x', [], rfl, by decide, by simp⟩ ⟨hNotKeyword, by decide, by decide⟩
    have hString : Lexeme.Valid false ⟨.string, ['"', '\\', 'n', '"'], ['\n']⟩ :=
      .string (.escape (by decide) .nil)
    have hComment : Comment.IsBlock none ['/', '*', '*', '/'] := ⟨[], rfl, by decide⟩
    have hBetween : Trivia.IsSeparator none [' ', '/', '*', '*', '/'] :=
      ⟨' ', _, rfl, by decide +kernel, .block hComment .nil⟩
    have hBehind : Trivia.IsSeparator none ['\t', '/', '/', '\n'] :=
      ⟨'\t', _, rfl, by decide +kernel, @Trivia.IsFiller.line none [] [] (by simp) .nil⟩
    exact tokenize_spaced (.inl rfl) (.cons hName hBetween (.single hString)) (.inr hBehind)
  · have hNotKeyword : ∀ keyword : Keyword, ['é', '²', 'é'] ≠ keyword.spelling := by
      intro keyword
      cases keyword <;> decide
    have hWord : Lexeme.IsWord true ['é', '²', 'é'] :=
      ⟨'é', ['²', 'é'], rfl, by decide +kernel, List.all_eq_true.1 (by decide +kernel)⟩
    have hName : Lexeme.Valid true (.plain .identifier ['é', '²', 'é']) :=
      .word hWord ⟨hNotKeyword, by decide, by decide⟩
    have hSpace : Trivia.IsSeparator none ['\u2003'] := ⟨'\u2003', [], rfl, by decide +kernel, .nil⟩
    exact tokenize_spaced (.inl rfl) (.cons hName hSpace (.single (.operator .shiftLeft))) (.inl rfl)

end HdlLex
