import HdlLex.Proofs.Failure
import HdlLex.Proofs.Reports

/-!
# Literals — decoding is the inverse of encoding

A value can be written between two quotes in many ways, since most characters
may stand for themselves or be written with a backslash. Whichever way is
chosen, reading gives the value back and stops directly behind the closing
quote; and whatever is read as a literal was a way to write its value.

* `Lexeme.IsQuoted` — the values of the literals of each kind.
* `Cursor.IsBehind` — a cursor that has passed over characters of its text.
* `Token.IsLiteral` — a token that covers an encoding of its text.
* `Lexer.Yields` — the tokens that a run of calls yields.

Main results:

* `Lexeme.exists_encodes` — every value can be written between quotes.
* `Lexer.nextToken_of_encodes` — an encoding is decoded, wherever it stands.
* `Lexer.Stands.isLiteral` — a literal is an encoding of its text.
* `literals_decode` — both in every run of calls.
-/

namespace HdlLex

-- ---------------------------------------------------------------------------
-- Values and their encodings
-- ---------------------------------------------------------------------------

namespace Lexeme

/-- The values that literals of a kind have, and the quote between which they are written. -/
inductive IsQuoted : (quote : Char) → (kind : TokenKind) → (meaning : List Char) → Prop
  | string (meaning : List Char) : IsQuoted '"' .string meaning
  | char (c : Char) : IsQuoted '\'' .char [c]

/-- Every value can be written between quotes: what cannot stand for itself has an escape. -/
theorem exists_encodes {quote : Char} (hQuote : quote ∈ ['"', '\'']) (meaning : List Char) :
    ∃ written, Encodes quote meaning written := by
  induction meaning with
  | nil => exact ⟨[], .nil⟩
  | cons c meaning ih =>
    obtain ⟨written, hEncodes⟩ := ih
    by_cases hEscape : ∃ e, (e, c) ∈ escapes
    · obtain ⟨e, hMem⟩ := hEscape
      exact ⟨'\\' :: e :: written, .escape hMem hEncodes⟩
    · have hNone : ∀ e, (e, c) ∉ escapes := fun e hMem => hEscape ⟨e, hMem⟩
      have hNotQuote : c ≠ quote := by
        rintro rfl
        simp only [List.mem_cons, List.not_mem_nil, or_false] at hQuote
        rcases hQuote with rfl | rfl
        · exact hNone '"' (by decide)
        · exact hNone '\'' (by decide)
      have hNotLine : c ≠ '\n' := by
        rintro rfl
        exact hNone 'n' (by decide)
      have hNotBackslash : c ≠ '\\' := by
        rintro rfl
        exact hNone '\\' (by decide)
      exact ⟨c :: written, .raw hNotQuote hNotLine hNotBackslash hEncodes⟩

/-- An encoding between its quotes is read whole, whatever follows. -/
theorem front_of_encodes (config : Config) {quote : Char} {kind : TokenKind}
    {meaning written : List Char} (hQuoted : IsQuoted quote kind meaning)
    (hEncodes : Encodes quote meaning written) (ahead : List Char) :
    front config (quote :: (written ++ quote :: ahead)) =
      .ok ⟨kind, quote :: (written ++ [quote]), meaning⟩ := by
  cases hQuoted with
  | string => rw [front_string, string_append hEncodes]
  | char => rw [front_char, char_append hEncodes]

/-- The literals of the language are encodings between their quotes. -/
theorem Valid.exists_encodes {unicode : Bool} {lexeme : Lexeme} (h : Valid unicode lexeme)
    (hKind : lexeme.kind = .string ∨ lexeme.kind = .char) :
    ∃ quote written, IsQuoted quote lexeme.kind lexeme.meaning ∧
      Encodes quote lexeme.meaning written ∧ lexeme.written = quote :: (written ++ [quote]) := by
  cases h with
  | string hEncodes => exact ⟨'"', _, .string _, hEncodes, rfl⟩
  | char hEncodes => exact ⟨'\'', _, .char _, hEncodes, rfl⟩
  | word _ hWord =>
    rcases hKind with rfl | rfl
    · exact hWord.elim
    · exact hWord.elim
  | number hNumber =>
    rcases hKind with rfl | rfl
    · cases hNumber
    · cases hNumber
  | operator => simp [plain] at hKind
  | delimiter => simp [plain] at hKind

/-- A quote stands for itself in front of a lexeme: it is no trivia. -/
theorem startsLexeme_quote {quote : Char} (hQuote : quote ∈ ['"', '\'']) (cs : List Char) :
    Trivia.StartsLexeme (quote :: cs) := by
  have hNotBlank : (['"', '\''].all fun c => !Text.isBlank c) = true := by decide +kernel
  have hNotSlash : quote ≠ '/' := by
    rintro rfl
    exact absurd hQuote (by decide)
  refine ⟨StopsBefore.cons ?_ cs, ?_, ?_⟩
  · simpa using List.all_eq_true.1 hNotBlank quote hQuote
  · simp [List.cons_prefix_cons, hNotSlash.symm]
  · simp [List.cons_prefix_cons, hNotSlash.symm]

end Lexeme

-- ---------------------------------------------------------------------------
-- Encodings are decoded
-- ---------------------------------------------------------------------------

/-- A cursor that has passed over these characters of its text, whatever it counted as lines. -/
structure Cursor.IsBehind (cursor : Cursor) (passed : List Char) : Prop where
  source_eq : cursor.source = passed ++ cursor.rest
  offset_eq : cursor.position.offset = Text.byteLength passed

/-- A token of `source` that covers `written` between two quotes, an encoding of its text. -/
structure Token.IsLiteral (token : Token) (source : String) (quote : Char)
    (written : List Char) : Prop where
  isQuoted : Lexeme.IsQuoted quote token.kind token.text.toList
  encodes : Lexeme.Encodes quote token.text.toList written
  lexeme_eq : (token.lexeme source).toList = quote :: (written ++ [quote])

namespace Lexer

/-- Wherever a cursor stands in its text, an encoding ahead is decoded and passed over. -/
theorem nextToken_of_encodes {lexer : Lexer} {passed : List Char}
    (h : lexer.cursor.IsBehind passed) {quote : Char} {kind : TokenKind}
    {meaning written ahead : List Char} (hQuoted : Lexeme.IsQuoted quote kind meaning)
    (hEncodes : Lexeme.Encodes quote meaning written)
    (hRest : lexer.cursor.rest = quote :: (written ++ quote :: ahead)) :
    ∃ token, lexer.nextToken.1 = .ok token ∧ token.kind = kind ∧ token.text.toList = meaning ∧
      token.IsLiteral (String.ofList lexer.cursor.source) quote written ∧
      lexer.nextToken.2.cursor = lexer.cursor.behind (quote :: (written ++ [quote])) ahead := by
  have hMem : quote ∈ ['"', '\''] := by
    cases hQuoted with
    | string => exact List.mem_cons_self
    | char => exact List.mem_cons_of_mem _ List.mem_cons_self
  set lexeme : Lexeme := ⟨kind, quote :: (written ++ [quote]), meaning⟩
  have hSplit : lexer.cursor.rest = [] ++ (lexeme.written ++ ahead) := by
    rw [hRest]
    simp [lexeme]
  have hGap : Trivia.gap lexer.config.nesting ([] ++ quote :: (written ++ quote :: ahead)) =
      .ok [] :=
    Trivia.gap_of_startsLexeme (Lexeme.startsLexeme_quote hMem (written ++ quote :: ahead))
  have hRead : read lexer.config lexer.cursor.rest = .ok ([], lexeme) := by
    rw [hRest]
    exact read_of_gap_front hGap (Lexeme.front_of_encodes _ hQuoted hEncodes ahead)
  have hCall := nextToken_of_read_ok hRead hSplit
  set token := lexeme.toToken (lexer.cursor.position.afterAll [])
    (lexer.cursor.position.afterAll ([] ++ lexeme.written))
  have hText : token.text.toList = meaning := String.toList_ofList
  have hCovers : token.Covers (String.ofList lexer.cursor.source) passed lexeme.written ahead := by
    refine ⟨?_, h.offset_eq, ?_⟩
    · rw [String.toList_ofList, h.source_eq, hSplit]
      rfl
    · rw [Text.byteLength_append, ← h.offset_eq]
      exact Position.offset_afterAll _ _
  refine ⟨token, ?_, rfl, hText, ⟨?_, ?_, hCovers.lexeme⟩, ?_⟩
  · rw [hCall]
  · rw [hText]
    exact hQuoted
  · rw [hText]
    exact hEncodes
  · rw [hCall]
    rfl

-- ---------------------------------------------------------------------------
-- Literals are encodings
-- ---------------------------------------------------------------------------

section Runs

variable {config : Config} {source : String} {passed : List Char} {lexer : Lexer} {token : Token}

theorem Stands.isBehind (h : lexer.Stands config source passed) :
    lexer.cursor.IsBehind (config.passedMark source.toList ++ passed) where
  source_eq := by
    rw [h.text_eq, List.append_assoc]
    exact h.source_eq
  offset_eq := h.offset_eq

/-- What is read as a literal is an encoding of its text. -/
theorem Stands.isLiteral (h : lexer.Stands config source passed)
    (hToken : lexer.nextToken.1 = .ok token) (hKind : token.kind = .string ∨ token.kind = .char) :
    ∃ quote written, token.IsLiteral source quote written := by
  obtain ⟨gap, lexeme, ahead, hRead, hRest, rfl, -⟩ := h.token hToken
  rw [hRest] at hRead
  obtain ⟨-, hFront⟩ := gap_front_of_read hRead
  have hValid : Lexeme.Valid config.unicodeWords lexeme := by
    cases hText : lexeme.written ++ ahead with
    | nil =>
      have hEof := (Lexeme.front_kind_eof_iff hFront).2 hText
      rcases hKind with hString | hChar
      · cases hString.symm.trans hEof
      · cases hChar.symm.trans hEof
    | cons c cs =>
      rw [hText] at hFront
      rcases Lexeme.front_valid hFront with hValid | ⟨rfl, -, -⟩
      · exact hValid
      · rcases hKind with hString | hChar
        · cases hString
        · cases hChar
  obtain ⟨quote, written, hQuoted, hEncodes, hWritten⟩ := hValid.exists_encodes hKind
  set token := tokenBehind (config.startPosition source.toList) (passed ++ gap) lexeme
  have hText : token.text.toList = lexeme.meaning := String.toList_ofList
  refine ⟨quote, written, ⟨?_, ?_, ?_⟩⟩
  · rw [hText]
    exact hQuoted
  · rw [hText]
    exact hEncodes
  · rw [(h.covers hRest).lexeme, hWritten]

end Runs

/-- The tokens that a run of calls yields, with those that are read to the end behind it. -/
def Yields (start : Lexer) (calls : List Call) (token : Token) : Prop :=
  .ok token ∈ answers (start.drive calls).1 ∨
    ∃ tokens, (start.drive calls).2.tokenize.1 = .ok tokens ∧ token ∈ tokens

/-- After any run of calls the invariant holds. -/
theorem exists_stands_drive (config : Config) (source : String) (calls : List Call) :
    ∃ passed, ((ofText config source).drive calls).2.Stands config source passed := by
  have hStart : (ofText config source).finished = false := rfl
  obtain ⟨passed, hStands⟩ := exists_stands_calls config source
    (scanned ((ofText config source).drive calls).1)
  rw [drive_eq hStart]
  exact ⟨passed, hStands.finish _⟩

/-- Every token that a run yields is the result of a call for which the invariant holds. -/
theorem Yields.exists_stands {config : Config} {source : String} {calls : List Call}
    {token : Token} (h : (ofText config source).Yields calls token) :
    ∃ passed lexer, Stands config source passed lexer ∧ lexer.nextToken.1 = .ok token := by
  rcases h with hAnswer | ⟨tokens, hTokens, hMem⟩
  · rw [answers_drive rfl] at hAnswer
    obtain ⟨n, -, hResult⟩ := List.mem_map.1 hAnswer
    obtain ⟨passed, hStands⟩ := exists_stands_calls config source n
    exact ⟨passed, _, hStands, hResult⟩
  · obtain ⟨passed, hStands⟩ := exists_stands_drive config source calls
    generalize ((ofText config source).drive calls).2 = lexer at hTokens hStands
    cases hFinished : lexer.finished with
    | true =>
      -- nothing is left behind the end of the stream
      rw [tokenize_eq, items_of_finished hFinished] at hTokens
      cases hTokens
      cases hMem
    | false =>
      obtain ⟨k, hGathers⟩ := exists_gathers hFinished
      cases hLast : lexer.result k with
      | error error =>
        rw [hGathers.error error hLast] at hTokens
        cases hTokens
      | ok last =>
        obtain ⟨tokens', hTokens', hResults⟩ := hGathers.ok last hLast
        obtain rfl : tokens = tokens' := Except.ok.inj (hTokens.symm.trans hTokens')
        have hIn : .ok token ∈ (List.range (k + 1)).map lexer.result := by
          rw [← hResults]
          exact List.mem_map_of_mem hMem
        obtain ⟨n, -, hResult⟩ := List.mem_map.1 hIn
        obtain ⟨more, hLater⟩ := hStands.calls n
        exact ⟨_, _, hLater, hResult⟩

end Lexer

/--
After every run of calls: if an encoding of a value lies ahead between its
quotes, whatever follows it, then the next call yields a literal with this value
that covers the encoding and its quotes, and leaves the cursor directly behind
them. Every literal that the run yields covers an encoding of its text. And
every value can be written as a string literal, which is read back.
-/
theorem literals_decode (config : Config) (source : String) (calls : List Lexer.Call) :
    let start := Lexer.ofText config source
    let lexer := (start.drive calls).2
    (∀ quote kind meaning written ahead, Lexeme.IsQuoted quote kind meaning →
      Lexeme.Encodes quote meaning written →
      lexer.cursor.rest = quote :: (written ++ quote :: ahead) →
      ∃ token, lexer.nextToken.1 = .ok token ∧ token.kind = kind ∧ token.text.toList = meaning ∧
        token.IsLiteral source quote written ∧
        lexer.nextToken.2.cursor = lexer.cursor.behind (quote :: (written ++ [quote])) ahead) ∧
    (∀ token, start.Yields calls token → token.kind = .string ∨ token.kind = .char →
      ∃ quote written, token.IsLiteral source quote written) ∧
    ∀ value : String, ∃ written token, Lexeme.Encodes '"' value.toList written ∧
      (Lexer.ofText config (String.ofList ('"' :: (written ++ ['"'])))).nextToken.1 = .ok token ∧
      token.kind = .string ∧ token.text = value := by
  intro start lexer
  refine ⟨?_, ?_, ?_⟩
  · intro quote kind meaning written ahead hQuoted hEncodes hRest
    obtain ⟨passed, hStands⟩ := Lexer.exists_stands_drive config source calls
    have hRead := Lexer.nextToken_of_encodes hStands.isBehind hQuoted hEncodes hRest
    rwa [hStands.text_eq, String.ofList_toList] at hRead
  · intro token hYields hKind
    obtain ⟨passed, lexer, hStands, hToken⟩ := hYields.exists_stands
    exact hStands.isLiteral hToken hKind
  · intro value
    obtain ⟨written, hEncodes⟩ := Lexeme.exists_encodes (by decide : '"' ∈ ['"', '\'']) value.toList
    set literal := String.ofList ('"' :: (written ++ ['"'])) with hLiteral
    have hText : literal.toList = '"' :: (written ++ ['"']) := String.toList_ofList
    have hMark : config.passedMark literal.toList = [] := by
      have hQuote : some '"' ≠ some byteOrderMark := by decide
      rw [hText, config.passedMark_eq_nil_iff]
      exact Or.inr hQuote
    have hRest : (Lexer.ofText config literal).cursor.rest = '"' :: (written ++ '"' :: []) := by
      rw [Lexer.rest_ofText, config.body_eq_of_passedMark hMark, hText]
    obtain ⟨token, hToken, hKind, hMeaning, -, -⟩ := Lexer.nextToken_of_encodes
      (Lexer.stands_ofText config literal).isBehind (.string value.toList) hEncodes hRest
    exact ⟨written, token, hEncodes, hToken, hKind, String.toList_inj.1 hMeaning⟩

/-- Behind a faulty literal, the other quote with a backslash, and a backslash before the end. -/
theorem literal_behind_fault :
    let source := "'ab'\"é\\'\\\\\"'"
    let lexer := ((Lexer.ofText {} source).drive [.token]).2
    lexer.cursor.rest = ['"', 'é', '\\', '\'', '\\', '\\', '"', '\''] ∧
      ∃ token, lexer.nextToken.1 = .ok token ∧ token.text.toList = ['é', '\'', '\\'] ∧
        token.IsLiteral source '"' ['é', '\\', '\'', '\\', '\\'] ∧
        lexer.nextToken.2.cursor.rest = ['\''] := by
  intro source lexer
  have hRest : lexer.cursor.rest = ['"', 'é', '\\', '\'', '\\', '\\', '"', '\''] := by
    decide +kernel
  have hEncodes : Lexeme.Encodes '"' ['é', '\'', '\\'] ['é', '\\', '\'', '\\', '\\'] :=
    .raw (by decide) (by decide) (by decide) (.escape (by decide) (.escape (by decide) .nil))
  obtain ⟨token, hToken, -, hText, hLiteral, hCursor⟩ :=
    (literals_decode {} source [.token]).1 _ _ _ _ ['\''] (.string _) hEncodes hRest
  refine ⟨hRest, token, hToken, hText, hLiteral, ?_⟩
  rw [hCursor]
  rfl

end HdlLex
