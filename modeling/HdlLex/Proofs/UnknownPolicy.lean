import HdlLex.Proofs.Agreement

/-!
# Unknown policy — the strict stream is the lenient one, cut

A character that begins no token becomes a token of its own under the lenient
policy and an error under the strict one. Nothing else depends on the policy, so
two streams of one text are the same up to the first such character. There the
strict one ends with an error in the place of the token, whatever the lenient
one goes on to.

* `Lexer.AllKnown` — pieces without such a character.

Main results:

* `Lexeme.front_policy_cases` — the policy decides alone, or not at all.
* `Lexer.Reads.strict_of_known`, `Lexer.Reads.strict_of_unknown` — how a text
  splits under the strict policy.
* `strict_items_cut` — the two streams, and what is collected about them.
-/

namespace HdlLex

-- ---------------------------------------------------------------------------
-- The front of a text
-- ---------------------------------------------------------------------------

namespace Lexeme

/-- At a character that begins no token the policy decides alone, and elsewhere not at all. -/
theorem front_policy_cases (config : Config) (c : Char) (cs : List Char) :
    (∀ policy, front { config with unknownChars := policy } (c :: cs) =
        front { config with unknownChars := .fatal } (c :: cs)) ∨
      ∀ policy, front { config with unknownChars := policy } (c :: cs) = unknown policy c := by
  simp only [front_cons]
  cases opening config.unicodeWords c with
  | word => exact Or.inl fun _ => rfl
  | number => exact Or.inl fun _ => rfl
  | string => exact Or.inl fun _ => rfl
  | char => exact Or.inl fun _ => rfl
  | symbol =>
    cases symbol? (c :: cs) with
    | some lexeme => exact Or.inl fun _ => rfl
    | none => exact Or.inr fun _ => rfl

/-- Under the strict policy every lexeme is one of the language, or the end. -/
theorem kind_ne_unknown_of_fatal {config : Config} {cs : List Char} {lexeme : Lexeme}
    (h : front { config with unknownChars := .fatal } cs = .ok lexeme) :
    lexeme.kind ≠ .unknown := by
  cases cs with
  | nil =>
    cases h
    exact fun hKind => nomatch hKind
  | cons c cs =>
    rcases front_valid h with hValid | ⟨-, hPolicy, -⟩
    · exact hValid.kind_ne.1
    · cases hPolicy

/-- What is read under the lenient policy, but for unknown characters, is read under both. -/
theorem front_fatal_of_known {config : Config} {cs : List Char}
    (hKnown : ∀ lexeme, front { config with unknownChars := .passThrough } cs = .ok lexeme →
      lexeme.kind ≠ .unknown) :
    front { config with unknownChars := .fatal } cs =
      front { config with unknownChars := .passThrough } cs := by
  cases cs with
  | nil => rfl
  | cons c cs =>
    rcases front_policy_cases config c cs with hSame | hAlone
    · exact (hSame .passThrough).symm
    · exact absurd rfl (hKnown _ (hAlone .passThrough))

/-- An unknown character that is passed through is an error under the strict policy. -/
theorem front_fatal_of_unknown {config : Config} {cs : List Char} {lexeme : Lexeme}
    (h : front { config with unknownChars := .passThrough } cs = .ok lexeme)
    (hKind : lexeme.kind = .unknown) :
    ∃ c, lexeme = plain .unknown [c] ∧
      front { config with unknownChars := .fatal } cs = .error ⟨.unexpectedChar c, [], []⟩ := by
  cases cs with
  | nil =>
    cases h
    cases hKind
  | cons c cs =>
    rcases front_policy_cases config c cs with hSame | hAlone
    · rw [hSame .passThrough] at h
      exact absurd hKind (kind_ne_unknown_of_fatal h)
    · rw [hAlone .passThrough] at h
      cases h
      exact ⟨c, rfl, hAlone .fatal⟩

end Lexeme

namespace Lexer

-- ---------------------------------------------------------------------------
-- Readings
-- ---------------------------------------------------------------------------

theorem read_fatal_of_known {config : Config} {cs : List Char}
    (hKnown : ∀ gap lexeme, read { config with unknownChars := .passThrough } cs =
      .ok (gap, lexeme) → lexeme.kind ≠ .unknown) :
    read { config with unknownChars := .fatal } cs =
      read { config with unknownChars := .passThrough } cs := by
  unfold read at hKnown ⊢
  have hNesting : Config.nesting { config with unknownChars := .fatal } =
      Config.nesting { config with unknownChars := .passThrough } := rfl
  rw [hNesting]
  cases hGap : Trivia.gap (Config.nesting { config with unknownChars := .passThrough }) cs with
  | error fault => rfl
  | ok gap =>
    rw [hGap] at hKnown
    simp only at hKnown ⊢
    rw [Lexeme.front_fatal_of_known]
    intro lexeme hFront
    rw [hFront] at hKnown
    exact hKnown gap lexeme rfl

theorem read_fatal_of_unknown {config : Config} {cs gap : List Char} {lexeme : Lexeme}
    (h : read { config with unknownChars := .passThrough } cs = .ok (gap, lexeme))
    (hKind : lexeme.kind = .unknown) :
    ∃ c, lexeme = .plain .unknown [c] ∧
      read { config with unknownChars := .fatal } cs = .error ⟨.unexpectedChar c, gap, gap⟩ := by
  obtain ⟨ahead, rfl, hGap, hFront⟩ := read_eq_ok h
  obtain ⟨c, hLexeme, hFatal⟩ := Lexeme.front_fatal_of_unknown hFront hKind
  obtain ⟨hIsGap, hStarts⟩ := Trivia.gap_eq_ok_iff.1 hGap
  have hRead := @read_behind_gap { config with unknownChars := .fatal } _ _ hIsGap hStarts
  rw [hFatal] at hRead
  refine ⟨c, hLexeme, hRead.trans ?_⟩
  simp [Fault.behind]

-- ---------------------------------------------------------------------------
-- Pieces
-- ---------------------------------------------------------------------------

/-- None of the pieces is an unknown character. -/
def AllKnown (pieces : List Piece) : Prop := ∀ piece ∈ pieces, piece.lexeme.kind ≠ .unknown

theorem allKnown_or_exists (pieces : List Piece) :
    AllKnown pieces ∨ ∃ before piece after, pieces = before ++ piece :: after ∧
      AllKnown before ∧ piece.lexeme.kind = .unknown := by
  cases hFirst : pieces.find? (·.lexeme.kind == .unknown) with
  | none =>
    left
    intro piece hMem hKind
    exact List.find?_eq_none.1 hFirst piece hMem (beq_iff_eq.2 hKind)
  | some piece =>
    obtain ⟨hKind, before, after, hSplit, hBefore⟩ := List.find?_eq_some_iff_append.1 hFirst
    refine Or.inr ⟨before, piece, after, hSplit, ?_, beq_iff_eq.1 hKind⟩
    intro earlier hMem
    simpa using hBefore earlier hMem

/-- A text without unknown characters splits the same under both policies. -/
theorem Reads.strict_of_known {config : Config} {cs : List Char} {pieces : List Piece}
    {ending : Option Fault}
    (h : Reads { config with unknownChars := .passThrough } cs pieces ending)
    (hKnown : AllKnown pieces) :
    Reads { config with unknownChars := .fatal } cs pieces ending := by
  refine h.congr (P := fun lexeme => lexeme.kind ≠ .unknown) (Q := fun _ => True) ?_ hKnown
    fun _ _ => trivial
  intro cs pieces ending hReads hPieces _
  apply read_fatal_of_known
  intro gap lexeme hRead
  obtain ⟨piece, hMem, rfl⟩ := hReads.exists_mem_of_read_ok hRead
  exact hPieces piece hMem

/-- At the first unknown character reading stops under the strict policy. -/
theorem Reads.strict_of_unknown {config : Config} {cs : List Char} {pieces before after : List Piece}
    {piece : Piece} {ending : Option Fault}
    (h : Reads { config with unknownChars := .passThrough } cs pieces ending)
    (hPieces : pieces = before ++ piece :: after) (hBefore : AllKnown before)
    (hKind : piece.lexeme.kind = .unknown) :
    ∃ c, piece.lexeme = .plain .unknown [c] ∧
      Reads { config with unknownChars := .fatal } cs before
        (some ⟨.unexpectedChar c, piece.gap, piece.gap⟩) := by
  induction h generalizing before with
  | last _ hEof =>
    -- the last piece is the end of the text
    obtain ⟨-, hLast⟩ := List.append_eq_singleton_iff.1 hPieces.symm |>.resolve_right (by simp)
    obtain ⟨rfl, -⟩ := List.cons.inj hLast
    rw [hKind] at hEof
    cases hEof
  | fault => simp at hPieces
  | @more first ahead pieces ending hRead hMore _ ih =>
    cases before with
    | nil =>
      obtain ⟨rfl, -⟩ := List.cons.inj hPieces
      obtain ⟨c, hLexeme, hFatal⟩ := read_fatal_of_unknown hRead hKind
      exact ⟨c, hLexeme, .fault hFatal⟩
    | cons _ before =>
      obtain ⟨rfl, hLater⟩ := List.cons.inj hPieces
      have hKnown : ∀ gap lexeme, read { config with unknownChars := .passThrough }
          (first.written ++ ahead) = .ok (gap, lexeme) → lexeme.kind ≠ .unknown := by
        intro gap lexeme hSame
        rw [hRead] at hSame
        cases hSame
        exact hBefore first List.mem_cons_self
      obtain ⟨c, hLexeme, hReads⟩ :=
        ih hLater fun earlier hMem => hBefore earlier (List.mem_cons_of_mem _ hMem)
      exact ⟨c, hLexeme, .more ((read_fatal_of_known hKnown).trans hRead) hMore hReads⟩

-- ---------------------------------------------------------------------------
-- Items
-- ---------------------------------------------------------------------------

/-- The tokens of pieces are of the kinds of their lexemes. -/
theorem map_kind_placed (start : Position) (before : List Char) (pieces : List Piece) :
    (placed start before pieces).map Token.kind = pieces.map (·.lexeme.kind) := by
  induction pieces generalizing before with
  | nil => rfl
  | cons piece pieces ih =>
    rw [placed, List.map_cons, List.map_cons, ih]
    rfl

theorem kind_placed_ne_unknown_iff {start : Position} {before : List Char} {pieces : List Piece} :
    (∀ token ∈ placed start before pieces, token.kind ≠ .unknown) ↔ AllKnown pieces := by
  have hKinds := map_kind_placed start before pieces
  have hTokens : (∀ token ∈ placed start before pieces, token.kind ≠ .unknown) ↔
      ∀ kind ∈ (placed start before pieces).map Token.kind, kind ≠ .unknown := by
    simp
  rw [hTokens, hKinds, AllKnown]
  simp

/-- Nothing is reported about tokens that are no unknown characters. -/
theorem flatMap_issuedBy_ok {tokens : List Token} (h : ∀ token ∈ tokens, token.kind ≠ .unknown)
    (file : SourceFile) : (tokens.map .ok).flatMap (issuedBy file) = [] := by
  rw [List.flatMap_map, List.flatMap_eq_nil_iff]
  intro token hMem
  rw [issuedBy_of_kind_ne file (h token hMem)]

/-- The first unknown character of a stream is determined by the stream. -/
theorem first_unknown_unique {before before' after after' : List (Except LexError Token)}
    {token token' : Token} (hBefore : ∀ result ∈ before, isUnknown result = false)
    (hKind : token.kind = .unknown) (hBefore' : ∀ result ∈ before', isUnknown result = false)
    (hKind' : token'.kind = .unknown)
    (h : before ++ .ok token :: after = before' ++ .ok token' :: after') :
    before = before' ∧ token = token' := by
  have hTakes : ∀ {before after : List (Except LexError Token)} {token : Token},
      (∀ result ∈ before, isUnknown result = false) → token.kind = .unknown →
      (before ++ .ok token :: after).takeWhile (fun result => !isUnknown result) = before := by
    intro before after token hBefore hKind
    rw [List.takeWhile_append_of_pos, List.takeWhile_cons_of_neg, List.append_nil]
    · simp [isUnknown, hKind]
    · intro result hMem
      simp [hBefore result hMem]
  obtain rfl : before = before' := by
    rw [← hTakes hBefore hKind, h, hTakes hBefore' hKind']
  have hLater := List.append_cancel_left h
  cases hLater
  exact ⟨rfl, rfl⟩

/-- A token of the stream of a text whose pieces hold no unknown character is none either. -/
theorem isUnknown_placed {start : Position} {before : List Char} {pieces : List Piece}
    (h : AllKnown pieces) :
    ∀ result ∈ (placed start before pieces).map .ok, isUnknown result = false := by
  intro result hMem
  obtain ⟨token, hToken, rfl⟩ := List.mem_map.1 hMem
  exact beq_false_of_ne (kind_placed_ne_unknown_iff.2 h token hToken)

/-- Nor is the error behind them. -/
theorem isUnknown_items {config : Config} {source : String} {pieces : List Piece}
    {ending : Option Fault} (h : Reads config (config.body source.toList) pieces ending)
    (hKnown : AllKnown pieces) :
    ∀ result ∈ (ofText config source).items.1, isUnknown result = false := by
  intro result hMem
  rw [items_ofText h] at hMem
  rcases List.mem_append.1 hMem with hToken | hError
  · exact isUnknown_placed hKnown result hToken
  · obtain ⟨fault, -, rfl⟩ := List.mem_map.1 hError
    rfl

/-- The items up to the first unknown character, and what the strict policy makes of it. -/
theorem items_of_unknown {config : Config} {source : String} {before after : List Piece}
    {piece : Piece} {ending : Option Fault}
    (h : Reads { config with unknownChars := .passThrough } (config.body source.toList)
      (before ++ piece :: after) ending)
    (hBefore : AllKnown before) (hKind : piece.lexeme.kind = .unknown) :
    ∃ (c : Char) (known : List Token) (token : Token) (later : List (Except LexError Token)),
      (∀ earlier ∈ known, earlier.kind ≠ .unknown) ∧ token.kind = .unknown ∧
      token.text = String.ofList [c] ∧
      (ofText { config with unknownChars := .passThrough } source).items.1 =
        known.map .ok ++ .ok token :: later ∧
      (ofText { config with unknownChars := .fatal } source).items.1 =
        known.map .ok ++ [.error ⟨.unexpectedChar c, token.span.line, token.span.column⟩] := by
  obtain ⟨c, hLexeme, hStrict⟩ := h.strict_of_unknown rfl hBefore hKind
  have hLenientItems := items_ofText h
  have hStrictItems := items_ofText hStrict
  simp only [placed_append, placed, List.map_append, List.map_cons, List.append_assoc,
    List.cons_append, List.nil_append] at hLenientItems
  refine ⟨c, _, _, _, kind_placed_ne_unknown_iff.2 hBefore, hKind, ?_, hLenientItems, ?_⟩
  · show String.ofList piece.lexeme.meaning = String.ofList [c]
    rw [hLexeme]
    rfl
  · -- the place of the fault is that of the token
    rw [hStrictItems]
    simp [faulty, Fault.errorAt, tokenBehind, Lexeme.toToken, Config.startPosition,
      Config.passedMark, Position.afterAll_append]

end Lexer

/-- All tokens are read under the strict policy if they are under the lenient one, and known. -/
theorem tokenize_strict_ok_iff {config : Config} {source : String} {pieces : List Lexer.Piece}
    {ending : Option Fault} (h : Lexer.Reads { config with unknownChars := .passThrough }
      (config.body source.toList) pieces ending) :
    (∃ tokens, tokenize { config with unknownChars := .fatal } source = .ok tokens) ↔
      ∃ tokens, tokenize { config with unknownChars := .passThrough } source = .ok tokens ∧
        ∀ token ∈ tokens, token.kind ≠ .unknown := by
  rcases Lexer.allKnown_or_exists pieces with hKnown | ⟨before, piece, after, rfl, hBefore, hKind⟩
  · have hSame : tokenize { config with unknownChars := .fatal } source =
        tokenize { config with unknownChars := .passThrough } source :=
      tokenize_congr rfl h (h.strict_of_known hKnown)
    rw [hSame]
    constructor
    · rintro ⟨tokens, hTokens⟩
      obtain ⟨-, rfl⟩ := (tokenize_eq_ok_iff h).1 hTokens
      exact ⟨_, hTokens, Lexer.kind_placed_ne_unknown_iff.2 hKnown⟩
    · rintro ⟨tokens, hTokens, -⟩
      exact ⟨tokens, hTokens⟩
  · obtain ⟨c, -, hStrict⟩ := h.strict_of_unknown rfl hBefore hKind
    constructor
    · rintro ⟨tokens, hTokens⟩
      obtain ⟨hNone, -⟩ := (tokenize_eq_ok_iff hStrict).1 hTokens
      cases hNone
    · rintro ⟨tokens, hTokens, hKnown⟩
      obtain ⟨-, rfl⟩ := (tokenize_eq_ok_iff h).1 hTokens
      exact absurd hKind (Lexer.kind_placed_ne_unknown_iff.1 hKnown piece (by simp))

theorem Diagnostic.Collector.ext_toList {collector other : Collector}
    (h : collector.diagnostics.toList = other.diagnostics.toList) : collector = other := by
  cases collector
  cases other
  exact congrArg Collector.mk (Array.toList_inj.1 h)

/--
The items of a text under the strict policy are those under the lenient one up
to the first unknown character, and an error in its place ends them. So only
this error is collected, and all tokens are read where none of them is an
unknown character.
-/
theorem strict_items_cut (config : Config) (source : String) :
    let lenient := { config with unknownChars := .passThrough }
    let strict := { config with unknownChars := .fatal }
    let items := (Lexer.ofText lenient source).items
    let cut := (Lexer.ofText strict source).items
    ((∀ result ∈ items.1, isUnknown result = false) →
      cut.1 = items.1 ∧ cut.2.collector = items.2.collector) ∧
    (∀ before token after, items.1 = before ++ .ok token :: after →
      (∀ result ∈ before, isUnknown result = false) → token.kind = .unknown →
      ∃ c, token.text = String.ofList [c] ∧
        let error : LexError := ⟨.unexpectedChar c, token.span.line, token.span.column⟩
        cut.1 = before ++ [.error error] ∧
        cut.2.collector.diagnostics.toList =
          [error.toDiagnostic { name := Lexer.sourceName, content := source }] ∧
        cut.2.collector.errorCount = 1 ∧ cut.2.collector.warningCount = 0) ∧
    ((∃ tokens, tokenize strict source = .ok tokens) ↔
      ∃ tokens, tokenize lenient source = .ok tokens ∧
        ∀ token ∈ tokens, token.kind ≠ .unknown) := by
  intro lenient strict items cut
  obtain ⟨pieces, ending, hReads⟩ := Lexer.exists_reads lenient (config.body source.toList)
  have hTokens := tokenize_strict_ok_iff hReads
  rcases Lexer.allKnown_or_exists pieces with hKnown | ⟨before, piece, after, rfl, hBefore, hKind⟩
  · refine ⟨fun _ => ?_, ?_, hTokens⟩
    · have hSame : cut.1 = items.1 :=
        Lexer.items_congr rfl hReads (hReads.strict_of_known hKnown)
      refine ⟨hSame, Diagnostic.Collector.ext_toList ?_⟩
      rw [Lexer.diagnostics_items, Lexer.diagnostics_items, hSame]
      rfl
    · intro before token after hItems _ hKind
      have hMem : .ok token ∈ items.1 := hItems ▸ List.mem_append_right before List.mem_cons_self
      exact absurd hKind (ne_of_beq_false (Lexer.isUnknown_items hReads hKnown _ hMem))
  · obtain ⟨c, known, first, later, hKnown, hFirst, hText, hLenient, hStrict⟩ :=
      Lexer.items_of_unknown hReads hBefore hKind
    have hEarlier : ∀ result ∈ known.map .ok, isUnknown result = false := by
      intro result hMem
      obtain ⟨token, hToken, rfl⟩ := List.mem_map.1 hMem
      exact beq_false_of_ne (hKnown token hToken)
    refine ⟨fun hNone => ?_, ?_, hTokens⟩
    · have hMem : .ok first ∈ items.1 := hLenient ▸ List.mem_append_right _ List.mem_cons_self
      exact absurd hFirst (ne_of_beq_false (hNone _ hMem))
    · intro before token after hItems hBefore hKind
      obtain ⟨rfl, rfl⟩ :=
        Lexer.first_unknown_unique hBefore hKind hEarlier hFirst (hItems.symm.trans hLenient)
      have hReports : cut.2.collector.diagnostics.toList =
          [LexError.toDiagnostic ⟨.unexpectedChar c, token.span.line, token.span.column⟩
            { name := Lexer.sourceName, content := source }] := by
        rw [Lexer.diagnostics_items, hStrict, List.flatMap_append,
          Lexer.flatMap_issuedBy_ok hKnown]
        rfl
      refine ⟨c, hText, hStrict, hReports, ?_, ?_⟩
      · rw [Diagnostic.Collector.errorCount, Diagnostic.Collector.count, ← Array.countP_toList,
          hReports, List.countP_singleton, LexError.level_toDiagnostic]
        rfl
      · rw [Diagnostic.Collector.warningCount, Diagnostic.Collector.count, ← Array.countP_toList,
          hReports, List.countP_singleton, LexError.level_toDiagnostic]
        rfl

/--
A text with two unknown characters and a literal that is left open: the strict
stream ends at the first of them, and does not come to the literal. Without them
both streams come to it.
-/
theorem strict_items_cut_before_literal :
    let lenient : Config := {}
    let strict : Config := { unknownChars := .fatal }
    let items := (Lexer.ofText lenient "a\n §é 'b").items
    let cut := (Lexer.ofText strict "a\n §é 'b").items
    items.1 = [.ok ⟨.identifier, "a", ⟨0, 1, 1, 1⟩⟩, .ok ⟨.unknown, "§", ⟨3, 5, 2, 2⟩⟩,
      .ok ⟨.unknown, "é", ⟨5, 7, 2, 3⟩⟩, .error ⟨.unclosedChar, 2, 5⟩] ∧
    cut.1 = [.ok ⟨.identifier, "a", ⟨0, 1, 1, 1⟩⟩, .error ⟨.unexpectedChar '§', 2, 2⟩] ∧
    cut.2.collector.errorCount = 1 ∧ cut.2.collector.warningCount = 0 ∧
    (∀ result ∈ (Lexer.ofText lenient "a\n 'b").items.1, isUnknown result = false) ∧
    (Lexer.ofText strict "a\n 'b").items.1 = (Lexer.ofText lenient "a\n 'b").items.1 := by
  intro lenient strict items cut
  have hItems : items.1 = [.ok ⟨.identifier, "a", ⟨0, 1, 1, 1⟩⟩] ++
      .ok ⟨.unknown, "§", ⟨3, 5, 2, 2⟩⟩ ::
        [.ok ⟨.unknown, "é", ⟨5, 7, 2, 3⟩⟩, .error ⟨.unclosedChar, 2, 5⟩] := by
    decide +kernel
  have hKnown : ∀ result ∈ (Lexer.ofText lenient "a\n 'b").items.1, isUnknown result = false := by
    decide +kernel
  obtain ⟨-, hCut, -⟩ := strict_items_cut {} "a\n §é 'b"
  obtain ⟨c, hText, hStrict, -, hErrors, hWarnings⟩ := hCut _ _ _ hItems (by decide) rfl
  obtain rfl : '§' = c := by
    have hChars : ['§'] = [c] := String.ofList_injective hText
    exact (List.cons.inj hChars).1
  exact ⟨hItems, hStrict, hErrors, hWarnings, hKnown, ((strict_items_cut {} _).1 hKnown).1⟩

end HdlLex
