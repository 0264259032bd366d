import HdlLex.Proofs.Bounds
import HdlLex.Proofs.Spaced

/-!
# Regapped texts — gaps may be exchanged

A text is read the same whatever stands in its gaps, as long as lexemes that
touch still touch and other lexemes are kept apart by white space. Lexemes that
touch have to be read together with the same neighbours, and what they look
ahead to may lie several lexemes further on; so two texts are compared up to
the point where a gap begins in both of them.

* `Trivia.Replaces` — what may take the place of a gap.
* `gapsBefore`, `weave` — the gaps of a text between its tokens, and a text
  woven of gaps and lexemes.
* `Lexer.SharesFront` — texts that agree up to where the next gaps begin.

Main results:

* `Lexer.read_of_sharesFront` — one lexeme is read in both texts.
* `Lexer.Reads.regap` — the pieces of a text with other gaps.
* `tokenize_regapped` — its tokens.
-/

namespace HdlLex

-- ---------------------------------------------------------------------------
-- Gaps and what replaces them
-- ---------------------------------------------------------------------------

namespace Trivia

/-- No gap stays none, and a gap is replaced by a separator. -/
def Replaces (nesting : Option UInt32) (gap new : List Char) : Prop :=
  (gap = [] ∧ new = []) ∨ (gap ≠ [] ∧ IsSeparator nesting new)

/-- A text that begins with white space, or is empty. -/
def StartsBlank (cs : List Char) : Prop := StopsBefore (fun c => !Text.isBlank c) cs

theorem IsSeparator.startsBlank {nesting : Option UInt32} {cs : List Char}
    (h : IsSeparator nesting cs) (ahead : List Char) : StartsBlank (cs ++ ahead) := by
  obtain ⟨c, filler, rfl, hBlank, -⟩ := h
  exact StopsBefore.cons (by simpa using hBlank) (filler ++ ahead)

theorem Replaces.isFiller {nesting : Option UInt32} {gap new : List Char}
    (h : Replaces nesting gap new) : IsFiller nesting new := by
  rcases h with ⟨-, rfl⟩ | ⟨-, hSeparator⟩
  · exact .nil
  · exact hSeparator.isFiller

theorem StartsBlank.bounds {cs : List Char} (h : StartsBlank cs) (unicode : Bool) :
    Lexeme.Bounds unicode cs := by
  cases cs with
  | nil => exact Lexeme.Bounds.nil unicode
  | cons c cs => exact Lexeme.Bounds.of_isBlank (by simpa using h c rfl) unicode cs

end Trivia

-- ---------------------------------------------------------------------------
-- Texts with the same front
-- ---------------------------------------------------------------------------

namespace Lexer

/-- Two texts that agree up to where a gap begins in both, or up to their ends. -/
def SharesFront (unicode : Bool) (text new : List Char) : Prop :=
  ∃ front ahead behind, text = front ++ ahead ∧ new = front ++ behind ∧
    Lexeme.Bounds unicode ahead ∧ Trivia.StartsBlank behind

theorem SharesFront.nil (unicode : Bool) : SharesFront unicode [] [] :=
  ⟨[], [], [], rfl, rfl, Lexeme.Bounds.nil unicode, StopsBefore.nil _⟩

/-- Where a gap is replaced, the texts agree up to the gap; where there is none, further on. -/
theorem SharesFront.piece {nesting : Option UInt32} {unicode : Bool}
    {gap new written text text' : List Char} (h : SharesFront unicode text text')
    (hGap : Trivia.IsGap nesting (written ++ text) gap)
    (hReplaces : Trivia.Replaces nesting gap new) :
    SharesFront unicode (gap ++ (written ++ text)) (new ++ (written ++ text')) := by
  rcases hReplaces with ⟨rfl, rfl⟩ | ⟨hSome, hSeparator⟩
  · obtain ⟨front, ahead, behind, rfl, rfl, hBounds, hBlank⟩ := h
    exact ⟨written ++ front, ahead, behind, by simp, by simp, hBounds, hBlank⟩
  · exact ⟨[], _, _, rfl, rfl, hGap.bounds hSome unicode _, hSeparator.startsBlank _⟩

/-- A lexeme at the front of the one text stands at the front of the other one, too. -/
theorem front_of_sharesFront {config : Config} {c : Char} {cs text new : List Char}
    {lexeme : Lexeme} (h : SharesFront config.unicodeWords text new)
    (hFront : Lexeme.front config (c :: cs ++ text) = .ok lexeme)
    (hInside : lexeme.written <+: c :: cs) :
    Lexeme.front config (c :: cs ++ new) = .ok lexeme := by
  obtain ⟨front, ahead, behind, rfl, rfl, hBounds, hBlank⟩ := h
  have hInside' : lexeme.written <+: c :: (cs ++ front) :=
    hInside.trans (List.prefix_append (c :: cs) front)
  rw [← List.append_assoc, List.cons_append] at hFront ⊢
  have hAlone := (Lexeme.front_bounds_iff hBounds hInside').1 hFront
  exact (Lexeme.front_bounds_iff (hBlank.bounds config.unicodeWords) hInside').2 hAlone

/-- So no gap begins at the front of the other text, either. -/
theorem startsLexeme_of_sharesFront {unicode : Bool} {c : Char} {cs text new : List Char}
    (h : SharesFront unicode text new) (hStarts : Trivia.StartsLexeme (c :: cs ++ text)) :
    Trivia.StartsLexeme (c :: cs ++ new) := by
  obtain ⟨front, ahead, behind, rfl, rfl, -, hBlank⟩ := h
  -- a mark of a comment holds no white space, so it stands in front of the gap
  have hMark : ∀ d ∈ ['/', '*'], ['/', d] <+: c :: cs ++ (front ++ behind) →
      ['/', d] <+: c :: cs ++ (front ++ ahead) := by
    intro d hMem hFront
    have hNone : (['/', '*'].all fun e => !Text.isBlank e) = true := by
      decide +kernel
    have hNotBlank : ∀ e ∈ ['/', d], (!Text.isBlank e) = true := by
      intro e hIn
      refine List.all_eq_true.1 hNone e ?_
      rcases List.mem_cons.1 hIn with rfl | hLast
      · exact List.mem_cons_self
      · rw [List.mem_singleton.1 hLast]
        exact hMem
    rw [← List.append_assoc, isPrefix_stop_iff hNotBlank hBlank] at hFront
    rw [← List.append_assoc]
    exact hFront.trans (List.prefix_append _ ahead)
  refine ⟨StopsBefore.cons (hStarts.not_blank c rfl) _, ?_, ?_⟩
  · intro hLine
    exact hStarts.not_line (hMark '/' (by simp) hLine)
  · intro hBlock
    exact hStarts.not_block (hMark '*' (by simp) hBlock)

/-- A lexeme is read behind another gap and in front of a text with the same front. -/
theorem read_of_sharesFront {config : Config} {gap filler ahead new : List Char} {lexeme : Lexeme}
    (h : read config (gap ++ (lexeme.written ++ ahead)) = .ok (gap, lexeme))
    (hMore : lexeme.kind ≠ .eof) (hFiller : Trivia.IsFiller config.nesting filler)
    (hShares : SharesFront config.unicodeWords ahead new) :
    read config (filler ++ (lexeme.written ++ new)) = .ok (filler, lexeme) := by
  obtain ⟨hGap, hFront⟩ := gap_front_of_read h
  have hStarts := (Trivia.gap_eq_ok_iff.1 hGap).2
  obtain ⟨c, cs, hText⟩ := List.exists_cons_of_ne_nil (written_ne_nil_of_read h hMore)
  rw [hText] at hFront hStarts ⊢
  have hInside : lexeme.written <+: c :: cs := hText ▸ List.prefix_rfl
  exact read_of_gap_front
    (Trivia.gap_of_filler hFiller (startsLexeme_of_sharesFront hShares hStarts))
    (front_of_sharesFront hShares hFront hInside)

-- ---------------------------------------------------------------------------
-- Pieces with other gaps
-- ---------------------------------------------------------------------------

/-- The same lexeme behind another gap. -/
inductive Piece.Regaps (nesting : Option UInt32) : Piece → Piece → Prop
  | mk {gap new : List Char} (h : Trivia.Replaces nesting gap new) (lexeme : Lexeme) :
      Regaps nesting ⟨gap, lexeme⟩ ⟨new, lexeme⟩

/-- A text with other gaps splits into the same lexemes. The induction is on its pieces. -/
theorem Reads.regap {config : Config} {cs : List Char} {pieces regapped : List Piece}
    (h : Reads config cs pieces none)
    (hPieces : List.Forall₂ (Piece.Regaps config.nesting) pieces regapped) :
    SharesFront config.unicodeWords cs (regapped.flatMap Piece.written) ∧
      Reads config (regapped.flatMap Piece.written) regapped none := by
  generalize hEnding : none = ending at h
  induction h generalizing regapped with
  | @last cs piece hRead hEof =>
    obtain ⟨gap, lexeme⟩ := piece
    obtain ⟨rfl, rfl⟩ := read_eof hRead hEof
    obtain ⟨hGap, -⟩ := gap_front_of_read hRead
    cases hPieces with
    | cons hNew hNone =>
      cases hNone
      cases hNew with
      | @mk _ new hReplaces =>
        have hText : [Piece.mk new (.plain .eof [])].flatMap Piece.written = new := by
          simp [Piece.written, Lexeme.plain]
        have hShares := (SharesFront.nil config.unicodeWords).piece
          (Trivia.gap_eq_ok_iff.1 hGap).1 hReplaces
        rw [hText]
        refine ⟨?_, reads_of_filler hReplaces.isFiller⟩
        simpa [Lexeme.plain] using hShares
  | fault => cases hEnding
  | @more piece ahead pieces ending hRead hMore _ ih =>
    obtain ⟨gap, lexeme⟩ := piece
    cases hPieces with
    | @cons _ _ _ later hNew hLater =>
      obtain ⟨hShares, hReads⟩ := ih hLater hEnding
      cases hNew with
      | @mk _ new hReplaces =>
        have hOld : Piece.written ⟨gap, lexeme⟩ ++ ahead = gap ++ (lexeme.written ++ ahead) :=
          List.append_assoc gap lexeme.written ahead
        have hText : (Piece.mk new lexeme :: later).flatMap Piece.written =
            new ++ (lexeme.written ++ later.flatMap Piece.written) := by
          rw [List.flatMap_cons]
          exact List.append_assoc new lexeme.written _
        rw [hOld] at hRead ⊢
        rw [hText]
        have hGap := (Trivia.gap_eq_ok_iff.1 (gap_front_of_read hRead).1).1
        exact ⟨hShares.piece hGap hReplaces,
          hReads.cons (read_of_sharesFront hRead hMore hReplaces.isFiller hShares) hMore⟩

end Lexer

-- ---------------------------------------------------------------------------
-- The mark of a text
-- ---------------------------------------------------------------------------

/-- What follows a mark has none of its own, as long as it has the same front. -/
theorem Config.passedMark_of_sharesFront {config : Config} {text new : List Char}
    (h : Lexer.SharesFront config.unicodeWords (config.body text) new) :
    config.passedMark (config.passedMark text ++ new) = config.passedMark text := by
  rcases config.passedMark_cases text with hMark | hMark
  · rw [hMark, List.nil_append]
    rw [config.body_eq_of_passedMark hMark] at h
    obtain ⟨front, ahead, behind, hText, rfl, -, hBlank⟩ := h
    cases front with
    | nil =>
      refine config.passedMark_eq_nil (hBlank.mono ?_)
      intro c hMarkChar
      obtain rfl := beq_iff_eq.1 hMarkChar
      decide +kernel
    | cons c front =>
      rw [passedMark_eq_nil_iff, hText] at hMark
      rw [passedMark_eq_nil_iff]
      exact hMark
  · have hSkip : config.skipMark = true := by
      by_contra hOff
      rw [Bool.not_eq_true] at hOff
      have hNone := (config.passedMark_eq_nil_iff text).2 (Or.inl hOff)
      rw [hMark] at hNone
      cases hNone
    rw [hMark]
    simp [passedMark, hSkip]

-- ---------------------------------------------------------------------------
-- Gaps between tokens
-- ---------------------------------------------------------------------------

/-- The gaps of a text, each up to a token, from byte `start` on. -/
def gapsBefore (text : List Char) : (start : Nat) → List Token → List (List Char)
  | _, [] => []
  | start, token :: tokens =>
    (Text.slice? text start token.span.start).getD [] :: gapsBefore text token.span.stop tokens

/-- Gaps and lexemes in turn. -/
def weave : (gaps lexemes : List (List Char)) → List Char
  | gap :: gaps, lexeme :: lexemes => gap ++ (lexeme ++ weave gaps lexemes)
  | _, _ => []

namespace Lexer

/-- A text that is read to its end is what its pieces are written as. -/
theorem Reads.flatMap_written {config : Config} {cs : List Char} {pieces : List Piece}
    (h : Reads config cs pieces none) : pieces.flatMap Piece.written = cs := by
  generalize hEnding : none = ending at h
  induction h with
  | last hRead hEof =>
    obtain ⟨hText, -⟩ := read_eof hRead hEof
    rw [hText]
    simp [Piece.written]
  | fault => cases hEnding
  | more _ _ _ ih => rw [List.flatMap_cons, ih hEnding]

/-- The gaps and the written lexemes of pieces make up their text. -/
theorem weave_pieces (pieces : List Piece) :
    weave (pieces.map Piece.gap) ((pieces.map Piece.lexeme).map Lexeme.written) =
      pieces.flatMap Piece.written := by
  induction pieces with
  | nil => rfl
  | cons piece pieces ih =>
    simp only [List.map_cons, weave, ih, List.flatMap_cons, Piece.written, List.append_assoc]

/-- The gaps that are read off a text are those of its pieces. -/
theorem gapsBefore_placed {config : Config} {source : String} {pieces : List Piece}
    (before ahead : List Char) (hSource : source.toList = config.passedMark source.toList ++
      (before ++ (pieces.flatMap Piece.written ++ ahead))) :
    gapsBefore source.toList (Text.byteLength (config.passedMark source.toList ++ before))
      (placed (config.startPosition source.toList) before pieces) = pieces.map Piece.gap := by
  induction pieces generalizing before with
  | nil => rfl
  | cons piece pieces ih =>
    have hBehind : source.toList = config.passedMark source.toList ++
        ((before ++ piece.gap) ++ (piece.lexeme.written ++
          (pieces.flatMap Piece.written ++ ahead))) := by
      simpa [Piece.written] using hSource
    have hLater : source.toList = config.passedMark source.toList ++
        ((before ++ piece.written) ++ (pieces.flatMap Piece.written ++ ahead)) := by
      simpa [Piece.written] using hSource
    have hCovers := covers_tokenBehind hBehind
    have hSlice := Text.slice?_append (config.passedMark source.toList ++ before) piece.gap
      (piece.lexeme.written ++ (pieces.flatMap Piece.written ++ ahead))
    rw [List.append_assoc _ before, List.append_assoc, ← hBehind] at hSlice
    rw [placed, gapsBefore, hCovers.start_eq, hSlice, hCovers.stop_eq, List.append_assoc,
      List.append_assoc before]
    exact congrArg (piece.gap :: ·) (ih (before ++ piece.written) hLater)

theorem exists_regapped {nesting : Option UInt32} {pieces : List Piece} {gaps : List (List Char)}
    (h : List.Forall₂ (Trivia.Replaces nesting) (pieces.map Piece.gap) gaps) :
    ∃ regapped, List.Forall₂ (Piece.Regaps nesting) pieces regapped ∧
      regapped.map Piece.gap = gaps ∧ regapped.map Piece.lexeme = pieces.map Piece.lexeme := by
  induction pieces generalizing gaps with
  | nil =>
    cases h
    exact ⟨[], .nil, rfl, rfl⟩
  | cons piece pieces ih =>
    cases h with
    | @cons _ new _ gaps hReplaces hLater =>
      obtain ⟨regapped, hRegapped, rfl, hLexemes⟩ := ih hLater
      refine ⟨⟨new, piece.lexeme⟩ :: regapped, .cons (.mk hReplaces piece.lexeme) hRegapped, rfl, ?_⟩
      rw [List.map_cons, List.map_cons, hLexemes]

end Lexer

/--
The gaps of a text may be exchanged. A text with the same lexemes in which
separators take the place of the gaps, and no gap is where there was none, has
tokens of the same kinds that are written the same and stand for the same.
-/
theorem tokenize_regapped {config : Config} {source : String} {tokens : List Token}
    (h : tokenize config source = .ok tokens) :
    let mark := config.passedMark source.toList
    let gaps := gapsBefore source.toList (Text.byteLength mark) tokens
    let lexemes := tokens.map fun token => (token.lexeme source).toList
    source.toList = mark ++ weave gaps lexemes ∧
    ∀ gaps', List.Forall₂ (Trivia.Replaces config.nesting) gaps gaps' →
      let source' := String.ofList (mark ++ weave gaps' lexemes)
      ∃ tokens', tokenize config source' = .ok tokens' ∧
        tokens'.map (Token.asLexeme source') = tokens.map (Token.asLexeme source) := by
  intro mark gaps lexemes
  obtain ⟨pieces, hReads, rfl⟩ := tokenize_eq_ok h
  have hBody := config.passedMark_append_body source.toList
  have hTokens := Lexer.asLexeme_placed hReads [] hBody.symm
  have hLexemes : lexemes = (pieces.map Lexer.Piece.lexeme).map Lexeme.written := by
    rw [← hTokens, List.map_map]
    rfl
  have hGaps : gaps = pieces.map Lexer.Piece.gap := by
    have hSource : source.toList = mark ++ ([] ++ (pieces.flatMap Lexer.Piece.written ++ [])) := by
      rw [hReads.flatMap_written, List.nil_append, List.append_nil]
      exact hBody.symm
    have hFound := Lexer.gapsBefore_placed [] [] hSource
    rwa [List.append_nil] at hFound
  refine ⟨?_, ?_⟩
  · rw [hGaps, hLexemes, Lexer.weave_pieces, hReads.flatMap_written]
    exact hBody.symm
  · intro gaps' hReplaces source'
    rw [hGaps] at hReplaces
    obtain ⟨regapped, hRegapped, rfl, hSame⟩ := Lexer.exists_regapped hReplaces
    obtain ⟨hShares, hReads'⟩ := hReads.regap hRegapped
    have hText : source'.toList = mark ++ regapped.flatMap Lexer.Piece.written := by
      rw [String.toList_ofList, hLexemes, ← hSame, Lexer.weave_pieces]
    have hMark : config.passedMark source'.toList = mark := by
      rw [hText]
      exact Config.passedMark_of_sharesFront hShares
    have hBody' : config.body source'.toList = regapped.flatMap Lexer.Piece.written := by
      rw [Config.body, hMark, hText, List.drop_left]
    have hSource' : source'.toList = config.passedMark source'.toList ++
        ([] ++ regapped.flatMap Lexer.Piece.written) := by
      rw [hMark]
      exact hText
    have hTokens' := Lexer.asLexeme_placed hReads' [] hSource'
    rw [← hBody'] at hReads'
    refine ⟨_, tokenize_of_reads hReads', ?_⟩
    rw [hTokens, ← hSame]
    exact hTokens'

/--
A comment keeps the parts of an operator apart, and a blank those of an exponent.
Behind a mark, other trivia do so as well, and what touches still touches.
-/
theorem regapped_operator_and_exponent :
    let source := "\ufeff</**/=1e+ 5//c"
    let source' := "\ufeff< =1e+\t/*+*/5\n//\n"
    ∃ tokens tokens', tokenize {} source = .ok tokens ∧ tokenize {} source' = .ok tokens' ∧
      tokens.map Token.kind = [.operator .less, .operator .assign, .number, .identifier,
        .operator .add, .number, .eof] ∧
      tokens'.map (Token.asLexeme source') = tokens.map (Token.asLexeme source) := by
  intro source source'
  let gaps' : List (List Char) :=
    [[], [' '], [], [], [], ['\t', '/', '*', '+', '*', '/'], ['\n', '/', '/', '\n']]
  obtain ⟨tokens, hTokens, hKinds, hGaps, hText⟩ : ∃ tokens,
      tokenize {} source = .ok tokens ∧
      tokens.map Token.kind = [.operator .less, .operator .assign, .number, .identifier,
        .operator .add, .number, .eof] ∧
      gapsBefore source.toList 3 tokens =
        [[], ['/', '*', '*', '/'], [], [], [], [' '], ['/', '/', 'c']] ∧
      String.ofList (byteOrderMark :: weave gaps'
        (tokens.map fun token => (token.lexeme source).toList)) = source' := by
    refine ⟨[⟨.operator .less, "<", ⟨3, 4, 1, 1⟩⟩, ⟨.operator .assign, "=", ⟨8, 9, 1, 6⟩⟩,
      ⟨.number, "1", ⟨9, 10, 1, 7⟩⟩, ⟨.identifier, "e", ⟨10, 11, 1, 8⟩⟩,
      ⟨.operator .add, "+", ⟨11, 12, 1, 9⟩⟩, ⟨.number, "5", ⟨13, 14, 1, 11⟩⟩,
      ⟨.eof, "", ⟨17, 17, 1, 15⟩⟩], ?_, rfl, ?_, ?_⟩
    · decide +kernel
    · decide +kernel
    · decide +kernel
  have hComment : Comment.IsBlock none ['/', '*', '+', '*', '/'] := ⟨['+'], rfl, by decide⟩
  have hBlank : Trivia.IsSeparator none [' '] := ⟨' ', [], rfl, by decide +kernel, .nil⟩
  have hBlock : Trivia.IsSeparator none ['\t', '/', '*', '+', '*', '/'] :=
    ⟨'\t', _, rfl, by decide +kernel, .block hComment .nil⟩
  have hLine : Trivia.IsSeparator none ['\n', '/', '/', '\n'] :=
    ⟨'\n', _, rfl, by decide +kernel, @Trivia.IsFiller.line none [] [] (by simp) .nil⟩
  have hNone : Trivia.Replaces none [] [] := .inl ⟨rfl, rfl⟩
  have hReplaces : List.Forall₂ (Trivia.Replaces none) (gapsBefore source.toList 3 tokens) gaps' := by
    rw [hGaps]
    exact .cons hNone <| .cons (.inr ⟨by simp, hBlank⟩) <| .cons hNone <| .cons hNone <|
      .cons hNone <| .cons (.inr ⟨by simp, hBlock⟩) <| .cons (.inr ⟨by simp, hLine⟩) .nil
  have hMark : Config.passedMark {} source.toList = [byteOrderMark] := by
    decide +kernel
  have hStart : Text.byteLength (Config.passedMark {} source.toList) = 3 := by
    rw [hMark]
    decide
  rw [← hStart] at hReplaces
  obtain ⟨-, hRegapped⟩ := tokenize_regapped hTokens
  obtain ⟨tokens', hTokens', hSame⟩ := hRegapped gaps' hReplaces
  rw [hMark, List.singleton_append, hText] at hTokens' hSame
  exact ⟨tokens, tokens', hTokens, hTokens', hKinds, hSame⟩

end HdlLex
