import HdlLex.Lexer.Stream
import HdlLex.Proofs.FrontGrammar
import HdlLex.Proofs.Run

/-!
# Stream — a text read to its end

Reading to the end splits a text into pieces, a gap and a lexeme each, up to
the end token or to the first fault. How a text splits depends on its
characters alone; positions are counted afterwards.

* `Lexer.Reads` — how a text splits into pieces, and what comes behind them.
* `Lexer.placed` — the tokens of pieces.

Main results:

* `Lexer.exists_reads` — every text splits into pieces.
* `tokenize_of_reads` — the tokens of a text, or its first error.
* `tokenize_eq_ok` — tokens come from a text that splits up to its end.
-/

namespace HdlLex

/-- The text without the mark that the configuration skips. -/
def Config.body (config : Config) (cs : List Char) : List Char :=
  cs.drop (config.passedMark cs).length

theorem Config.passedMark_append_body (config : Config) (cs : List Char) :
    config.passedMark cs ++ config.body cs = cs :=
  List.prefix_iff_eq_append.1 (config.passedMark_isPrefix cs)

theorem Config.body_eq_of_passedMark (config : Config) {cs : List Char}
    (h : config.passedMark cs = []) : config.body cs = cs := by
  unfold body
  rw [h]
  rfl

/-- What a token of a text reads as: its kind, its characters and what they stand for. -/
def Token.asLexeme (source : String) (token : Token) : Lexeme :=
  ⟨token.kind, (token.lexeme source).toList, token.text.toList⟩

namespace Lexer

-- ---------------------------------------------------------------------------
-- Pieces
-- ---------------------------------------------------------------------------

/-- A lexeme and the gap in front of it. -/
structure Piece where
  gap : List Char
  lexeme : Lexeme

/-- The characters of a piece. -/
def Piece.written (piece : Piece) : List Char := piece.gap ++ piece.lexeme.written

/-- How a text splits into pieces up to its end, or up to a fault. -/
inductive Reads (config : Config) : List Char → List Piece → Option Fault → Prop
  | last {cs : List Char} {piece : Piece} :
      read config cs = .ok (piece.gap, piece.lexeme) → piece.lexeme.kind = .eof →
      Reads config cs [piece] none
  | fault {cs : List Char} {fault : Fault} :
      read config cs = .error fault → Reads config cs [] (some fault)
  | more {piece : Piece} {ahead : List Char} {pieces : List Piece} {ending : Option Fault} :
      read config (piece.written ++ ahead) = .ok (piece.gap, piece.lexeme) →
      piece.lexeme.kind ≠ .eof → Reads config ahead pieces ending →
      Reads config (piece.written ++ ahead) (piece :: pieces) ending

theorem Reads.cons {config : Config} {gap ahead : List Char} {lexeme : Lexeme}
    {pieces : List Piece} {ending : Option Fault} (h : Reads config ahead pieces ending)
    (hRead : read config (gap ++ (lexeme.written ++ ahead)) = .ok (gap, lexeme))
    (hMore : lexeme.kind ≠ .eof) :
    Reads config (gap ++ (lexeme.written ++ ahead)) (⟨gap, lexeme⟩ :: pieces) ending := by
  have hText : gap ++ (lexeme.written ++ ahead) = Piece.written ⟨gap, lexeme⟩ ++ ahead :=
    (List.append_assoc gap lexeme.written ahead).symm
  rw [hText] at hRead ⊢
  exact .more hRead hMore h

/-- The end token is read at the end of the text only, and is empty. -/
theorem read_eof {config : Config} {cs gap : List Char} {lexeme : Lexeme}
    (h : read config cs = .ok (gap, lexeme)) (hEof : lexeme.kind = .eof) :
    cs = gap ++ (lexeme.written ++ []) ∧ lexeme = .plain .eof [] := by
  obtain ⟨ahead, rfl, -, hFront⟩ := read_eq_ok h
  have hRest := (Lexeme.front_kind_eof_iff hFront).1 hEof
  obtain ⟨-, rfl⟩ := List.append_eq_nil_iff.1 hRest
  rw [hRest] at hFront
  cases hFront
  exact ⟨rfl, rfl⟩

theorem written_ne_nil_of_read {config : Config} {cs gap : List Char} {lexeme : Lexeme}
    (h : read config cs = .ok (gap, lexeme)) (hMore : lexeme.kind ≠ .eof) :
    lexeme.written ≠ [] := by
  obtain ⟨ahead, -, -, hFront⟩ := read_eq_ok h
  have hRest : lexeme.written ++ ahead ≠ [] :=
    fun hNil => hMore ((Lexeme.front_kind_eof_iff hFront).2 hNil)
  obtain ⟨c, cs, hText⟩ := List.exists_cons_of_ne_nil hRest
  rw [hText] at hFront
  exact Lexeme.written_ne_nil hFront

/-- Every text splits into pieces. -/
theorem exists_reads (config : Config) (cs : List Char) :
    ∃ pieces ending, Reads config cs pieces ending := by
  -- every piece but the last one takes characters
  induction hLength : cs.length using Nat.strong_induction_on generalizing cs with
  | _ n ih =>
    rcases read_cases config cs with ⟨gap, lexeme, ahead, hRead, hSplit⟩ | ⟨fault, -, hRead, -⟩
    · by_cases hEof : lexeme.kind = .eof
      · exact ⟨[⟨gap, lexeme⟩], none, .last hRead hEof⟩
      · have hTaken := List.length_pos_iff.2 (written_ne_nil_of_read hRead hEof)
        have hLess : ahead.length < n := by
          rw [← hLength, hSplit]
          simp only [List.length_append]
          omega
        obtain ⟨pieces, ending, hReads⟩ := ih ahead.length hLess ahead rfl
        rw [hSplit] at hRead ⊢
        exact ⟨⟨gap, lexeme⟩ :: pieces, ending, hReads.cons hRead hEof⟩
    · exact ⟨[], some fault, .fault hRead⟩

-- ---------------------------------------------------------------------------
-- Tokens
-- ---------------------------------------------------------------------------

/-- The tokens of pieces that stand behind `before` in a text read from `start` on. -/
def placed (start : Position) : List Char → List Piece → List Token
  | _, [] => []
  | before, piece :: pieces =>
    tokenBehind start (before ++ piece.gap) piece.lexeme ::
      placed start (before ++ piece.written) pieces

theorem asLexeme_tokenBehind {config : Config} {source : String} {before ahead : List Char}
    {lexeme : Lexeme} (hSource : source.toList =
      config.passedMark source.toList ++ (before ++ (lexeme.written ++ ahead))) :
    (tokenBehind (config.startPosition source.toList) before lexeme).asLexeme source = lexeme := by
  have hText := (covers_tokenBehind hSource).lexeme
  unfold Token.asLexeme
  rw [hText]
  simp [tokenBehind, Lexeme.toToken]

/-- The tokens of a text read as the lexemes of its pieces. -/
theorem asLexeme_placed {config : Config} {source : String} {cs : List Char}
    {pieces : List Piece} {ending : Option Fault} (h : Reads config cs pieces ending)
    (before : List Char)
    (hSource : source.toList = config.passedMark source.toList ++ (before ++ cs)) :
    (placed (config.startPosition source.toList) before pieces).map (Token.asLexeme source) =
      pieces.map Piece.lexeme := by
  induction h generalizing before with
  | @last cs piece hRead hEof =>
    obtain ⟨hText, -⟩ := read_eof hRead hEof
    have hBehind : source.toList = config.passedMark source.toList ++
        ((before ++ piece.gap) ++ (piece.lexeme.written ++ [])) := by
      rw [List.append_assoc before, ← hText]
      exact hSource
    simp only [placed, List.map_cons, List.map_nil]
    rw [asLexeme_tokenBehind hBehind]
  | fault => rfl
  | @more piece ahead pieces ending hRead hMore _ ih =>
    have hBehind : source.toList = config.passedMark source.toList ++
        ((before ++ piece.gap) ++ (piece.lexeme.written ++ ahead)) := by
      rw [List.append_assoc before, ← List.append_assoc piece.gap]
      exact hSource
    have hLater : source.toList = config.passedMark source.toList ++
        ((before ++ piece.written) ++ ahead) := by
      rw [List.append_assoc before]
      exact hSource
    simp only [placed, List.map_cons]
    rw [asLexeme_tokenBehind hBehind, ih (before ++ piece.written) hLater]

/-- The item of the stream that a fault behind `before` leads to, if there is one. -/
def faulty (start : Position) (before : List Char) (ending : Option Fault) :
    List (Except LexError Token) :=
  ending.toList.map fun fault => .error (fault.errorAt (start.afterAll before))

theorem items_of_finished {lexer : Lexer} (h : lexer.finished = true) : lexer.items.1 = [] := by
  have hNext : lexer.next? = (none, lexer) := by
    unfold next?
    rw [if_pos h]
  rw [items]
  split
  · rfl
  · next hSome =>
    rw [hNext] at hSome
    cases hSome

/-- A running lexer yields what the next call yields, and goes on unless that ends the stream. -/
theorem items_of_running {lexer after : Lexer} {result : Except LexError Token}
    (hRunning : lexer.finished = false) (hNext : lexer.nextToken = (result, after)) :
    lexer.items.1 = result :: (items { after with finished := endsStream result }).1 := by
  have hItem : lexer.next? = (some result, { after with finished := endsStream result }) := by
    unfold next?
    rw [if_neg (by simp [hRunning]), hNext]
  rw [items]
  split
  · next hNone =>
    rw [hItem] at hNone
    cases hNone
  · next hSome =>
    rw [hItem] at hSome
    cases hSome
    rfl

theorem Stands.finish {config : Config} {source : String} {passed : List Char} {lexer : Lexer}
    (h : lexer.Stands config source passed) (finished : Bool) :
    Lexer.Stands config source passed { lexer with finished } :=
  ⟨h.config_eq, h.file_eq, h.text_eq, h.source_eq, h.position_eq⟩

theorem Stands.log {config : Config} {source : String} {passed : List Char} {lexer : Lexer}
    (h : lexer.Stands config source passed) (event : Event) :
    (lexer.log event).Stands config source passed :=
  ⟨h.config_eq, h.file_eq, h.text_eq, h.source_eq, h.position_eq⟩

/-- The items of a stream are the tokens of its pieces and the error of its fault. -/
theorem items_of_reads {config : Config} {source : String} {cs : List Char}
    {pieces : List Piece} {ending : Option Fault} (hReads : Reads config cs pieces ending)
    {passed : List Char} {lexer : Lexer} (hStands : lexer.Stands config source passed)
    (hRunning : lexer.finished = false) (hRest : lexer.cursor.rest = cs) :
    lexer.items.1 =
      (placed (config.startPosition source.toList) passed pieces).map .ok ++
        faulty (config.startPosition source.toList) (passed ++ pieces.flatMap Piece.written)
          ending := by
  induction hReads generalizing passed lexer with
  | @last cs piece hRead hEof =>
    obtain ⟨hText, -⟩ := read_eof hRead hEof
    rw [← hRest] at hRead hText
    have hToken := hStands.nextToken_of_read_ok hRead hText
    have hEnds : endsStream (.ok (tokenBehind (config.startPosition source.toList)
        (passed ++ piece.gap) piece.lexeme)) = true := by
      simp [endsStream, Token.isEof, tokenBehind, Lexeme.toToken, hEof]
    rw [items_of_running hRunning hToken, items_of_finished hEnds]
    rfl
  | @fault cs fault hRead =>
    rw [← hRest] at hRead
    obtain ⟨ahead, hSplit⟩ := (read_fits hRead).passed_isPrefix
    have hError := hStands.nextToken_of_read_error hRead hSplit.symm
    rw [items_of_running hRunning hError, items_of_finished rfl]
    simp [placed, faulty]
  | @more piece ahead pieces ending hRead hMore _ ih =>
    rw [← hRest] at hRead
    have hSplit : lexer.cursor.rest = piece.gap ++ (piece.lexeme.written ++ ahead) := by
      rw [hRest, Piece.written, List.append_assoc]
    have hToken := hStands.nextToken_of_read_ok hRead hSplit
    have hEnds : endsStream (.ok (tokenBehind (config.startPosition source.toList)
        (passed ++ piece.gap) piece.lexeme)) = false := by
      simp [endsStream, Token.isEof, tokenBehind, Lexeme.toToken, hMore]
    have hNext := hStands.record_behind hRest (.ok (tokenBehind
      (config.startPosition source.toList) (passed ++ piece.gap) piece.lexeme))
    have hItems := items_of_running hRunning hToken
    rw [hEnds] at hItems
    rw [hItems]
    have hLater := ih (hNext.finish false) rfl rfl
    rw [List.flatMap_cons, ← List.append_assoc passed]
    exact congrArg (_ :: ·) hLater

-- ---------------------------------------------------------------------------
-- Whole texts
-- ---------------------------------------------------------------------------

/-- Reading begins with the text behind the mark. -/
theorem rest_ofText (config : Config) (source : String) :
    (ofText config source).cursor.rest = config.body source.toList :=
  List.append_cancel_left ((stands_ofText config source).source_eq.symm.trans
    (config.passedMark_append_body source.toList).symm)

theorem mapM_id_map_ok (tokens : List Token) :
    (tokens.map .ok : List (Except LexError Token)).mapM id = .ok tokens := by
  have hMap : (tokens.map .ok : List (Except LexError Token)).mapM id =
      tokens.mapM (fun token => (.ok token : Except LexError Token)) := List.mapM_map
  have hPure : tokens.mapM (fun token => (.ok token : Except LexError Token)) =
      .ok (tokens.map id) := List.mapM_pure
  rw [hMap, hPure, List.map_id]

end Lexer

/-- The tokens of a text whose pieces can be read, or the error of the first fault. -/
theorem tokenize_of_reads {config : Config} {source : String} {pieces : List Lexer.Piece}
    {ending : Option Fault} (h : Lexer.Reads config (config.body source.toList) pieces ending) :
    let start := config.startPosition source.toList
    tokenize config source =
      match ending with
      | none => .ok (Lexer.placed start [] pieces)
      | some fault => .error
          (fault.errorAt (start.afterAll (pieces.flatMap Lexer.Piece.written))) := by
  intro start
  have hStands := Lexer.stands_ofText config source
  have hItems := Lexer.items_of_reads h (hStands.log (.started
    (Text.byteLength (Lexer.ofText config source).cursor.source))) rfl
    (Lexer.rest_ofText config source)
  unfold tokenize Lexer.tokenize
  simp only
  rw [hItems]
  cases ending with
  | none =>
    simp only [Lexer.faulty, Option.toList_none, List.map_nil, List.append_nil]
    rw [Lexer.mapM_id_map_ok]
  | some fault =>
    simp only [Lexer.faulty, Option.toList_some, List.map_cons, List.map_nil, List.mapM_append]
    rw [Lexer.mapM_id_map_ok]
    rfl

/-- Tokens come of a text whose pieces are read up to its end, and they are theirs. -/
theorem tokenize_eq_ok_iff {config : Config} {source : String} {pieces : List Lexer.Piece}
    {ending : Option Fault} (h : Lexer.Reads config (config.body source.toList) pieces ending)
    {tokens : List Token} :
    tokenize config source = .ok tokens ↔
      ending = none ∧ Lexer.placed (config.startPosition source.toList) [] pieces = tokens := by
  rw [tokenize_of_reads h]
  cases ending with
  | none => simp
  | some fault => simp

/-- Tokens come from a text that splits into pieces up to its end. -/
theorem tokenize_eq_ok {config : Config} {source : String} {tokens : List Token}
    (h : tokenize config source = .ok tokens) :
    ∃ pieces, Lexer.Reads config (config.body source.toList) pieces none ∧
      tokens = Lexer.placed (config.startPosition source.toList) [] pieces := by
  obtain ⟨pieces, ending, hReads⟩ := Lexer.exists_reads config (config.body source.toList)
  obtain ⟨rfl, hTokens⟩ := (tokenize_eq_ok_iff hReads).1 h
  exact ⟨pieces, hReads, hTokens.symm⟩

end HdlLex
