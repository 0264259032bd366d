import HdlLex.Proofs.GapGrammar
import HdlLex.Proofs.Stream

/-!
# Tiling — tokens and gaps cover the text

The tokens of a text lie over it like tiles, each with the gap in front of it:
a skipped mark, gaps and lexemes in turn make up the whole text, and nothing
of it is left out or used twice.

* `Tile` — a token and the gap in front of it.
* `Tiling` — tiles that cover the text from a place on up to its end.

Main results:

* `Lexer.tiling_of_reads` — the pieces of a text lead to a tiling of it.
* `tokenize_tiles` — the tokens of a text tile it.
-/

namespace HdlLex

-- ---------------------------------------------------------------------------
-- Tiles
-- ---------------------------------------------------------------------------

/-- A token of a text and the gap in front of it. -/
structure Tile where
  gap : List Char
  token : Token
  deriving DecidableEq

namespace Tile

/-- The characters under a tile: the gap and the lexeme of the token. -/
def extent (source : String) (tile : Tile) : List Char :=
  tile.gap ++ (tile.token.lexeme source).toList

/-- A tile that lies between `before` and `ahead`. -/
structure LiesIn (nesting : Option UInt32) (source : String) (before ahead : List Char)
    (tile : Tile) : Prop where
  /-- The gap is made of white space and comments. -/
  isGap : Trivia.IsGap nesting ((tile.token.lexeme source).toList ++ ahead) tile.gap
  /-- The span of the token cuts its lexeme out of the text, directly behind the gap. -/
  covers : tile.token.Covers source (before ++ tile.gap) (tile.token.lexeme source).toList ahead

/-- A tile whose token marks the end of the text. -/
structure IsLast (source : String) (tile : Tile) : Prop where
  kind_eq : tile.token.kind = .eof
  text_eq : tile.token.text = ""
  start_eq : tile.token.span.start = Text.byteLength source.toList
  stop_eq : tile.token.span.stop = Text.byteLength source.toList

/-- A tile whose token takes characters. -/
structure IsInner (source : String) (tile : Tile) : Prop where
  kind_ne : tile.token.kind ≠ .eof
  lexeme_ne : tile.token.lexeme source ≠ ""

end Tile

/-- Tiles that cover a text behind `before` up to its end. -/
structure Tiling (nesting : Option UInt32) (source : String) (before : List Char)
    (tiles : List Tile) : Prop where
  /-- What lies behind `before` is what the tiles lie over, in order. -/
  source_eq : source.toList = before ++ tiles.flatMap (Tile.extent source)
  /-- The last tile, and no other one, marks the end of the text. -/
  ends : ∃ inner last, tiles = inner ++ [last] ∧ last.IsLast source ∧
    ∀ tile ∈ inner, tile.IsInner source
  liesIn : ∀ front tile back, tiles = front ++ tile :: back →
    tile.LiesIn nesting source (before ++ front.flatMap (Tile.extent source))
      (back.flatMap (Tile.extent source))

namespace Tiling

variable {nesting : Option UInt32} {source : String} {before : List Char}

theorem last {tile : Tile} (hTile : tile.LiesIn nesting source before [])
    (hLast : tile.IsLast source) : Tiling nesting source before [tile] where
  source_eq := by
    rw [hTile.covers.source_eq]
    simp [Tile.extent]
  ends := ⟨[], tile, rfl, hLast, by simp⟩
  liesIn := by
    intro front other back hSplit
    cases front with
    | nil =>
      cases hSplit
      simpa using hTile
    | cons first front =>
      have hNil := (List.cons.inj hSplit).2
      simp at hNil

theorem cons {tile : Tile} {tiles : List Tile} (hInner : tile.IsInner source)
    (hTile : tile.LiesIn nesting source before (tiles.flatMap (Tile.extent source)))
    (hTiles : Tiling nesting source (before ++ tile.extent source) tiles) :
    Tiling nesting source before (tile :: tiles) where
  source_eq := by
    rw [List.flatMap_cons, ← List.append_assoc]
    exact hTiles.source_eq
  ends := by
    obtain ⟨inner, last, rfl, hLast, hAll⟩ := hTiles.ends
    refine ⟨tile :: inner, last, rfl, hLast, ?_⟩
    intro other hMem
    rcases List.mem_cons.1 hMem with rfl | hMem
    · exact hInner
    · exact hAll other hMem
  liesIn := by
    intro front other back hSplit
    cases front with
    | nil =>
      cases hSplit
      simpa using hTile
    | cons first front =>
      obtain ⟨rfl, hTail⟩ := List.cons.inj hSplit
      have hOther := hTiles.liesIn front other back hTail
      rw [List.append_assoc] at hOther
      exact hOther

end Tiling

-- ---------------------------------------------------------------------------
-- The tiles of a text
-- ---------------------------------------------------------------------------

namespace Lexer

/-- The tile of a piece that stands behind `before` in a text read from `start` on. -/
def tileOf (start : Position) (before : List Char) (piece : Piece) : Tile :=
  ⟨piece.gap, tokenBehind start (before ++ piece.gap) piece.lexeme⟩

/-- The tiles of pieces that stand behind `before` in a text read from `start` on. -/
def tilesOf (start : Position) : List Char → List Piece → List Tile
  | _, [] => []
  | before, piece :: pieces =>
    tileOf start before piece :: tilesOf start (before ++ piece.written) pieces

theorem map_token_tilesOf (start : Position) (before : List Char) (pieces : List Piece) :
    (tilesOf start before pieces).map Tile.token = placed start before pieces := by
  induction pieces generalizing before with
  | nil => rfl
  | cons piece pieces ih =>
    rw [tilesOf, placed, List.map_cons, ih, tileOf]

section Piece

variable {config : Config} {source : String} {piece : Piece} {before ahead : List Char}

theorem covers_tileOf (hSource : source.toList =
      config.passedMark source.toList ++ (before ++ (piece.written ++ ahead))) :
    (tileOf (config.startPosition source.toList) before piece).token.Covers source
      (config.passedMark source.toList ++ before ++ piece.gap) piece.lexeme.written ahead := by
  rw [List.append_assoc]
  refine covers_tokenBehind ?_
  rw [List.append_assoc before, ← List.append_assoc piece.gap]
  exact hSource

theorem liesIn_tileOf
    (hRead : read config (piece.written ++ ahead) = .ok (piece.gap, piece.lexeme))
    (hSource : source.toList =
      config.passedMark source.toList ++ (before ++ (piece.written ++ ahead))) :
    (tileOf (config.startPosition source.toList) before piece).LiesIn config.nesting source
      (config.passedMark source.toList ++ before) ahead := by
  have hCovers := covers_tileOf hSource
  have hText : piece.written ++ ahead = piece.gap ++ (piece.lexeme.written ++ ahead) :=
    List.append_assoc piece.gap piece.lexeme.written ahead
  rw [hText] at hRead
  obtain ⟨hGap, -⟩ := gap_front_of_read hRead
  refine ⟨?_, ?_⟩
  · rw [hCovers.lexeme]
    exact Trivia.isGap_of_gap hGap
  · rw [hCovers.lexeme]
    exact hCovers

theorem isInner_tileOf
    (hRead : read config (piece.written ++ ahead) = .ok (piece.gap, piece.lexeme))
    (hMore : piece.lexeme.kind ≠ .eof)
    (hSource : source.toList =
      config.passedMark source.toList ++ (before ++ (piece.written ++ ahead))) :
    (tileOf (config.startPosition source.toList) before piece).IsInner source where
  kind_ne := hMore
  lexeme_ne := by
    intro hEmpty
    have hLexeme := (covers_tileOf hSource).lexeme
    rw [hEmpty] at hLexeme
    exact written_ne_nil_of_read hRead hMore hLexeme.symm

theorem isLast_tileOf (hLexeme : piece.lexeme = .plain .eof [])
    (hSource : source.toList =
      config.passedMark source.toList ++ (before ++ (piece.written ++ []))) :
    (tileOf (config.startPosition source.toList) before piece).IsLast source := by
  have hCovers := covers_tileOf hSource
  rw [hLexeme] at hCovers
  have hAll : source.toList = config.passedMark source.toList ++ before ++ piece.gap := by
    simpa [Lexeme.plain] using hCovers.source_eq
  have hLength := congrArg Text.byteLength hAll.symm
  refine ⟨?_, ?_, ?_, ?_⟩
  · simp [tileOf, tokenBehind, Lexeme.toToken, hLexeme, Lexeme.plain]
  · simp [tileOf, tokenBehind, Lexeme.toToken, hLexeme, Lexeme.plain]
  · exact hCovers.start_eq.trans hLength
  · rw [hCovers.stop_eq, Lexeme.plain, List.append_nil]
    exact hLength

end Piece

/-- The pieces of a text lead to a tiling of it. -/
theorem tiling_of_reads {config : Config} {source : String} {cs : List Char}
    {pieces : List Piece} (h : Reads config cs pieces none) (before : List Char)
    (hSource : source.toList = config.passedMark source.toList ++ (before ++ cs)) :
    Tiling config.nesting source (config.passedMark source.toList ++ before)
      (tilesOf (config.startPosition source.toList) before pieces) := by
  generalize hEnding : none = ending at h
  induction h generalizing before with
  | @last cs piece hRead hEof =>
    obtain ⟨hText, hLexeme⟩ := read_eof hRead hEof
    rw [← List.append_assoc] at hText
    rw [hText] at hRead hSource
    exact Tiling.last (liesIn_tileOf hRead hSource) (isLast_tileOf hLexeme hSource)
  | fault => cases hEnding
  | @more piece ahead pieces ending hRead hMore _ ih =>
    have hLater : source.toList =
        config.passedMark source.toList ++ ((before ++ piece.written) ++ ahead) := by
      rw [List.append_assoc before]
      exact hSource
    have hTiles := ih (before ++ piece.written) hLater hEnding
    have hExtent : (tileOf (config.startPosition source.toList) before piece).extent source =
        piece.written := by
      rw [Tile.extent, (covers_tileOf hSource).lexeme]
      rfl
    -- what the further tiles lie over is what is still ahead
    have hAhead : ahead = (tilesOf (config.startPosition source.toList)
        (before ++ piece.written) pieces).flatMap (Tile.extent source) := by
      have hCovered := hTiles.source_eq
      conv at hCovered => lhs; rw [hLater, ← List.append_assoc]
      exact List.append_cancel_left hCovered
    have hTile := liesIn_tileOf hRead hSource
    rw [hAhead] at hTile
    refine Tiling.cons (isInner_tileOf hRead hMore hSource) hTile ?_
    rw [hExtent, List.append_assoc]
    exact hTiles

end Lexer

/--
The tokens of a text tile it: behind a mark that the configuration skips, gaps
and lexemes in turn make up the whole text.
-/
theorem tokenize_tiles {config : Config} {source : String} {tokens : List Token}
    (h : tokenize config source = .ok tokens) :
    ∃ tiles : List Tile, tokens = tiles.map Tile.token ∧
      Tiling config.nesting source (config.passedMark source.toList) tiles := by
  obtain ⟨pieces, hReads, rfl⟩ := tokenize_eq_ok h
  refine ⟨Lexer.tilesOf (config.startPosition source.toList) [] pieces, ?_, ?_⟩
  · exact (Lexer.map_token_tilesOf _ [] pieces).symm
  · have hBody := config.passedMark_append_body source.toList
    have hTiling := Lexer.tiling_of_reads hReads [] hBody.symm
    rwa [List.append_nil] at hTiling

/-- A text with a mark, a nested comment and a comment at its end. -/
theorem tiles_of_commented_text :
    ∃ tokens, tokenize { nestedComments := true } "\ufeff/* a /* b */ */x // c" = .ok tokens ∧
      ∃ tiles : List Tile, tokens = tiles.map Tile.token ∧
        Tiling (some 64) "\ufeff/* a /* b */ */x // c" [byteOrderMark] tiles := by
  have hTokens : tokenize { nestedComments := true } "\ufeff/* a /* b */ */x // c" =
      .ok [⟨.identifier, "x", ⟨18, 19, 1, 16⟩⟩, ⟨.eof, "", ⟨24, 24, 1, 22⟩⟩] := by
    decide +kernel
  exact ⟨_, hTokens, tokenize_tiles hTokens⟩

end HdlLex
