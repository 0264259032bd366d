import HdlLex.Proofs.Lines
import HdlLex.Proofs.Positions
import HdlLex.Proofs.Returns

/-!
# Line endings — texts with carriage returns before their line feeds

A carriage return takes a byte and a column, and the line feed behind it begins
a new line. So with carriage returns before its line feeds a text has the same
tokens on the same lines and in the same columns, further on by one byte for
each line feed before them, and an error stays what it is where it is. Only a
literal that a line feed cuts directly behind a backslash has an error of
another kind, at the backslash.

* `Token.IsReturned` — the same token in the text with the carriage returns.
* `LexError.IsCut` — the error of a literal that is cut behind a backslash.

Main results:

* `Position.afterAll_withReturns` — where the counts lead.
* `Lexer.Reads.withReturns` — how the text with the carriage returns splits.
* `tokenize_withReturns` — its tokens, or its error.
-/

namespace HdlLex

open Text (withReturns withReturns_append withReturns_feed withReturns_cons withReturns_eq_self)

-- ---------------------------------------------------------------------------
-- Positions
-- ---------------------------------------------------------------------------

/-- The carriage returns are counted as bytes, and in no line or column that is left. -/
theorem Position.afterAll_withReturns (position : Position) (cs : List Char) :
    position.afterAll (withReturns cs) =
      { position.afterAll cs with offset := (position.afterAll cs).offset + cs.count '\n' } := by
  induction cs generalizing position with
  | nil => rfl
  | cons c cs ih =>
    by_cases hFeed : c = '\n'
    · subst hFeed
      have hStep : (position.after '\r').after '\n' =
          { position.after '\n' with offset := (position.after '\n').offset + 1 } := by
        have hReturn : ('\r' : Char).utf8Size = 1 := by decide
        simp only [after, hReturn, if_true, if_neg (by decide : ¬ '\r' = '\n')]
        rw [Nat.add_right_comm]
      rw [withReturns_feed, afterAll_cons, afterAll_cons, hStep, afterAll_add_offset, ih,
        afterAll_cons, List.count_cons_self]
      simp only [Nat.add_assoc]
    · rw [withReturns_cons hFeed, afterAll_cons, ih, afterAll_cons,
        List.count_cons_of_ne hFeed]

namespace Config

theorem lineFeed_not_mem_passedMark (config : Config) (cs : List Char) :
    '\n' ∉ config.passedMark cs := by
  rcases config.passedMark_cases cs with hNone | hMark
  · rw [hNone]
    exact List.not_mem_nil
  · rw [hMark]
    decide

theorem passedMark_withReturns (config : Config) (cs : List Char) :
    config.passedMark (withReturns cs) = config.passedMark cs := by
  cases cs with
  | nil => rfl
  | cons c cs =>
    by_cases hFeed : c = '\n'
    · subst hFeed
      have hReturn : ('\r' == byteOrderMark) = false := by decide
      have hFeed : ('\n' == byteOrderMark) = false := by decide
      rw [withReturns_feed]
      simp [passedMark, hReturn, hFeed]
    · rw [withReturns_cons hFeed]
      rfl

theorem startPosition_withReturns (config : Config) (cs : List Char) :
    config.startPosition (withReturns cs) = config.startPosition cs := by
  unfold startPosition
  rw [passedMark_withReturns]

theorem body_withReturns (config : Config) (cs : List Char) :
    config.body (withReturns cs) = withReturns (config.body cs) := by
  have hText : withReturns cs = config.passedMark cs ++ withReturns (config.body cs) := by
    conv => lhs; rw [← config.passedMark_append_body cs]
    rw [withReturns_append, withReturns_eq_self (config.lineFeed_not_mem_passedMark cs)]
  rw [body, passedMark_withReturns, hText, List.drop_left]

/-- In a short text no two places have the same line and column. -/
theorem startPosition_unique {config : Config} {text before ahead before' ahead' : List Char}
    (hShort : Position.IsShort text)
    (h : text = config.passedMark text ++ (before ++ ahead))
    (h' : text = config.passedMark text ++ (before' ++ ahead'))
    (hLine : ((config.startPosition text).afterAll before).line =
      ((config.startPosition text).afterAll before').line)
    (hColumn : ((config.startPosition text).afterAll before).column =
      ((config.startPosition text).afterAll before').column) : before = before' := by
  have hLonger : ∀ {first more rest : List Char},
      text = config.passedMark text ++ ((first ++ more) ++ rest) →
      ((config.startPosition text).afterAll first).line =
        ((config.startPosition text).afterAll (first ++ more)).line →
      ((config.startPosition text).afterAll first).column =
        ((config.startPosition text).afterAll (first ++ more)).column → more = [] := by
    intro first more rest hText hSameLine hSameColumn
    by_contra hMore
    rcases startPosition_lt hShort hText hMore with hLater | ⟨-, hFurther⟩
    · rw [hSameLine] at hLater
      exact UInt32.lt_irrefl _ hLater
    · rw [hSameColumn] at hFurther
      exact UInt32.lt_irrefl _ hFurther
  -- of two places in one text the one lies behind the other
  have hSame : before ++ ahead = before' ++ ahead' := List.append_cancel_left (h.symm.trans h')
  rcases List.append_eq_append_iff.1 hSame with ⟨more, rfl, -⟩ | ⟨more, rfl, -⟩
  · rw [hLonger h' hLine hColumn, List.append_nil]
  · rw [hLonger h hLine.symm hColumn.symm, List.append_nil]

end Config

-- ---------------------------------------------------------------------------
-- Tokens
-- ---------------------------------------------------------------------------

/-- The same token, further on by one byte for each line feed in the text before it. -/
structure Token.IsReturned (source : String) (token moved : Token) : Prop where
  kind_eq : moved.kind = token.kind
  text_eq : moved.text = token.text
  line_eq : moved.span.line = token.span.line
  column_eq : moved.span.column = token.span.column
  offsets : ∃ before, Text.takeBytes? source.toList token.span.start = some before ∧
    moved.span.start = token.span.start + before.count '\n' ∧
    moved.span.stop = token.span.stop + before.count '\n'

namespace Lexer

/-- The same piece in the text with the carriage returns. -/
def Piece.withReturns (piece : Piece) : Piece :=
  { piece with gap := Text.withReturns piece.gap }

theorem Piece.written_withReturns {piece : Piece} (h : '\n' ∉ piece.lexeme.written) :
    piece.withReturns.written = Text.withReturns piece.written := by
  rw [written, written, withReturns_append, withReturns_eq_self h]
  rfl

theorem tokenBehind_isReturned {config : Config} {source : String} {before ahead : List Char}
    {lexeme : Lexeme} (hFeed : '\n' ∉ lexeme.written) (hSource : source.toList =
      config.passedMark source.toList ++ (before ++ (lexeme.written ++ ahead))) :
    (tokenBehind (config.startPosition source.toList) before lexeme).IsReturned source
      (tokenBehind (config.startPosition source.toList) (Text.withReturns before) lexeme) := by
  have hStop : Text.withReturns before ++ lexeme.written =
      Text.withReturns (before ++ lexeme.written) := by
    rw [withReturns_append, withReturns_eq_self hFeed]
  have hCovers := covers_tokenBehind hSource
  have hBefore := Text.takeBytes?_append (config.passedMark source.toList ++ before)
    (lexeme.written ++ ahead)
  rw [← hCovers.source_eq, ← hCovers.start_eq] at hBefore
  have hMark := List.count_eq_zero.2 (config.lineFeed_not_mem_passedMark source.toList)
  have hCount := List.count_eq_zero.2 hFeed
  unfold tokenBehind at hBefore ⊢
  rw [hStop, Position.afterAll_withReturns, Position.afterAll_withReturns]
  refine ⟨rfl, rfl, rfl, rfl, _, hBefore, ?_, ?_⟩
  · simp [Lexeme.toToken, List.count_append, hMark]
  · simp [Lexeme.toToken, List.count_append, hMark, hCount]

-- ---------------------------------------------------------------------------
-- Pieces
-- ---------------------------------------------------------------------------

section Pieces

variable {config : Config} {cs : List Char} {pieces : List Piece} {ending : Option Fault}

theorem Reads.lineFeed_not_mem (h : Reads config cs pieces ending) :
    ∀ piece ∈ pieces, '\n' ∉ piece.lexeme.written := by
  induction h with
  | last hRead _ =>
    intro piece hMem
    rw [List.mem_singleton.1 hMem]
    exact lineFeed_not_mem_of_read hRead
  | fault => simp
  | more hRead _ _ ih =>
    intro piece hMem
    rcases List.mem_cons.1 hMem with rfl | hLater
    · exact lineFeed_not_mem_of_read hRead
    · exact ih piece hLater

theorem flatMap_written_withReturns (h : ∀ piece ∈ pieces, '\n' ∉ piece.lexeme.written) :
    (pieces.map Piece.withReturns).flatMap Piece.written =
      Text.withReturns (pieces.flatMap Piece.written) := by
  induction pieces with
  | nil => rfl
  | cons piece pieces ih =>
    rw [List.forall_mem_cons] at h
    rw [List.map_cons, List.flatMap_cons, List.flatMap_cons, ih h.2,
      Piece.written_withReturns h.1, withReturns_append]

/-- A text that is read to its end splits the same with the carriage returns. -/
theorem Reads.withReturns (h : Reads config cs pieces none) :
    Reads config (Text.withReturns cs) (pieces.map Piece.withReturns) none := by
  generalize hEnding : none = ending at h
  induction h with
  | last hRead hEof => exact .last (read_withReturns_of_ok hRead) hEof
  | fault => cases hEnding
  | @more piece ahead pieces _ hRead hMore _ ih =>
    have hFirst := read_withReturns_of_ok hRead
    have hWritten := Piece.written_withReturns (lineFeed_not_mem_of_read hRead)
    rw [withReturns_append, ← hWritten] at hFirst ⊢
    exact .more hFirst hMore (ih hEnding)

/-- A text with a fault does so up to the fault, behind which another one may be found. -/
theorem Reads.withReturns_fault {fault : Fault} (h : Reads config cs pieces (some fault)) :
    ∃ ahead, cs = pieces.flatMap Piece.written ++ ahead ∧ read config ahead = .error fault ∧
      ∀ found, read config (Text.withReturns ahead) = .error found →
        Reads config (Text.withReturns cs) (pieces.map Piece.withReturns) (some found) := by
  generalize hEnding : some fault = ending at h
  induction h with
  | last => cases hEnding
  | @fault cs fault hRead =>
    cases hEnding
    exact ⟨cs, rfl, hRead, fun found hFound => .fault hFound⟩
  | @more piece rest pieces _ hRead hMore _ ih =>
    obtain ⟨ahead, rfl, hFault, hMoved⟩ := ih hEnding
    refine ⟨ahead, by rw [List.flatMap_cons, List.append_assoc], hFault, ?_⟩
    intro found hFound
    have hFirst := read_withReturns_of_ok hRead
    have hWritten := Piece.written_withReturns (lineFeed_not_mem_of_read hRead)
    rw [withReturns_append, ← hWritten] at hFirst ⊢
    exact .more hFirst hMore (hMoved found hFound)

/-- The tokens of the pieces are the same, further on. -/
theorem Reads.placed_withReturns {source : String} (h : Reads config cs pieces ending)
    (before : List Char)
    (hSource : source.toList = config.passedMark source.toList ++ (before ++ cs)) :
    List.Forall₂ (Token.IsReturned source)
      (placed (config.startPosition source.toList) before pieces)
      (placed (config.startPosition source.toList) (Text.withReturns before)
        (pieces.map Piece.withReturns)) := by
  induction h generalizing before with
  | @last cs piece hRead hEof =>
    obtain ⟨hText, -⟩ := read_eof hRead hEof
    rw [hText, ← List.append_assoc before] at hSource
    have hToken := tokenBehind_isReturned (lineFeed_not_mem_of_read hRead) hSource
    rw [withReturns_append] at hToken
    exact .cons hToken .nil
  | fault => exact .nil
  | @more piece ahead pieces _ hRead _ _ ih =>
    have hWritten := Piece.written_withReturns (lineFeed_not_mem_of_read hRead)
    have hLater := ih (before ++ piece.written) (by rw [List.append_assoc]; exact hSource)
    rw [withReturns_append, ← hWritten] at hLater
    rw [Piece.written, List.append_assoc, ← List.append_assoc before] at hSource
    have hToken := tokenBehind_isReturned (lineFeed_not_mem_of_read hRead) hSource
    rw [withReturns_append] at hToken
    exact .cons hToken hLater

end Pieces

end Lexer

-- ---------------------------------------------------------------------------
-- Whole texts
-- ---------------------------------------------------------------------------

/--
The error is that of a literal left open because a line feed cuts it directly
behind a backslash, which stands at this line and column.
-/
def LexError.IsCut (config : Config) (source : String) (error : LexError) (line column : UInt32) :
    Prop :=
  ∃ before quote written text,
    source.toList = config.passedMark source.toList ++ (before ++ text) ∧
    Lexeme.CutsLiteral quote written text ∧
    let opening := (config.startPosition source.toList).afterAll before
    let backslash := opening.afterAll (quote :: written)
    error = ⟨Lexeme.openCause quote, opening.line, opening.column⟩ ∧
    line = backslash.line ∧ column = backslash.column

section Errors

variable {config : Config} {source : String} {passed ahead : List Char} {fault : Fault}

/-- The place of an error tells which literal was cut. -/
theorem Fault.cuts_of_isCut (hShort : Position.IsShort source.toList)
    (hSource : source.toList = config.passedMark source.toList ++ (passed ++ ahead))
    (hLead : fault.lead <+: ahead) {line column : UInt32}
    (h : (fault.errorAt ((config.startPosition source.toList).afterAll passed)).IsCut config source
      line column) :
    ∃ quote written, fault.Cuts ahead quote written ∧
      let backslash := (config.startPosition source.toList).afterAll
        (passed ++ (fault.lead ++ quote :: written))
      line = backslash.line ∧ column = backslash.column := by
  obtain ⟨before, quote, written, text, hText, hLiteral, hError, hLine, hColumn⟩ := h
  obtain ⟨rest, rfl⟩ := hLead
  rw [← List.append_assoc passed] at hSource
  rw [errorAt, ← Position.afterAll_append] at hError
  obtain ⟨hCause, hSameLine, hSameColumn⟩ := LexError.mk.inj hError
  obtain rfl := Config.startPosition_unique hShort hSource hText hSameLine hSameColumn
  obtain rfl := List.append_cancel_left (List.append_cancel_left (hSource.symm.trans hText))
  refine ⟨quote, written, ⟨hCause, by rwa [List.drop_left]⟩, ?_⟩
  rw [← List.append_assoc, Position.afterAll_append]
  exact ⟨hLine, hColumn⟩

/-- A literal that is cut has an error that says so. -/
theorem Fault.Cuts.isCut
    (hSource : source.toList = config.passedMark source.toList ++ (passed ++ ahead))
    (hLead : fault.lead <+: ahead) {quote : Char} {written : List Char}
    (h : fault.Cuts ahead quote written) :
    ∃ line column, (fault.errorAt ((config.startPosition source.toList).afterAll passed)).IsCut
      config source line column := by
  obtain ⟨hCause, hLiteral⟩ := h
  obtain ⟨rest, rfl⟩ := hLead
  rw [List.drop_left] at hLiteral
  rw [← List.append_assoc passed] at hSource
  refine ⟨_, _, passed ++ fault.lead, quote, written, rest, hSource, hLiteral, ?_, rfl, rfl⟩
  rw [errorAt, hCause, Position.afterAll_append]

/-- A fault that is found instead is one of the same cause at the same line and column. -/
theorem Fault.errorAt_of_returned {α : Type} {convert : α → α} {found : Fault}
    (h : Returned convert (.error fault) (.error found)) (start : Position) :
    found.errorAt (start.afterAll (Text.withReturns passed)) =
      fault.errorAt (start.afterAll passed) := by
  cases h with
  | error hCause hLead =>
    rw [errorAt, errorAt, hCause, hLead, ← Position.afterAll_append, ← Position.afterAll_append,
      ← withReturns_append, Position.afterAll_withReturns]

end Errors

/-- The text with the carriage returns begins where the text does, and is read behind the mark. -/
theorem tokenize_of_returned {config : Config} {source : String} {pieces : List Lexer.Piece}
    {ending : Option Fault}
    (h : Lexer.Reads config (withReturns (config.body source.toList)) pieces ending) :
    tokenize config (String.ofList (withReturns source.toList)) =
      Lexer.outcome (config.startPosition source.toList) [] pieces ending := by
  have hText : (String.ofList (withReturns source.toList)).toList = withReturns source.toList :=
    String.toList_ofList
  rw [← config.body_withReturns, ← hText] at h
  rw [Lexer.tokenize_eq_outcome h, hText, config.startPosition_withReturns]

/--
With a carriage return in front of every line feed, a text that is short enough
has the same tokens, further on by one byte for each line feed before them, or
the same error; only where a line feed cuts a literal directly behind a
backslash, the error is that of an unknown escape at the backslash.
-/
theorem tokenize_withReturns (config : Config) {source : String}
    (hShort : Position.IsShort (Text.withReturns source.toList)) :
    let returned := String.ofList (Text.withReturns source.toList)
    (∀ tokens, tokenize config source = .ok tokens →
      ∃ moved, tokenize config returned = .ok moved ∧
        List.Forall₂ (Token.IsReturned source) tokens moved) ∧
    ∀ error, tokenize config source = .error error →
      (∀ line column, error.IsCut config source line column →
        tokenize config returned = .error ⟨.unknownEscape '\r', line, column⟩) ∧
      ((∀ line column, ¬ error.IsCut config source line column) →
        tokenize config returned = .error error) := by
  intro returned
  have hShort' : Position.IsShort source.toList :=
    Nat.lt_of_le_of_lt (Text.length_le_withReturns source.toList) hShort
  have hSource := (config.passedMark_append_body source.toList).symm
  obtain ⟨pieces, ending, hReads⟩ := Lexer.exists_reads config (config.body source.toList)
  have hTokens := tokenize_of_reads hReads
  cases ending with
  | none =>
    refine ⟨fun tokens hFound => ?_, fun error hError => ?_⟩
    · cases hTokens.symm.trans hFound
      exact ⟨_, tokenize_of_returned hReads.withReturns, hReads.placed_withReturns [] hSource⟩
    · cases hTokens.symm.trans hError
  | some fault =>
    obtain ⟨ahead, hSplit, hRead, hMoved⟩ := hReads.withReturns_fault
    rw [hSplit] at hSource
    have hLead := (Lexer.read_fits hRead).lead_isPrefix_text
    have hFlat := Lexer.flatMap_written_withReturns hReads.lineFeed_not_mem
    -- whatever fault is found instead, it is found behind the same pieces
    have hOther : ∀ found : Fault, Lexer.read config (withReturns ahead) = .error found →
        tokenize config returned = .error (found.errorAt ((config.startPosition
          source.toList).afterAll (withReturns (pieces.flatMap Lexer.Piece.written)))) := by
      intro found hFound
      rw [tokenize_of_returned (hMoved found hFound), Lexer.outcome, List.nil_append, hFlat]
    refine ⟨fun tokens hFound => ?_, fun error hError => ?_⟩
    · cases hTokens.symm.trans hFound
    · cases hTokens.symm.trans hError
      refine ⟨fun line column hCut => ?_, fun hNone => ?_⟩
      · obtain ⟨quote, written, hCuts, rfl, rfl⟩ := Fault.cuts_of_isCut hShort' hSource hLead hCut
        obtain ⟨passed, hFound⟩ := Lexer.read_of_cuts hRead hCuts
        rw [hOther _ hFound, Fault.errorAt, ← Position.afterAll_append, ← withReturns_append,
          Position.afterAll_withReturns]
      · have hReturned := @Lexer.read_returned config ahead (by
          intro found hFound quote written hCuts
          cases hRead.symm.trans hFound
          obtain ⟨line, column, hCut⟩ := hCuts.isCut hSource hLead
          exact hNone line column hCut)
        rw [hRead] at hReturned
        cases hFound : Lexer.read config (withReturns ahead) with
        | ok found =>
          rw [hFound] at hReturned
          cases hReturned
        | error found =>
          rw [hFound] at hReturned
          rw [hOther found hFound, Fault.errorAt_of_returned hReturned]

/-- Tokens between comments of two lines, a literal that is left open, and one that is cut. -/
theorem returned_literals :
    let returned (source : String) := String.ofList (Text.withReturns source.toList)
    let tokens : List Token := [⟨.identifier, "a", ⟨0, 1, 1, 1⟩⟩, ⟨.char, "c", ⟨12, 15, 3, 3⟩⟩,
      ⟨.eof, "", ⟨15, 15, 3, 6⟩⟩]
    (∃ moved, tokenize {} (returned "a// b\n/* \n*/'c'") = .ok moved ∧
      List.Forall₂ (Token.IsReturned "a// b\n/* \n*/'c'") tokens moved) ∧
    tokenize {} (returned "\n\"a\n") = .error ⟨.unclosedString, 2, 1⟩ ∧
    tokenize {} (returned "\n \"a\\\n") = .error ⟨.unknownEscape '\r', 2, 4⟩ := by
  intro returned tokens
  have hShort : ∀ source : String, (Text.withReturns source.toList).length < 100 →
      Position.IsShort (Text.withReturns source.toList) := by
    intro source hLength
    unfold Position.IsShort
    have hSize : 100 < UInt32.size - 1 := by decide
    omega
  refine ⟨?_, ?_, ?_⟩
  · exact (tokenize_withReturns {} (hShort "a// b\n/* \n*/'c'" (by decide +kernel))).1 tokens
      (by decide +kernel)
  · have hOpen : tokenize {} "\n\"a\n" = .error ⟨.unclosedString, 2, 1⟩ := by decide +kernel
    apply ((tokenize_withReturns {} (hShort "\n\"a\n" (by decide +kernel))).2 _ hOpen).2
    -- there is no backslash in this text
    rintro line column ⟨before, quote, written, text, hText, ⟨-, meaning, ahead, -, rfl⟩, -⟩
    have hMem : '\\' ∈ "\n\"a\n".toList := by
      rw [hText]
      simp
    exact absurd hMem (by decide +kernel)
  · have hOpen : tokenize {} "\n \"a\\\n" = .error ⟨.unclosedString, 2, 2⟩ := by decide +kernel
    apply ((tokenize_withReturns {} (hShort "\n \"a\\\n" (by decide +kernel))).2 _ hOpen).1
    have hLiteral : Lexeme.CutsLiteral '"' ['a'] ['"', 'a', '\\', '\n'] :=
      ⟨by simp, ['a'], [], .raw (by decide) (by decide) (by decide) .nil, rfl⟩
    exact ⟨['\n', ' '], '"', ['a'], _, by decide +kernel, hLiteral, by decide +kernel,
      by decide +kernel, by decide +kernel⟩

end HdlLex
