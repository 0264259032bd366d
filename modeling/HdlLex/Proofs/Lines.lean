import HdlLex.Proofs.LineFeed
import HdlLex.Proofs.Progress
import HdlLex.Proofs.Shift

/-!
# Lines — two texts joined by a line feed

Two texts that are joined by a line feed are read one after the other: first
the tokens of the first one but for its end, then those of the second one,
which is further on by the bytes and the lines of the first. An error of the
first text stays what it is, unless a block comment is open at its end.

* `Lexer.outcome` — what becomes of pieces: their tokens, or an error.

Main results:

* `Lexer.Reads.behind_gap`, `Lexer.Reads.append_feed` — how a text is read
  behind a gap, and behind a text that is read to its end.
* `Lexer.outcome_shifted` — pieces further on become the same tokens, shifted.
* `tokenize_lines` — the tokens of the joined text.
-/

namespace HdlLex

namespace Lexer

-- ---------------------------------------------------------------------------
-- What becomes of pieces
-- ---------------------------------------------------------------------------

/-- The tokens of pieces that stand behind `before`, or the error of the fault behind them. -/
def outcome (start : Position) (before : List Char) (pieces : List Piece)
    (ending : Option Fault) : Except LexError (List Token) :=
  match ending with
  | none => .ok (placed start before pieces)
  | some fault =>
    .error (fault.errorAt (start.afterAll (before ++ pieces.flatMap Piece.written)))

theorem outcome_cons (start : Position) (before : List Char) (piece : Piece)
    (pieces : List Piece) (ending : Option Fault) :
    outcome start before (piece :: pieces) ending =
      (outcome start (before ++ piece.written) pieces ending).map
        (tokenBehind start (before ++ piece.gap) piece.lexeme :: ·) := by
  cases ending with
  | none => rfl
  | some fault => simp [outcome, Except.map]

theorem tokenBehind_append (start : Position) (before more : List Char) (lexeme : Lexeme) :
    tokenBehind start (before ++ more) lexeme =
      tokenBehind (start.afterAll before) more lexeme := by
  unfold tokenBehind
  rw [List.append_assoc, Position.afterAll_append, Position.afterAll_append]

/-- Pieces may as well be placed from a position further on. -/
theorem outcome_append (start : Position) (before more : List Char) (pieces : List Piece)
    (ending : Option Fault) :
    outcome start (before ++ more) pieces ending =
      outcome (start.afterAll before) more pieces ending := by
  induction pieces generalizing more with
  | nil =>
    cases ending with
    | none => rfl
    | some fault => simp [outcome]
  | cons piece pieces ih =>
    rw [outcome_cons, outcome_cons, List.append_assoc, List.append_assoc, ih, tokenBehind_append]

/-- Reading a text to its end is reading its pieces. -/
theorem tokenize_eq_outcome {config : Config} {source : String} {pieces : List Piece}
    {ending : Option Fault} (h : Reads config (config.body source.toList) pieces ending) :
    HdlLex.tokenize config source =
      outcome (config.startPosition source.toList) [] pieces ending := by
  rw [tokenize_of_reads h]
  cases ending with
  | none => rfl
  | some fault => rfl

-- ---------------------------------------------------------------------------
-- Texts behind other texts
-- ---------------------------------------------------------------------------

/-- Behind a gap, a text splits as on its own, with the gap before its first piece. -/
theorem Reads.behind_gap {config : Config} {gap ahead : List Char} {pieces : List Piece}
    {ending : Option Fault} (h : Reads config ahead pieces ending)
    (hGap : Trivia.IsGap config.nesting ahead gap) :
    ∃ pieces' ending', Reads config (gap ++ ahead) pieces' ending' ∧
      ∀ start before, outcome start before pieces' ending' =
        outcome start (before ++ gap) pieces ending := by
  have hBehind := read_isGap_append hGap
  cases h with
  | @last _ piece hRead hEof =>
    rw [hRead] at hBehind
    refine ⟨[⟨gap ++ piece.gap, piece.lexeme⟩], none, .last hBehind hEof, ?_⟩
    intro start before
    simp [outcome, placed]
  | @fault _ fault hRead =>
    rw [hRead] at hBehind
    refine ⟨[], some (fault.behind gap), .fault hBehind, ?_⟩
    intro start before
    simp [outcome, Fault.errorAt_behind]
  | @more piece ahead pieces _ hRead hMore hLater =>
    rw [hRead] at hBehind
    have hText : gap ++ (piece.written ++ ahead) =
        (gap ++ piece.gap) ++ (piece.lexeme.written ++ ahead) := by
      simp [Piece.written]
    rw [hText] at hBehind ⊢
    refine ⟨⟨gap ++ piece.gap, piece.lexeme⟩ :: pieces, _, hLater.cons hBehind hMore, ?_⟩
    intro start before
    rw [outcome_cons, outcome_cons]
    simp [Piece.written]

/-- Behind a line that is read to its end, a text is read as on its own. -/
theorem Reads.append_feed {config : Config} {cs ahead : List Char} {pieces more : List Piece}
    {ending : Option Fault} (h : Reads config cs pieces none)
    (hAhead : Reads config ahead more ending) :
    ∃ pieces' ending', Reads config (cs ++ '\n' :: ahead) pieces' ending' ∧
      ∀ start before, ∃ tokens last, placed start before pieces = tokens ++ [last] ∧
        last.kind = .eof ∧ outcome start before pieces' ending' =
          (outcome start (before ++ (cs ++ ['\n'])) more ending).map (tokens ++ ·) := by
  generalize hEnd : (none : Option Fault) = none' at h
  induction h with
  | @last cs piece hRead hEof =>
    -- the gap before the end goes on with the line feed
    have hGap := ((read_kind_eof_iff hRead).1 hEof).concat_feed ahead
    obtain ⟨pieces', ending', hReads, hSame⟩ := hAhead.behind_gap hGap
    rw [List.append_assoc] at hReads
    refine ⟨pieces', ending', hReads, fun start before => ?_⟩
    refine ⟨[], tokenBehind start (before ++ piece.gap) piece.lexeme, rfl, hEof, ?_⟩
    rw [hSame]
    cases outcome start (before ++ (cs ++ ['\n'])) more ending with
    | error error => rfl
    | ok tokens => rfl
  | fault => cases hEnd
  | @more piece rest pieces _ hRead hMore _ ih =>
    obtain ⟨pieces', ending', hReads, hSame⟩ := ih hEnd
    have hFirst := read_feed hRead hMore ahead
    rw [List.append_assoc] at hFirst ⊢
    refine ⟨piece :: pieces', ending', .more hFirst hMore hReads, fun start before => ?_⟩
    obtain ⟨tokens, last, hTokens, hLast, hOutcome⟩ := hSame start (before ++ piece.written)
    refine ⟨tokenBehind start (before ++ piece.gap) piece.lexeme :: tokens, last, ?_, hLast, ?_⟩
    · rw [placed, hTokens, List.cons_append]
    · rw [outcome_cons, hOutcome]
      simp only [List.append_assoc]
      cases outcome start (before ++ (piece.written ++ (rest ++ ['\n']))) more ending with
      | error error => rfl
      | ok found => rfl

/-- The fault of a line is met whatever follows the line, unless a block comment is open there. -/
theorem Reads.feed_fault {config : Config} {cs : List Char} {pieces : List Piece} {fault : Fault}
    (h : Reads config cs pieces (some fault)) (hOther : fault.cause ≠ .unclosedComment)
    (ahead : List Char) : Reads config (cs ++ '\n' :: ahead) pieces (some fault) := by
  generalize hEnd : some fault = ending at h
  induction h with
  | last => cases hEnd
  | fault hRead =>
    cases hEnd
    exact .fault (read_feed_error hRead hOther ahead)
  | @more piece rest pieces _ hRead hMore _ ih =>
    have hFirst := read_feed hRead hMore ahead
    rw [List.append_assoc] at hFirst ⊢
    exact .more hFirst hMore (ih hEnd)

-- ---------------------------------------------------------------------------
-- Texts further on
-- ---------------------------------------------------------------------------

theorem tokenBehind_isShifted {shift : Shift} {start moved : Position} {before ahead : List Char}
    {lexeme : Lexeme} (h : shift.Along start moved (before ++ (lexeme.written ++ ahead))) :
    (tokenBehind start before lexeme).IsShifted shift (tokenBehind moved before lexeme) := by
  refine lexeme.toToken_isShifted (h before (List.prefix_append _ _)) (h _ ?_)
  rw [← List.append_assoc]
  exact List.prefix_append _ _

theorem results_map_cons {shift : Shift} {token token' : Token}
    {found moved : Except LexError (List Token)} (h : shift.Stream found moved)
    (hToken : token.IsShifted shift token') :
    shift.Stream (found.map (token :: ·)) (moved.map (token' :: ·)) := by
  cases h with
  | ok hTokens => exact .ok (.cons hToken hTokens)
  | error hError => exact .error hError

/-- The same pieces at shifted positions become the same tokens or the same error, shifted. -/
theorem outcome_shifted {config : Config} {shift : Shift} {start moved : Position}
    {cs : List Char} {pieces : List Piece} {ending : Option Fault}
    (h : Reads config cs pieces ending) (before : List Char)
    (hAlong : shift.Along start moved (before ++ cs)) :
    shift.Stream (outcome start before pieces ending) (outcome moved before pieces ending) := by
  induction h generalizing before with
  | @last cs piece hRead hEof =>
    obtain ⟨hText, -⟩ := read_eof hRead hEof
    rw [hText, ← List.append_assoc] at hAlong
    exact .ok (.cons (tokenBehind_isShifted hAlong) .nil)
  | @fault cs fault hRead =>
    have hLead := (read_fits hRead).lead_isPrefix_text
    simp only [outcome, List.flatMap_nil, List.append_nil]
    exact .error (Fault.errorAt_isShifted hAlong.behind hLead)
  | @more piece ahead pieces ending hRead hMore _ ih =>
    rw [outcome_cons, outcome_cons]
    rw [← List.append_assoc] at hAlong
    refine results_map_cons (ih _ hAlong) ?_
    rw [Piece.written, List.append_assoc, List.append_assoc, ← List.append_assoc] at hAlong
    exact tokenBehind_isShifted hAlong

end Lexer

-- ---------------------------------------------------------------------------
-- Joined texts
-- ---------------------------------------------------------------------------

namespace Config

/-- The mark of a text is that of its first line. -/
theorem passedMark_append_feed (config : Config) (cs ahead : List Char) :
    config.passedMark (cs ++ '\n' :: ahead) = config.passedMark cs := by
  cases cs with
  | nil =>
    have hFeed : ('\n' == byteOrderMark) = false := by decide
    simp [passedMark, hFeed]
  | cons c cs => rfl

theorem body_append_feed (config : Config) (cs ahead : List Char) :
    config.body (cs ++ '\n' :: ahead) = config.body cs ++ '\n' :: ahead := by
  unfold body
  rw [passedMark_append_feed, drop_append_of_isPrefix (config.passedMark_isPrefix cs)]

theorem count_body (config : Config) (cs : List Char) :
    (config.body cs).count '\n' = cs.count '\n' := by
  have hMark : (config.passedMark cs).count '\n' = 0 := by
    rcases config.passedMark_cases cs with hNone | hMark
    · rw [hNone]
      rfl
    · rw [hMark]
      decide
  conv => rhs; rw [← config.passedMark_append_body cs]
  rw [List.count_append, hMark, Nat.zero_add]

/-- The place behind a text and a line feed is further on by the bytes and the lines of both. -/
theorem shift_behind_feed (config : Config) {cs : List Char}
    (h : Position.IsShort (config.body cs ++ ['\n'])) :
    ((config.startPosition cs).afterAll (config.body cs ++ ['\n'])).shift =
      ⟨Text.byteLength cs + 1, cs.count '\n' + 1, 0⟩ := by
  obtain ⟨hLine, hColumn⟩ := Position.toNat_afterAll (Text.byteLength (config.passedMark cs)) h
  have hOffset : ((config.startPosition cs).afterAll (config.body cs ++ ['\n'])).offset =
      Text.byteLength cs + 1 := by
    rw [config.offset_startPosition, ← List.append_assoc, config.passedMark_append_body,
      Text.byteLength_append]
    rfl
  rw [Text.lineOf_append, Text.lineOf, config.count_body] at hLine
  rw [Text.sinceFeed_concat, if_pos rfl] at hColumn
  have hLines : 1 + cs.count '\n' + ['\n'].count '\n' - 1 = cs.count '\n' + 1 := by
    rw [List.count_singleton_self]
    omega
  unfold Position.shift
  rw [hOffset, startPosition, hLine, hLines, hColumn]

end Config

/-- Behind a text and a line feed, the pieces of a text become what they become on their own. -/
theorem Lexer.outcome_behind_feed {config : Config} {a b : String} {pieces : List Piece}
    {ending : Option Fault} (hShort : a.toList.length + b.toList.length < UInt32.size - 2)
    (hMark : config.skipMark = false ∨ b.toList.head? ≠ some byteOrderMark)
    (h : Reads config (config.body b.toList) pieces ending) :
    Shift.Stream ⟨Text.byteLength a.toList + 1, a.toList.count '\n' + 1, 0⟩
      (HdlLex.tokenize config b)
      (outcome (config.startPosition a.toList) (config.body a.toList ++ ['\n']) pieces ending) := by
  have hNoMark := (config.passedMark_eq_nil_iff b.toList).2 hMark
  have hBody := config.body_eq_of_passedMark hNoMark
  have hStart : config.startPosition b.toList = Position.origin := by
    rw [Config.startPosition, hNoMark]
    rfl
  have hBodyLength : (config.body a.toList).length ≤ a.toList.length := by
    unfold Config.body
    rw [List.length_drop]
    omega
  have hWhole : Position.IsShort ((config.body a.toList ++ ['\n']) ++ b.toList) := by
    unfold Position.IsShort
    simp only [List.length_append, List.length_singleton]
    omega
  have hLine : Position.IsShort (config.body a.toList ++ ['\n']) :=
    hWhole.of_append (List.nil_append _).symm
  have hAlong := Shift.along_of_isShort (Text.byteLength (config.passedMark a.toList)) hWhole
  rw [tokenize_eq_outcome h, hStart, ← config.shift_behind_feed hLine]
  rw [hBody] at h
  have hShifted := outcome_shifted h [] hAlong
  rw [← outcome_append, List.append_nil] at hShifted
  exact hShifted

/--
Two texts joined by a line feed yield the tokens of the first one but for its
end, and then those of the second one, or its error, further on by the bytes
and the lines of the first one and the line feed. An error of the first text
stays what it is, unless a block comment is open at its end.
-/
theorem tokenize_lines {config : Config} {a b : String}
    (hShort : a.toList.length + b.toList.length < UInt32.size - 2)
    (hMark : config.skipMark = false ∨ b.toList.head? ≠ some byteOrderMark) :
    let shift : Shift := ⟨Text.byteLength a.toList + 1, a.toList.count '\n' + 1, 0⟩
    (∀ first, tokenize config a = .ok first →
      ∃ tokens last later, first = tokens ++ [last] ∧ last.kind = .eof ∧
        shift.Stream (tokenize config b) later ∧
        tokenize config (a ++ "\n" ++ b) = later.map (tokens ++ ·)) ∧
    ∀ error, tokenize config a = .error error → error.cause ≠ .unclosedComment →
      tokenize config (a ++ "\n" ++ b) = .error error := by
  intro shift
  have hText : (a ++ "\n" ++ b).toList = a.toList ++ '\n' :: b.toList := by
    simp
  have hBody : config.body (a ++ "\n" ++ b).toList =
      config.body a.toList ++ '\n' :: b.toList := by
    rw [hText, config.body_append_feed]
  have hStart : config.startPosition (a ++ "\n" ++ b).toList = config.startPosition a.toList := by
    rw [hText, Config.startPosition, config.passedMark_append_feed]
    rfl
  refine ⟨?_, ?_⟩
  · intro first hFirst
    obtain ⟨pieces, hReads, rfl⟩ := tokenize_eq_ok hFirst
    obtain ⟨more, ending, hMore⟩ := Lexer.exists_reads config (config.body b.toList)
    have hLater := Lexer.outcome_behind_feed hShort hMark hMore
    rw [config.body_eq_of_passedMark ((config.passedMark_eq_nil_iff b.toList).2 hMark)] at hMore
    obtain ⟨pieces', ending', hReads', hSame⟩ := hReads.append_feed hMore
    obtain ⟨tokens, last, hTokens, hLast, hOutcome⟩ := hSame (config.startPosition a.toList) []
    rw [← hBody] at hReads'
    refine ⟨tokens, last, _, hTokens, hLast, hLater, ?_⟩
    rw [Lexer.tokenize_eq_outcome hReads', hStart]
    exact hOutcome
  · intro error hError hOther
    obtain ⟨pieces, ending, hReads⟩ := Lexer.exists_reads config (config.body a.toList)
    have hOutcome := Lexer.tokenize_eq_outcome hReads
    rw [hError] at hOutcome
    cases ending with
    | none => cases hOutcome
    | some fault =>
      cases hOutcome
      have hReads' := hReads.feed_fault hOther b.toList
      rw [← hBody] at hReads'
      rw [Lexer.tokenize_eq_outcome hReads', hStart]
      rfl

/-- A number and a point that the next line does not go on with, and a literal left open. -/
theorem lines_of_split_number :
    let first : List Token := [⟨.number, "1", ⟨3, 4, 1, 1⟩⟩, ⟨.delimiter .dot, ".", ⟨4, 5, 1, 2⟩⟩]
    let shift : Shift := ⟨6, 1, 0⟩
    ("\ufeff1.".toList.length + "5 é".toList.length < UInt32.size - 2 ∧
      "5 é".toList.head? ≠ some byteOrderMark) ∧
    (∃ later, shift.Stream (tokenize {} "5 é") later ∧
      tokenize {} ("\ufeff1." ++ "\n" ++ "5 é") = later.map (first ++ ·)) ∧
    tokenize {} ("\"\\" ++ "\n" ++ "n\"") = .error ⟨.unclosedString, 1, 1⟩ := by
  intro first shift
  have hShort : "\ufeff1.".toList.length + "5 é".toList.length < UInt32.size - 2 := by
    decide
  have hMark : "5 é".toList.head? ≠ some byteOrderMark := by
    decide
  have hFirst : tokenize {} "\ufeff1." = .ok (first ++ [⟨.eof, "", ⟨5, 5, 1, 3⟩⟩]) := by
    decide +kernel
  have hOpen : tokenize {} "\"\\" = .error ⟨.unclosedString, 1, 1⟩ := by
    decide +kernel
  refine ⟨⟨hShort, hMark⟩, ?_, ?_⟩
  · obtain ⟨tokens, last, later, hTokens, -, hLater, hJoined⟩ :=
      (tokenize_lines hShort (Or.inr hMark)).1 _ hFirst
    obtain ⟨rfl, -⟩ := List.append_inj' hTokens rfl
    exact ⟨later, hLater, hJoined⟩
  · have hError := (tokenize_lines (b := "n\"") (by decide) (Or.inr (by decide))).2 _ hOpen
    exact hError (by decide)

end HdlLex
