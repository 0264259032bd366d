import HdlLex.Proofs.LineFeed
import HdlLex.Proofs.Progress

/-!
# Returns — a carriage return in front of every line feed

A carriage return is white space between lexemes, a character like any other in
comments and literals, and the end of words, numbers and symbols. So with a
carriage return in front of every line feed a text is read as before, and its
gaps hold the carriage returns. Only behind a backslash it makes a difference:
a literal that the line feed cuts there has an unknown escape instead.

* `Text.withReturns` — the text with the carriage returns.
* `Lexeme.CutsLiteral` — texts that begin with a literal cut behind a backslash.
* `Returned` — what is read in the text with the carriage returns instead.

Main results:

* `Trivia.gap_withReturns` — gaps and their faults.
* `Lexeme.front_returned`, `Lexeme.front_of_cutsLiteral` — lexemes and theirs.
* `Lexer.read_returned`, `Lexer.read_of_cuts` — what is read of a text.
-/

namespace HdlLex

-- ---------------------------------------------------------------------------
-- Texts
-- ---------------------------------------------------------------------------

namespace Text

/-- The text with a carriage return in front of every line feed. -/
def withReturns (cs : List Char) : List Char :=
  cs.flatMap fun c => if c = '\n' then ['\r', '\n'] else [c]

@[simp]
theorem withReturns_nil : withReturns [] = [] := rfl

@[simp]
theorem withReturns_append (xs ys : List Char) :
    withReturns (xs ++ ys) = withReturns xs ++ withReturns ys :=
  List.flatMap_append

theorem withReturns_feed (cs : List Char) :
    withReturns ('\n' :: cs) = '\r' :: '\n' :: withReturns cs := rfl

theorem withReturns_cons {c : Char} (h : c ≠ '\n') (cs : List Char) :
    withReturns (c :: cs) = c :: withReturns cs := by
  rw [withReturns, List.flatMap_cons, if_neg h]
  rfl

theorem withReturns_eq_self {cs : List Char} (h : '\n' ∉ cs) : withReturns cs = cs := by
  induction cs with
  | nil => rfl
  | cons c cs ih =>
    rw [List.mem_cons, not_or] at h
    rw [withReturns_cons (Ne.symm h.1), ih h.2]

theorem length_le_withReturns (cs : List Char) : cs.length ≤ (withReturns cs).length := by
  induction cs with
  | nil => exact Nat.le_refl 0
  | cons c cs ih =>
    by_cases hFeed : c = '\n'
    · subst hFeed
      rw [withReturns_feed, List.length_cons, List.length_cons, List.length_cons]
      omega
    · rw [withReturns_cons hFeed, List.length_cons, List.length_cons]
      omega

/-- What holds neither of the two characters stands at the front of both texts or of none. -/
theorem isPrefix_withReturns_iff {xs : List Char} (hFeed : '\n' ∉ xs) (hReturn : '\r' ∉ xs)
    (cs : List Char) : xs <+: withReturns cs ↔ xs <+: cs := by
  induction xs generalizing cs with
  | nil => simp
  | cons x xs ih =>
    rw [List.mem_cons, not_or] at hFeed hReturn
    cases cs with
    | nil => rfl
    | cons c cs =>
      by_cases hLine : c = '\n'
      · subst hLine
        rw [withReturns_feed, List.cons_prefix_cons, List.cons_prefix_cons]
        simp [Ne.symm hFeed.1, Ne.symm hReturn.1]
      · rw [withReturns_cons hLine, List.cons_prefix_cons, List.cons_prefix_cons,
          ih hFeed.2 hReturn.2]

end Text

open Text (withReturns withReturns_append withReturns_feed withReturns_cons withReturns_eq_self)

-- ---------------------------------------------------------------------------
-- Comments
-- ---------------------------------------------------------------------------

/-- The same fault in the text with the carriage returns. -/
def Fault.withReturns (fault : Fault) : Fault :=
  ⟨fault.cause, Text.withReturns fault.lead, Text.withReturns fault.passed⟩

/-- The same gap or fault in the text with the carriage returns. -/
def Trivia.withReturns : Except Fault (List Char) → Except Fault (List Char)
  | .ok gap => .ok (Text.withReturns gap)
  | .error fault => .error fault.withReturns

theorem Trivia.withReturns_before (cs : List Char) (found : Except Fault (List Char)) :
    withReturns (before cs found) = before (Text.withReturns cs) (withReturns found) := by
  cases found with
  | ok gap => simp [before, withReturns]
  | error fault => simp [before, withReturns, Fault.withReturns, Fault.behind]

namespace Comment

/-- The same in the text with the carriage returns. -/
def Inside.withReturns : Inside → Inside
  | .closed written => .closed (Text.withReturns written)
  | .unclosed => .unclosed
  | .tooDeep before limit => .tooDeep (Text.withReturns before) limit

theorem Inside.withReturns_behind (cs : List Char) (found : Inside) :
    (found.behind cs).withReturns = found.withReturns.behind (Text.withReturns cs) := by
  cases found with
  | closed written => simp [behind, withReturns]
  | unclosed => rfl
  | tooDeep before limit => simp [behind, withReturns]

/-- A character that belongs to no mark is passed over, even at the end of the text. -/
theorem inside_cons {nesting : Option UInt32} {outer : Nat} {c : Char} (h : c ∉ ['*', '/'])
    (cs : List Char) : inside nesting outer (c :: cs) = (inside nesting outer cs).behind [c] := by
  simp only [List.mem_cons, List.not_mem_nil, or_false, not_or] at h
  cases cs with
  | nil =>
    rw [inside, inside]
    rfl
  | cons d cs => simp [inside, h.1, h.2]

/-- Where no mark stands, a character is passed over in both texts. -/
theorem inside_withReturns_char {nesting : Option UInt32} {outer : Nat} {c d : Char}
    {cs : List Char} (hClose : ¬ ['*', '/'] <+: c :: d :: cs)
    (hOpen : ¬ ['/', '*'] <+: c :: d :: cs) :
    inside nesting outer (Text.withReturns (c :: d :: cs)) =
      (inside nesting outer (Text.withReturns (d :: cs))).behind (Text.withReturns [c]) := by
  by_cases hFeed : c = '\n'
  · subst hFeed
    rw [withReturns_feed, inside_cons (by decide), inside_cons (by decide),
      Inside.behind_behind]
    rfl
  · have hMark : ∀ xs : List Char, '\n' ∉ xs → '\r' ∉ xs → ¬ xs <+: c :: d :: cs →
        ¬ xs <+: c :: Text.withReturns (d :: cs) := by
      intro xs hNoFeed hNoReturn hNot
      rw [← withReturns_cons hFeed]
      exact mt (Text.isPrefix_withReturns_iff hNoFeed hNoReturn _).1 hNot
    have hClose' := hMark ['*', '/'] (by decide) (by decide) hClose
    have hOpen' := hMark ['/', '*'] (by decide) (by decide) hOpen
    rw [withReturns_cons hFeed, withReturns_cons hFeed, Text.withReturns_nil]
    -- with or without a carriage return the text goes on
    cases hText : Text.withReturns (d :: cs) with
    | nil =>
      rw [inside, inside]
      rfl
    | cons e rest =>
      rw [hText] at hClose' hOpen'
      exact inside_char hClose' fun _ => hOpen'

/-- Marks stand where they stood, and the carriage returns between them. -/
theorem inside_withReturns (nesting : Option UInt32) (outer : Nat) (cs : List Char) :
    inside nesting outer (Text.withReturns cs) = (inside nesting outer cs).withReturns := by
  fun_induction inside nesting outer cs with
  | case1 =>
    rw [Text.withReturns_nil, inside]
    rfl
  | case2 outer c =>
    by_cases hFeed : c = '\n'
    · subst hFeed
      rw [withReturns_feed, inside_cons (by decide), Text.withReturns_nil, inside]
      rfl
    · rw [withReturns_cons hFeed, Text.withReturns_nil, inside]
      rfl
  | case3 c d cs hMark =>
    obtain ⟨rfl, rfl⟩ : c = '*' ∧ d = '/' := by simpa using hMark
    exact inside_close nesting 0 _
  | case4 c d cs hMark outer ih =>
    obtain ⟨rfl, rfl⟩ : c = '*' ∧ d = '/' := by simpa using hMark
    rw [Inside.withReturns_behind, ← ih]
    exact inside_close nesting (outer + 1) _
  | case5 outer c d cs hNot hMark hFlat ih =>
    subst hFlat
    obtain ⟨rfl, rfl⟩ : c = '/' ∧ d = '*' := by simpa using hMark
    rw [Inside.withReturns_behind, ← ih]
    show inside none outer ('/' :: '*' :: Text.withReturns cs) = _
    rw [inside_char (by simp [List.cons_prefix_cons]) (by simp)]
    rfl
  | case6 outer c d cs hNot hMark limit hNests hDeep =>
    subst hNests
    obtain ⟨rfl, rfl⟩ : c = '/' ∧ d = '*' := by simpa using hMark
    show inside (some limit) outer ('/' :: '*' :: Text.withReturns cs) = _
    rw [inside.eq_def]
    simp [hDeep, Inside.withReturns]
  | case7 outer c d cs hNot hMark limit hNests hDeep ih =>
    subst hNests
    obtain ⟨rfl, rfl⟩ : c = '/' ∧ d = '*' := by simpa using hMark
    rw [Inside.withReturns_behind, ← ih]
    exact inside_open hDeep _
  | case8 outer c d cs hNotClose hNotOpen ih =>
    have hClose : ¬ ['*', '/'] <+: c :: d :: cs := by
      rintro ⟨rest, hText⟩
      cases hText
      exact hNotClose rfl
    have hOpen : ¬ ['/', '*'] <+: c :: d :: cs := by
      rintro ⟨rest, hText⟩
      cases hText
      exact hNotOpen rfl
    rw [inside_withReturns_char hClose hOpen, ih, Inside.withReturns_behind]

theorem block_withReturns (nesting : Option UInt32) (cs : List Char) :
    block nesting (Text.withReturns cs) = Trivia.withReturns (block nesting cs) := by
  rw [block, block, inside_withReturns]
  cases inside nesting 0 cs with
  | closed written => rfl
  | unclosed => rfl
  | tooDeep before limit => rfl

end Comment

-- ---------------------------------------------------------------------------
-- Gaps
-- ---------------------------------------------------------------------------

namespace Trivia

/-- A lexeme begins in both texts, or in none. -/
theorem StartsLexeme.withReturns {cs : List Char} (h : StartsLexeme cs) :
    StartsLexeme (Text.withReturns cs) where
  not_blank := by
    cases cs with
    | nil => exact StopsBefore.nil _
    | cons c cs =>
      have hNotBlank := h.not_blank c rfl
      have hFeed : c ≠ '\n' := by
        rintro rfl
        exact absurd hNotBlank (by decide +kernel)
      rw [withReturns_cons hFeed]
      exact StopsBefore.cons hNotBlank _
  not_line := by
    rw [Text.isPrefix_withReturns_iff (by decide) (by decide)]
    exact h.not_line
  not_block := by
    rw [Text.isPrefix_withReturns_iff (by decide) (by decide)]
    exact h.not_block

/-- A line comment is passed over up to a line feed or the end. -/
theorem gap_line {nesting : Option UInt32} {body ahead : List Char} (hBody : '\n' ∉ body)
    (hEnd : ahead = [] ∨ ahead.head? = some '\n') :
    gap nesting ('/' :: '/' :: (body ++ ahead)) =
      before ('/' :: '/' :: body) (gap nesting ahead) := by
  have hLine : IsGap nesting ahead ('/' :: '/' :: (body ++ [])) := .line hBody hEnd .nil
  rw [List.append_nil] at hLine
  exact gap_isGap_append hLine

/-- The carriage return behind a line comment becomes a part of it. -/
theorem gap_line_withReturns {nesting : Option UInt32} {body ahead : List Char}
    (hBody : '\n' ∉ body) (hEnd : ahead = [] ∨ ahead.head? = some '\n') :
    gap nesting (Text.withReturns ('/' :: '/' :: (body ++ ahead))) =
      before ('/' :: '/' :: body) (gap nesting (Text.withReturns ahead)) := by
  have hText : Text.withReturns ('/' :: '/' :: (body ++ ahead)) =
      '/' :: '/' :: (body ++ Text.withReturns ahead) := by
    show '/' :: '/' :: Text.withReturns (body ++ ahead) = _
    rw [withReturns_append, withReturns_eq_self hBody]
  rw [hText]
  rcases hEnd with rfl | hFeed
  · exact gap_line hBody (Or.inl rfl)
  · obtain ⟨rest, rfl⟩ := List.head?_eq_some_iff.1 hFeed
    have hLonger : '\n' ∉ body ++ ['\r'] := by simp [hBody]
    have hReturn : Text.isBlank '\r' = true := by decide +kernel
    have hLine := @gap_line nesting _ ('\n' :: Text.withReturns rest) hLonger (Or.inr rfl)
    rw [List.append_assoc] at hLine
    rw [withReturns_feed, gap_blank hReturn, before_before]
    exact hLine

theorem gap_withReturns (nesting : Option UInt32) (cs : List Char) :
    gap nesting (Text.withReturns cs) = withReturns (gap nesting cs) := by
  fun_induction gap nesting cs with
  | case1 =>
    rw [Text.withReturns_nil, gap]
    rfl
  | case2 c cs hBlank ih =>
    rw [withReturns_before, ← ih]
    by_cases hFeed : c = '\n'
    · subst hFeed
      have hReturn : Text.isBlank '\r' = true := by decide +kernel
      rw [withReturns_feed, gap_blank hReturn, gap_blank hBlank, before_before]
      rfl
    · rw [withReturns_cons hFeed, withReturns_cons hFeed, gap_blank hBlank]
      rfl
  | case3 c cs hBlank hNone =>
    exact gap_of_startsLexeme (startsLexeme_of_front?_eq_none hBlank hNone).withReturns
  | case4 c cs hBlank fault hFound =>
    rcases Comment.front?_eq_some hFound with ⟨body, -, hLine⟩ | ⟨rest, hText, hBlock⟩
    · cases hLine
    · have hReturned := Comment.block_withReturns nesting rest
      rw [← hBlock] at hReturned
      have hOther : Comment.front? nesting ('/' :: '*' :: Text.withReturns rest) =
          some (withReturns (.error fault)) := congrArg some hReturned
      rw [hText]
      show gap nesting ('/' :: '*' :: Text.withReturns rest) = _
      rw [gap_of_not_blank (by decide +kernel), hOther]
      rfl
  | case5 c cs hBlank comment hFound ih =>
    rw [withReturns_before]
    obtain ⟨more, hSplit⟩ := Comment.front?_isPrefix hFound
    rw [← hSplit, List.drop_left] at ih ⊢
    rw [← ih]
    rcases Comment.front?_eq_some hFound with ⟨body, hText, hLine⟩ | ⟨rest, hText, hBlock⟩
    · obtain ⟨line, ahead, rfl, hFeed, hEnd⟩ := exists_line body
      rw [takeWhile_line hFeed hEnd] at hLine
      cases hLine
      obtain rfl : ahead = more := by simpa [hText] using hSplit.symm
      have hSame : Text.withReturns ('/' :: '/' :: line) = '/' :: '/' :: line :=
        withReturns_eq_self (by simp [hFeed])
      rw [hSame]
      exact gap_line_withReturns hFeed hEnd
    · obtain ⟨d, tail, rfl⟩ := List.exists_cons_of_ne_nil (Comment.front?_ne_nil hFound)
      obtain ⟨rfl, hRest⟩ := List.cons.inj (hSplit.trans hText)
      have hReturned := Comment.block_withReturns nesting rest
      rw [← hBlock] at hReturned
      have hFront : Comment.front? nesting
          (Text.withReturns ('/' :: tail) ++ Text.withReturns more) =
            some (.ok (Text.withReturns ('/' :: tail))) := by
        rw [← withReturns_append, hSplit, hText]
        exact congrArg some hReturned
      rw [withReturns_append]
      exact gap_comment rfl hFront

end Trivia

/-- What is read of a text, and what is read with the carriage returns: the same, but for them. -/
inductive Returned {α : Type} (convert : α → α) : Except Fault α → Except Fault α → Prop
  | ok (value : α) : Returned convert (.ok value) (.ok (convert value))
  | error {fault found : Fault} : found.cause = fault.cause →
      found.lead = Text.withReturns fault.lead → Returned convert (.error fault) (.error found)

-- ---------------------------------------------------------------------------
-- Lexemes
-- ---------------------------------------------------------------------------

namespace Lexeme

/-- The text begins with a literal that a line feed cuts directly behind a backslash. -/
def CutsLiteral (quote : Char) (written text : List Char) : Prop :=
  quote ∈ ['"', '\''] ∧ ∃ meaning ahead, Encodes quote meaning written ∧
    text = quote :: (written ++ '\\' :: '\n' :: ahead)

/-- Such a literal is left open. -/
theorem front_of_cutsLiteral (config : Config) {quote : Char} {written text : List Char}
    (h : CutsLiteral quote written text) :
    front config text = .error ⟨openCause quote, [], quote :: (written ++ ['\\'])⟩ := by
  obtain ⟨hQuote, meaning, ahead, hEncodes, rfl⟩ := h
  obtain ⟨hBackslash, -⟩ := ne_of_mem_quotes hQuote
  apply front_of_unclosed config hQuote
  rw [inside_encodes_append hEncodes hBackslash, inside_of_lineEnds_escape hBackslash (Or.inr rfl)]
  rfl

/-- With the carriage returns its backslash stands before one, which is an unknown escape. -/
theorem front_withReturns_of_cutsLiteral (config : Config) {quote : Char}
    {written text : List Char} (h : CutsLiteral quote written text) :
    front config (Text.withReturns text) =
      .error ⟨.unknownEscape '\r', quote :: written, quote :: (written ++ ['\\'])⟩ := by
  obtain ⟨hQuote, meaning, ahead, hEncodes, rfl⟩ := h
  obtain ⟨hBackslash, hFeed⟩ := ne_of_mem_quotes hQuote
  have hText : Text.withReturns (quote :: (written ++ '\\' :: '\n' :: ahead)) =
      quote :: (written ++ '\\' :: '\r' :: '\n' :: Text.withReturns ahead) := by
    rw [withReturns_cons hFeed, withReturns_append, withReturns_eq_self hEncodes.lineFeed_not_mem]
    rfl
  have hNone : ∀ y, ('\r', y) ∉ escapes := by
    intro y hMem
    rw [← unescape?_eq_some_iff] at hMem
    cases hMem
  rw [hText]
  apply front_of_stray config hQuote
  rw [inside_encodes_append hEncodes hBackslash, inside_of_stray hBackslash (by decide) hNone]
  simp [Inside.behind]

/-- A literal that its line leaves open is left open behind a carriage return, too. -/
theorem inside_return {quote : Char} (hQuote : quote ∈ ['"', '\'']) (ahead : List Char) :
    inside quote ('\r' :: '\n' :: ahead) = .unclosed ['\r'] := by
  have hReturn : '\r' ≠ quote := (ne_of_mem_of_not_mem hQuote (by decide)).symm
  have hEncodes : Encodes quote ['\r'] ['\r'] := .raw hReturn (by decide) (by decide) .nil
  obtain ⟨hBackslash, hFeed⟩ := ne_of_mem_quotes hQuote
  have hEnds : LineEnds ('\n' :: ahead) := Or.inr rfl
  have hInside := inside_encodes_append hEncodes hBackslash ('\n' :: ahead)
  rw [inside_of_lineEnds hFeed hEnds] at hInside
  exact hInside

/-- The fault of a literal that is left open begins where the literal does. -/
theorem Fails.lead_eq_nil {config : Config} {text : List Char} {fault : Fault}
    (h : Fails config text fault) {quote : Char} (hOpen : fault.cause = openCause quote) :
    fault.lead = [] := by
  cases h with
  | noDigits => rfl
  | unclosed => rfl
  | unclosedEscape => rfl
  | unknownEscape => exact absurd hOpen.symm (openCause_ne (by simp) (by simp) quote)
  | notOneChar => rfl
  | unexpected => rfl

/-- A text of one line that fails does so before a carriage return, unless a backslash ends it. -/
theorem Fails.returned {config : Config} {text : List Char} {fault : Fault}
    (h : Fails config text fault) (hFeed : '\n' ∉ text)
    (hWhole : ∀ quote meaning written, quote ∈ ['"', '\''] → Encodes quote meaning written →
      text ≠ quote :: (written ++ ['\\'])) (ahead : List Char) :
    ∃ passed, front config (text ++ '\r' :: '\n' :: ahead) =
      .error ⟨fault.cause, fault.lead, passed⟩ := by
  have hLineEnds : ∀ {xs : List Char}, LineEnds xs → '\n' ∉ xs → xs = [] := by
    intro xs hEnds hNot
    rcases hEnds with hNil | hHead
    · exact hNil
    · exact absurd (List.mem_of_mem_head? hHead) hNot
  cases h with
  | @noDigits m radix digits hMark hNone =>
    refine ⟨_, front_eq_error_iff.2 (.noDigits hMark ?_)⟩
    intro d hHead
    cases digits with
    | nil =>
      obtain rfl : '\r' = d := Option.some.inj hHead
      cases radix <;> decide
    | cons e digits => exact hNone d hHead
  | @unclosed quote text meaning written rest hQuote hBody hEnds =>
    have hRest : '\n' ∉ rest := by
      intro hMem
      exact hFeed (by simp [hBody.text_eq, hMem])
    obtain rfl := hLineEnds hEnds hRest
    have hInside : inside quote (text ++ '\r' :: '\n' :: ahead) = .unclosed (written ++ ['\r']) := by
      rw [hBody.text_eq, List.append_nil,
        inside_encodes_append hBody.encodes (ne_of_mem_quotes hQuote).1, inside_return hQuote]
      rfl
    exact ⟨_, front_of_unclosed config hQuote hInside⟩
  | @unclosedEscape quote text meaning written rest hQuote hBody hEnds =>
    have hRest : '\n' ∉ rest := by
      intro hMem
      exact hFeed (by simp [hBody.text_eq, hMem])
    obtain rfl := hLineEnds hEnds hRest
    exact absurd (by rw [hBody.text_eq]) (hWhole quote meaning written hQuote hBody.encodes)
  | @unknownEscape quote x text meaning written rest hQuote hBody hLine hNone =>
    have hBackslash := (ne_of_mem_quotes hQuote).1
    have hInside : inside quote (text ++ '\r' :: '\n' :: ahead) = .stray written x := by
      rw [hBody.text_eq, List.append_assoc, inside_encodes_append hBody.encodes hBackslash]
      simp only [List.cons_append]
      rw [inside_of_stray hBackslash hLine hNone]
      simp [Inside.behind]
    exact ⟨_, front_of_stray config hQuote hInside⟩
  | @notOneChar text meaning written rest hBody hNotOne =>
    refine ⟨'\'' :: written ++ ['\''], ?_⟩
    rw [List.cons_append, front_char, char, hBody.text_eq, List.append_assoc, List.cons_append,
      inside_append hBody.encodes (by decide)]
    exact if_neg hNotOne
  | unexpected hPolicy hNone => exact ⟨[], front_of_unexpected _ hPolicy hNone⟩

/-- The front of a text is read alike with the carriage returns, unless it cuts a literal. -/
theorem front_returned {config : Config} {c : Char} {cs : List Char} (hFeed : c ≠ '\n')
    (h : ∀ quote written, ¬ CutsLiteral quote written (c :: cs)) :
    Returned id (front config (c :: cs)) (front config (Text.withReturns (c :: cs))) := by
  -- no lexeme and no fault lies behind the first line
  obtain ⟨line, rest, rfl, hLine, hEnd⟩ := exists_line cs
  have hNoFeed : '\n' ∉ c :: line := by simp [Ne.symm hFeed, hLine]
  have hLead : ∀ {fault : Fault}, front config (c :: line) = .error fault →
      fault.lead = Text.withReturns fault.lead := by
    intro fault hFault
    have hPrefix := (front_fits hFault).lead_isPrefix_text
    exact (withReturns_eq_self fun hMem => hNoFeed (hPrefix.subset hMem)).symm
  rw [withReturns_cons hFeed, withReturns_append, withReturns_eq_self hLine]
  rcases hEnd with rfl | hHead
  · rw [Text.withReturns_nil, List.append_nil]
    cases hFront : front config (c :: line) with
    | ok lexeme => exact .ok lexeme
    | error fault => exact .error rfl (hLead hFront)
  · obtain ⟨ahead, rfl⟩ := List.head?_eq_some_iff.1 hHead
    have hSame := front_feed config c line ahead
    rw [List.cons_append] at hSame
    rw [hSame, withReturns_feed, ← List.cons_append]
    cases hFront : front config (c :: line) with
    | ok lexeme =>
      have hBounds : Bounds config.unicodeWords ('\r' :: '\n' :: Text.withReturns ahead) :=
        Bounds.of_isBlank (by decide +kernel) config.unicodeWords _
      rw [(front_bounds_iff hBounds (front_isPrefix hFront)).2 hFront]
      exact .ok lexeme
    | error fault =>
      obtain ⟨passed, hReturned⟩ := (fails_of_front hFront).returned hNoFeed (by
        intro quote meaning written hQuote hEncodes hText
        refine h quote written ⟨hQuote, meaning, ahead, hEncodes, ?_⟩
        rw [← List.cons_append, hText]
        simp) (Text.withReturns ahead)
      have hSameLead := hLead hFront
      rw [hReturned]
      exact .error rfl hSameLead

end Lexeme

-- ---------------------------------------------------------------------------
-- Readings
-- ---------------------------------------------------------------------------

/-- The fault of a text is that of a literal which a line feed cuts directly behind a backslash. -/
def Fault.Cuts (fault : Fault) (cs : List Char) (quote : Char) (written : List Char) : Prop :=
  fault.cause = Lexeme.openCause quote ∧
    Lexeme.CutsLiteral quote written (cs.drop fault.lead.length)

namespace Lexer

/-- Behind its gap a text with the carriage returns is read as without the gap. -/
theorem read_withReturns {config : Config} {gap ahead : List Char}
    (h : Trivia.gap config.nesting (gap ++ ahead) = .ok gap) :
    read config (Text.withReturns (gap ++ ahead)) =
      match Lexeme.front config (Text.withReturns ahead) with
      | .error fault => .error (fault.behind (Text.withReturns gap))
      | .ok lexeme => .ok (Text.withReturns gap, lexeme) := by
  have hGap := Trivia.gap_withReturns config.nesting (gap ++ ahead)
  rw [h] at hGap
  unfold read
  rw [hGap]
  cases hFront : Lexeme.front config (Text.withReturns ahead) with
  | error fault => simp only [Trivia.withReturns, withReturns_append, List.drop_left, hFront]
  | ok lexeme => simp only [Trivia.withReturns, withReturns_append, List.drop_left, hFront]

/-- What is read of a text is read with the carriage returns, unless a literal is cut. -/
theorem read_returned {config : Config} {cs : List Char}
    (h : ∀ fault, read config cs = .error fault → ∀ quote written, ¬ fault.Cuts cs quote written) :
    Returned (fun found => (Text.withReturns found.1, found.2)) (read config cs)
      (read config (Text.withReturns cs)) := by
  cases hGap : Trivia.gap config.nesting cs with
  | error fault =>
    have hReturned := Trivia.gap_withReturns config.nesting cs
    rw [hGap] at hReturned
    unfold read
    rw [hGap, hReturned]
    exact .error rfl rfl
  | ok gap =>
    obtain ⟨ahead, rfl⟩ := Trivia.gap_isPrefix hGap
    obtain ⟨hIsGap, hStarts⟩ := Trivia.gap_eq_ok_iff.1 hGap
    have hRead := read_behind_gap hIsGap hStarts
    have hFront : Returned id (Lexeme.front config ahead)
        (Lexeme.front config (Text.withReturns ahead)) := by
      cases ahead with
      | nil => exact .ok _
      | cons c rest =>
        have hFeed : c ≠ '\n' := by
          rintro rfl
          exact absurd (hStarts.not_blank '\n' rfl) (by decide +kernel)
        refine Lexeme.front_returned hFeed fun quote written hCuts => ?_
        rw [Lexeme.front_of_cutsLiteral config hCuts] at hRead
        refine h _ hRead quote written ⟨rfl, ?_⟩
        simpa [Fault.behind] using hCuts
    rw [read_withReturns hGap, hRead]
    generalize Lexeme.front config ahead = found at hFront
    generalize Lexeme.front config (Text.withReturns ahead) = moved at hFront
    cases hFront with
    | ok lexeme => exact .ok (gap, lexeme)
    | error hCause hLead =>
      refine .error hCause ?_
      simp [Fault.behind, hLead]

theorem read_withReturns_of_ok {config : Config} {cs gap : List Char} {lexeme : Lexeme}
    (h : read config cs = .ok (gap, lexeme)) :
    read config (Text.withReturns cs) = .ok (Text.withReturns gap, lexeme) := by
  have hReturned := @read_returned config cs (by simp [h])
  rw [h] at hReturned
  generalize read config (Text.withReturns cs) = moved at hReturned
  cases hReturned
  rfl

/-- A literal that is cut has an unknown escape with the carriage returns. -/
theorem read_of_cuts {config : Config} {cs : List Char} {fault : Fault}
    (h : read config cs = .error fault) {quote : Char} {written : List Char}
    (hCuts : fault.Cuts cs quote written) :
    ∃ passed, read config (Text.withReturns cs) =
      .error ⟨.unknownEscape '\r', Text.withReturns (fault.lead ++ quote :: written), passed⟩ := by
  obtain ⟨hCause, hLiteral⟩ := hCuts
  rcases read_eq_error h with hGap | ⟨gap, ahead, f, rfl, hGap, hFront, rfl⟩
  · -- the faults of comments are others
    rcases (Trivia.gap_error hGap).1 with hComment | ⟨limit, hComment⟩
    · exact absurd (hCause.symm.trans hComment) (Lexeme.openCause_ne (by simp) (by simp) quote)
    · exact absurd (hCause.symm.trans hComment) (Lexeme.openCause_ne (by simp) (by simp) quote)
  · have hLead : f.lead = [] := (Lexeme.fails_of_front hFront).lead_eq_nil hCause
    have hText : (gap ++ ahead).drop (f.behind gap).lead.length = ahead := by
      simp [Fault.behind, hLead]
    rw [hText] at hLiteral
    have hSame : Text.withReturns (quote :: written) = quote :: written := by
      obtain ⟨hQuote, meaning, rest, hEncodes, -⟩ := hLiteral
      rw [withReturns_cons (Lexeme.ne_of_mem_quotes hQuote).2,
        withReturns_eq_self hEncodes.lineFeed_not_mem]
    have hSpot : Text.withReturns ((f.behind gap).lead ++ quote :: written) =
        Text.withReturns gap ++ quote :: written := by
      simp [Fault.behind, hLead, hSame]
    rw [read_withReturns hGap, Lexeme.front_withReturns_of_cutsLiteral config hLiteral, hSpot]
    exact ⟨_, rfl⟩

end Lexer

end HdlLex
