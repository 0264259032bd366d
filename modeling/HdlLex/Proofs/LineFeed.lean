import HdlLex.Proofs.Bounds
import HdlLex.Proofs.Failure
import HdlLex.Proofs.Stream

/-!
# Line feed — where a line ends, a text might as well end

No lexeme goes on past a line feed, and none looks behind one: at the end of a
line the front of a text is read as at the end of the text. The same holds of
gaps, except that a gap that reaches the end of the line goes on behind it, and
of faults, except that a block comment may be closed on a later line.

Main results:

* `Lexeme.front_feed` — a line feed ends a lexeme as the end of the text does.
* `Lexer.read_feed`, `Lexer.read_feed_error` — what is read on a line, and what
  cannot be read there, whatever follows the line.
* `Lexer.read_isGap_append` — behind a gap, reading is reading what follows.
-/

namespace HdlLex

-- ---------------------------------------------------------------------------
-- Lexemes
-- ---------------------------------------------------------------------------

namespace Lexeme

/-- A literal is open at the end of the line as at the end of the text. -/
theorem inside_feed {quote : Char} (h : quote ≠ '\n') (cs ahead : List Char) :
    inside quote (cs ++ '\n' :: ahead) = inside quote cs := by
  fun_induction inside quote cs with
  | case1 =>
    rw [List.nil_append, inside.eq_def]
    simp only [if_neg (Ne.symm h), if_true]
  | case2 cs =>
    rw [List.cons_append, inside.eq_def]
    simp only [if_true]
  | case3 cs hOther =>
    rw [List.cons_append, inside.eq_def]
    simp only [if_neg hOther, if_true]
  | case4 hOther hFeed =>
    -- a backslash before the line feed leaves the literal open
    rw [List.cons_append, inside.eq_def]
    simp only [if_neg hOther, if_neg hFeed, if_true, List.nil_append]
  | case5 rest hOther hFeed =>
    rw [List.cons_append, inside.eq_def]
    simp only [if_neg hOther, if_neg hFeed, if_true, List.cons_append]
  | case6 e rest hLine x hEscape hOther hFeed ih =>
    rw [List.cons_append, List.cons_append, inside.eq_def]
    simp only [if_neg hOther, if_neg hFeed, if_neg hLine, if_true, hEscape, ih]
  | case7 e rest hLine hNone hOther hFeed =>
    rw [List.cons_append, List.cons_append, inside.eq_def]
    simp only [if_neg hOther, if_neg hFeed, if_neg hLine, if_true, hNone]
  | case8 c cs hOther hFeed hSlash ih =>
    rw [List.cons_append, inside.eq_def]
    simp only [if_neg hOther, if_neg hFeed, if_neg hSlash, ih]

/-- What holds no line feed stands at the front of the line if it does so at the front of more. -/
theorem isPrefix_feed_iff {xs : List Char} (h : '\n' ∉ xs) (cs ahead : List Char) :
    xs <+: cs ++ '\n' :: ahead ↔ xs <+: cs :=
  @isPrefix_stop_iff (· != '\n') xs ('\n' :: ahead) (all_bne_of_not_mem h)
    (StopsBefore.cons rfl ahead) cs

/-- A line feed ends a lexeme as the end of the text does, and a fault as well. -/
theorem front_feed (config : Config) (c : Char) (cs ahead : List Char) :
    front config (c :: cs ++ '\n' :: ahead) = front config (c :: cs) := by
  have hBounds : Bounds config.unicodeWords ('\n' :: ahead) :=
    Bounds.of_isBlank (by decide +kernel) config.unicodeWords ahead
  rw [List.cons_append, front_cons, front_cons, ← List.cons_append]
  cases opening config.unicodeWords c with
  | word =>
    simp only [word]
    rw [takeWhile_stop hBounds.word]
  | number => exact number_bounds hBounds.number (c :: cs)
  | string =>
    simp only [string]
    rw [inside_feed (by decide)]
  | char =>
    simp only [char]
    rw [inside_feed (by decide)]
  | symbol =>
    simp only
    rw [symbol?_bounds hBounds.operator]

end Lexeme

-- ---------------------------------------------------------------------------
-- Comments
-- ---------------------------------------------------------------------------

namespace Comment

theorem Inside.behind_eq_unclosed_iff {cs : List Char} {found : Inside} :
    found.behind cs = .unclosed ↔ found = .unclosed := by
  cases found <;> simp [Inside.behind]

/-- Where a block comment is closed or nests too deep, it does not matter what follows. -/
theorem inside_append {nesting : Option UInt32} {outer : Nat} {cs : List Char}
    (h : inside nesting outer cs ≠ .unclosed) (ahead : List Char) :
    inside nesting outer (cs ++ ahead) = inside nesting outer cs := by
  fun_induction inside nesting outer cs with
  | case1 => exact absurd rfl h
  | case2 => exact absurd rfl h
  | case3 c d cs hClose =>
    rw [List.cons_append, List.cons_append, inside.eq_def]
    simp only [if_pos hClose]
  | case4 c d cs hClose outer ih =>
    rw [List.cons_append, List.cons_append, inside.eq_def]
    simp only [if_pos hClose]
    rw [ih (mt Inside.behind_eq_unclosed_iff.2 h)]
  | case5 outer c d cs hNot hOpen hFlat ih =>
    subst hFlat
    rw [List.cons_append, List.cons_append, inside.eq_def]
    simp only [if_neg hNot, if_pos hOpen]
    rw [← List.cons_append, ih (mt Inside.behind_eq_unclosed_iff.2 h)]
  | case6 outer c d cs hNot hOpen limit hNests hDeep =>
    subst hNests
    rw [List.cons_append, List.cons_append, inside.eq_def]
    simp only [if_neg hNot, if_pos hOpen, if_pos hDeep]
  | case7 outer c d cs hNot hOpen limit hNests hDeep ih =>
    subst hNests
    rw [List.cons_append, List.cons_append, inside.eq_def]
    simp only [if_neg hNot, if_pos hOpen, if_neg hDeep]
    rw [ih (mt Inside.behind_eq_unclosed_iff.2 h)]
  | case8 outer c d cs hNot hNot' ih =>
    rw [List.cons_append, List.cons_append, inside.eq_def]
    simp only [if_neg hNot, if_neg hNot']
    rw [← List.cons_append, ih (mt Inside.behind_eq_unclosed_iff.2 h)]

theorem block_append_of_ne {nesting : Option UInt32} {cs : List Char}
    (h : ∀ fault, block nesting cs = .error fault → fault.cause ≠ .unclosedComment)
    (ahead : List Char) : block nesting (cs ++ ahead) = block nesting cs := by
  have hInside : inside nesting 0 cs ≠ .unclosed := by
    intro hOpen
    refine h ⟨.unclosedComment, [], '/' :: '*' :: cs⟩ ?_ rfl
    rw [block, hOpen]
  unfold block
  rw [inside_append hInside]
  split
  · rfl
  · next hOpen => exact absurd hOpen hInside
  · rfl

/-- A line comment ends before a line feed, and a block comment that ends goes on as it is. -/
theorem front?_feed {nesting : Option UInt32} {c : Char} {cs : List Char}
    (h : ∀ fault, front? nesting (c :: cs) = some (.error fault) → fault.cause ≠ .unclosedComment)
    (ahead : List Char) :
    front? nesting (c :: cs ++ '\n' :: ahead) = front? nesting (c :: cs) := by
  by_cases hSlash : c = '/'
  · subst hSlash
    cases cs with
    | nil => rfl
    | cons d cs =>
      by_cases hLine : d = '/'
      · subst hLine
        simp only [front?, List.cons_append]
        rw [takeWhile_stop (StopsBefore.cons rfl ahead)]
      · by_cases hStar : d = '*'
        · subst hStar
          simp only [front?, List.cons_append]
          rw [block_append_of_ne]
          intro fault hFault
          refine h fault ?_
          simp only [front?, hFault]
        · simp [front?, hLine, hStar]
  · simp [front?, hSlash]

end Comment

-- ---------------------------------------------------------------------------
-- Gaps
-- ---------------------------------------------------------------------------

namespace Trivia

theorem IsGap.append {nesting : Option UInt32} {first second ahead : List Char}
    (h : IsGap nesting (second ++ ahead) first) (hSecond : IsGap nesting ahead second) :
    IsGap nesting ahead (first ++ second) := by
  induction h with
  | nil => exact hSecond
  | blank hBlank _ ih => exact .blank hBlank ih
  | @line body gap hBody hEnd _ ih =>
    rw [← List.append_assoc] at hEnd
    have hLine := IsGap.line hBody hEnd ih
    simpa using hLine
  | @block comment gap hBlock _ ih =>
    rw [List.append_assoc]
    exact .block hBlock ih

/-- A gap is one in front of a line feed, too, at which a line comment may end. -/
theorem IsGap.feed {nesting : Option UInt32} {gap ahead : List Char}
    (h : IsGap nesting ahead gap) (behind : List Char) :
    IsGap nesting (ahead ++ '\n' :: behind) gap := by
  induction h with
  | nil => exact .nil
  | blank hBlank _ ih => exact .blank hBlank ih
  | @line body gap hBody hEnd _ ih =>
    refine .line hBody (Or.inr ?_) ih
    rw [← List.append_assoc]
    rcases hEnd with hNil | hFeed
    · rw [hNil]
      rfl
    · rw [List.head?_append, hFeed]
      rfl
  | block hBlock _ ih => exact .block hBlock ih

/-- A gap at the end of a line goes on with the line feed. -/
theorem IsGap.concat_feed {nesting : Option UInt32} {gap : List Char} (h : IsGap nesting [] gap)
    (ahead : List Char) : IsGap nesting ahead (gap ++ ['\n']) := by
  have hFeed : Text.isBlank '\n' = true := by decide +kernel
  have hFront : IsGap nesting (['\n'] ++ ahead) gap := h.feed ahead
  exact hFront.append (.blank hFeed .nil)

/-- Where a lexeme begins on a line, one begins whatever follows the line. -/
theorem StartsLexeme.feed {cs : List Char} (h : StartsLexeme cs) (hSome : cs ≠ [])
    (ahead : List Char) : StartsLexeme (cs ++ '\n' :: ahead) where
  not_blank := by
    obtain ⟨c, rest, rfl⟩ := List.exists_cons_of_ne_nil hSome
    exact StopsBefore.cons (h.not_blank c rfl) _
  not_line := by
    rw [Lexeme.isPrefix_feed_iff (by decide)]
    exact h.not_line
  not_block := by
    rw [Lexeme.isPrefix_feed_iff (by decide)]
    exact h.not_block

/-- A fault of a gap lies on its lines, unless a block comment is still open there. -/
theorem gap_feed_error {nesting : Option UInt32} {cs : List Char} {fault : Fault}
    (h : gap nesting cs = .error fault) (hOther : fault.cause ≠ .unclosedComment)
    (ahead : List Char) : gap nesting (cs ++ '\n' :: ahead) = .error fault := by
  fun_induction gap nesting cs generalizing fault with
  | case1 => cases h
  | case2 c cs hBlank ih =>
    obtain ⟨f, hRest, rfl⟩ := before_eq_error h
    rw [List.cons_append, gap_blank hBlank, ih hRest hOther]
    rfl
  | case3 => cases h
  | case4 c cs hBlank found hFront =>
    cases h
    have hSame : Comment.front? nesting (c :: cs ++ '\n' :: ahead) = some (.error found) := by
      rw [Comment.front?_feed, hFront]
      intro f hFault
      rw [hFront] at hFault
      cases hFault
      exact hOther
    rw [List.cons_append] at hSame ⊢
    rw [gap_of_not_blank hBlank, hSame]
  | case5 c cs hBlank comment hFront ih =>
    obtain ⟨f, hRest, rfl⟩ := before_eq_error h
    have hSame : Comment.front? nesting (c :: cs ++ '\n' :: ahead) = some (.ok comment) := by
      rw [Comment.front?_feed, hFront]
      intro f hFault
      rw [hFront] at hFault
      cases hFault
    have hDrop := drop_append_of_isPrefix (Comment.front?_isPrefix hFront) ('\n' :: ahead)
    rw [List.cons_append] at hSame hDrop ⊢
    rw [gap_of_not_blank hBlank, hSame]
    simp only
    rw [hDrop, ih hRest hOther]
    rfl

end Trivia

-- ---------------------------------------------------------------------------
-- Readings
-- ---------------------------------------------------------------------------

namespace Lexer

/-- Behind a gap, reading is reading what follows. -/
theorem read_isGap_append {config : Config} {gap ahead : List Char}
    (h : Trivia.IsGap config.nesting ahead gap) :
    read config (gap ++ ahead) =
      match read config ahead with
      | .error fault => .error (fault.behind gap)
      | .ok (more, lexeme) => .ok (gap ++ more, lexeme) := by
  unfold read
  rw [Trivia.gap_isGap_append h]
  cases hMore : Trivia.gap config.nesting ahead with
  | error fault => rfl
  | ok more =>
    have hDrop : (gap ++ ahead).drop (gap ++ more).length = ahead.drop more.length := by
      rw [List.length_append, ← List.drop_drop, List.drop_left]
    simp only [Trivia.before, hDrop]
    cases Lexeme.front config (ahead.drop more.length) with
    | error fault => simp [Fault.behind]
    | ok lexeme => rfl

/-- Where something stands behind the gap of a line, the line is read whatever follows it. -/
theorem read_feed_of_gap {config : Config} {gap ahead : List Char}
    (h : Trivia.gap config.nesting (gap ++ ahead) = .ok gap) (hSome : ahead ≠ [])
    (behind : List Char) :
    read config (gap ++ ahead ++ '\n' :: behind) = read config (gap ++ ahead) := by
  obtain ⟨hGap, hStarts⟩ := Trivia.gap_eq_ok_iff.1 h
  obtain ⟨c, cs, rfl⟩ := List.exists_cons_of_ne_nil hSome
  rw [List.append_assoc, read_behind_gap (hGap.feed behind) (hStarts.feed hSome behind),
    read_behind_gap hGap hStarts, Lexeme.front_feed]

/-- A lexeme on a line is read whatever follows the line. -/
theorem read_feed {config : Config} {cs gap : List Char} {lexeme : Lexeme}
    (h : read config cs = .ok (gap, lexeme)) (hMore : lexeme.kind ≠ .eof) (behind : List Char) :
    read config (cs ++ '\n' :: behind) = .ok (gap, lexeme) := by
  obtain ⟨ahead, rfl, hGap, -⟩ := read_eq_ok h
  have hSome : lexeme.written ++ ahead ≠ [] := by
    intro hNil
    exact written_ne_nil_of_read h hMore (List.append_eq_nil_iff.1 hNil).1
  rw [read_feed_of_gap hGap hSome, h]

/-- A fault on a line is met whatever follows the line, unless a block comment is open there. -/
theorem read_feed_error {config : Config} {cs : List Char} {fault : Fault}
    (h : read config cs = .error fault) (hOther : fault.cause ≠ .unclosedComment)
    (behind : List Char) : read config (cs ++ '\n' :: behind) = .error fault := by
  rcases read_eq_error h with hGap | ⟨gap, ahead, f, rfl, hGap, hFront, rfl⟩
  · unfold read
    rw [Trivia.gap_feed_error hGap hOther]
  · have hSome : ahead ≠ [] := by
      rintro rfl
      cases hFront
    rw [read_feed_of_gap hGap hSome, h]

end Lexer

end HdlLex
