import HdlLex.Proofs.Alphabet
import HdlLex.Proofs.CommentGrammar
import HdlLex.Trivia

/-!
# Gap grammar — what may stand between lexemes

White space, line comments and block comments, in any order and number. A
line comment goes on to the end of its line, so what counts as a gap depends
on what follows it: the end of a gap may be a line comment only at the end of
the text or before a line feed.

* `Trivia.IsGap` — the gaps in front of a text.
* `Trivia.IsFiller`, `Trivia.IsSeparator` — gaps that are complete in
  themselves, whatever follows.
* `Trivia.StartsLexeme` — texts at whose front no further trivia stand.

Main results:

* `Trivia.isGap_of_gap`, `Trivia.startsLexeme_of_gap` — what is read as a gap
  is one, and nothing more of it follows.
* `Trivia.gap_isGap_append`, `Trivia.gap_eq_ok_iff` — a gap is passed over
  entirely, and nothing but gaps is.
-/

namespace HdlLex.Trivia

-- ---------------------------------------------------------------------------
-- Grammar
-- ---------------------------------------------------------------------------

/-- White space and comments, in any order and number, in front of the text `ahead`. -/
inductive IsGap (nesting : Option UInt32) (ahead : List Char) : List Char → Prop
  | nil : IsGap nesting ahead []
  | blank {c : Char} {gap : List Char} :
      Text.isBlank c = true → IsGap nesting ahead gap → IsGap nesting ahead (c :: gap)
  /-- A line comment goes on to a line feed, which it leaves, or to the end of the text. -/
  | line {body gap : List Char} :
      '\n' ∉ body → (gap ++ ahead = [] ∨ (gap ++ ahead).head? = some '\n') →
      IsGap nesting ahead gap → IsGap nesting ahead ('/' :: '/' :: (body ++ gap))
  | block {comment gap : List Char} :
      Comment.IsBlock nesting comment → IsGap nesting ahead gap →
      IsGap nesting ahead (comment ++ gap)

/-- White space and comments, line comments with the line feed at their end. -/
inductive IsFiller (nesting : Option UInt32) : List Char → Prop
  | nil : IsFiller nesting []
  | blank {c : Char} {filler : List Char} :
      Text.isBlank c = true → IsFiller nesting filler → IsFiller nesting (c :: filler)
  | line {body filler : List Char} :
      '\n' ∉ body → IsFiller nesting filler →
      IsFiller nesting ('/' :: '/' :: (body ++ '\n' :: filler))
  | block {comment filler : List Char} :
      Comment.IsBlock nesting comment → IsFiller nesting filler →
      IsFiller nesting (comment ++ filler)

/-- A filler that begins with white space, so that it keeps any two lexemes apart. -/
def IsSeparator (nesting : Option UInt32) (cs : List Char) : Prop :=
  ∃ c filler, cs = c :: filler ∧ Text.isBlank c = true ∧ IsFiller nesting filler

theorem IsSeparator.isFiller {nesting : Option UInt32} {cs : List Char}
    (h : IsSeparator nesting cs) : IsFiller nesting cs := by
  obtain ⟨c, filler, rfl, hBlank, hFiller⟩ := h
  exact .blank hBlank hFiller

/-- Neither white space nor a comment stands at the front of the text. -/
structure StartsLexeme (cs : List Char) : Prop where
  not_blank : StopsBefore Text.isBlank cs
  not_line : ¬ ['/', '/'] <+: cs
  not_block : ¬ ['/', '*'] <+: cs

theorem StartsLexeme.nil : StartsLexeme [] where
  not_blank := StopsBefore.nil _
  not_line := by simp
  not_block := by simp

theorem IsFiller.append {nesting : Option UInt32} {first second : List Char}
    (hFirst : IsFiller nesting first) (hSecond : IsFiller nesting second) :
    IsFiller nesting (first ++ second) := by
  induction hFirst with
  | nil => exact hSecond
  | blank hBlank _ ih => exact .blank hBlank ih
  | @line body filler hBody _ ih =>
    have hLine := IsFiller.line hBody ih
    simpa using hLine
  | @block comment filler hBlock _ ih =>
    rw [List.append_assoc]
    exact .block hBlock ih

-- ---------------------------------------------------------------------------
-- One piece of a gap
-- ---------------------------------------------------------------------------

theorem gap_blank {nesting : Option UInt32} {c : Char} (h : Text.isBlank c = true)
    (cs : List Char) : gap nesting (c :: cs) = before [c] (gap nesting cs) := by
  rw [gap, if_pos h]

/-- What follows no white space is a comment, a fault of one, or no part of the gap. -/
theorem gap_of_not_blank {nesting : Option UInt32} {c : Char} (h : ¬ Text.isBlank c = true)
    (cs : List Char) :
    gap nesting (c :: cs) =
      match Comment.front? nesting (c :: cs) with
      | none => .ok []
      | some (.error fault) => .error fault
      | some (.ok comment) => before comment (gap nesting ((c :: cs).drop comment.length)) := by
  rw [gap, if_neg h]
  split
  · next hNone => rw [hNone]
  · next fault hFault => rw [hFault]
  · next comment hComment => rw [hComment]

/-- A comment at the front is passed over before the rest of the gap. -/
theorem gap_comment {nesting : Option UInt32} {comment ahead : List Char}
    (hSlash : comment.head? = some '/')
    (h : Comment.front? nesting (comment ++ ahead) = some (.ok comment)) :
    gap nesting (comment ++ ahead) = before comment (gap nesting ahead) := by
  obtain ⟨rest, rfl⟩ := List.head?_eq_some_iff.1 hSlash
  have hNotBlank : ¬ Text.isBlank '/' = true := by decide +kernel
  rw [List.cons_append] at h ⊢
  rw [gap_of_not_blank hNotBlank, h]
  simp only
  rw [← List.cons_append, List.drop_left]

theorem front?_eq_none_of_startsLexeme {cs : List Char} (h : StartsLexeme cs)
    (nesting : Option UInt32) : Comment.front? nesting cs = none := by
  unfold Comment.front?
  split
  · next cs => exact absurd ⟨cs, rfl⟩ h.not_line
  · next cs => exact absurd ⟨cs, rfl⟩ h.not_block
  · rfl

/-- There is no gap where a lexeme begins. -/
theorem gap_of_startsLexeme {nesting : Option UInt32} {cs : List Char} (h : StartsLexeme cs) :
    gap nesting cs = .ok [] := by
  cases cs with
  | nil => rw [gap]
  | cons c cs =>
    have hNotBlank : ¬ Text.isBlank c = true := by simp [h.not_blank c rfl]
    rw [gap_of_not_blank hNotBlank, front?_eq_none_of_startsLexeme h nesting]

-- ---------------------------------------------------------------------------
-- What is read is a gap
-- ---------------------------------------------------------------------------

theorem startsLexeme_of_front?_eq_none {nesting : Option UInt32} {c : Char} {cs : List Char}
    (hBlank : ¬ Text.isBlank c = true) (h : Comment.front? nesting (c :: cs) = none) :
    StartsLexeme (c :: cs) where
  not_blank := StopsBefore.cons (by simpa using hBlank) cs
  not_line := by
    rintro ⟨rest, hRest⟩
    rw [← hRest] at h
    cases h
  not_block := by
    rintro ⟨rest, hRest⟩
    rw [← hRest] at h
    cases h

/-- Nothing more of a gap follows what is read of it. -/
theorem startsLexeme_of_gap {nesting : Option UInt32} {cs found : List Char}
    (h : gap nesting cs = .ok found) : StartsLexeme (cs.drop found.length) := by
  fun_induction gap nesting cs generalizing found with
  | case1 =>
    cases h
    exact StartsLexeme.nil
  | case2 c cs _ ih =>
    obtain ⟨g, hRest, rfl⟩ := before_eq_ok h
    exact ih hRest
  | case3 c cs hBlank hFront =>
    cases h
    exact startsLexeme_of_front?_eq_none hBlank hFront
  | case4 => cases h
  | case5 c cs _ comment hFront ih =>
    obtain ⟨g, hRest, rfl⟩ := before_eq_ok h
    rw [List.length_append, ← List.drop_drop]
    exact ih hRest

/-- A comment that is read ends where its kind demands. -/
theorem isGap_comment {nesting : Option UInt32} {cs comment gap ahead : List Char}
    (hFront : Comment.front? nesting cs = some (.ok comment))
    (hSplit : cs = comment ++ (gap ++ ahead)) (hGap : IsGap nesting ahead gap) :
    IsGap nesting ahead (comment ++ gap) := by
  rcases Comment.front?_eq_some hFront with ⟨body, rfl, hLine⟩ | ⟨rest, -, hBlock⟩
  · -- the run of the line comment stops before a line feed or at the end
    obtain ⟨line, rest, rfl, hFeed, hEnd⟩ := exists_line body
    rw [takeWhile_line hFeed hEnd] at hLine
    cases hLine
    obtain rfl : rest = gap ++ ahead := by simpa using hSplit
    exact .line hFeed hEnd hGap
  · exact .block (Comment.isBlock_of_block hBlock.symm) hGap

/-- What is read as a gap is one. -/
theorem isGap_of_gap {nesting : Option UInt32} {found ahead : List Char}
    (h : gap nesting (found ++ ahead) = .ok found) : IsGap nesting ahead found := by
  generalize hText : found ++ ahead = cs at h
  fun_induction gap nesting cs generalizing found with
  | case1 =>
    cases h
    exact .nil
  | case2 c cs hBlank ih =>
    obtain ⟨g, hRest, rfl⟩ := before_eq_ok h
    exact .blank hBlank (ih (by simpa using hText) hRest)
  | case3 =>
    cases h
    exact .nil
  | case4 => cases h
  | case5 c cs _ comment hFront ih =>
    obtain ⟨g, hRest, rfl⟩ := before_eq_ok h
    rw [List.append_assoc] at hText
    have hDrop : g ++ ahead = (c :: cs).drop comment.length := by
      rw [← hText, List.drop_left]
    exact isGap_comment hFront hText.symm (ih hDrop hRest)

-- ---------------------------------------------------------------------------
-- Gaps are passed over
-- ---------------------------------------------------------------------------

@[simp]
theorem before_nil (found : Except Fault (List Char)) : before [] found = found := by
  cases found <;> simp [before, Fault.behind]

theorem before_before (xs ys : List Char) (found : Except Fault (List Char)) :
    before xs (before ys found) = before (xs ++ ys) found := by
  cases found <;> simp [before, Fault.behind]

/-- A gap is passed over entirely, up to the text that it stands in front of. -/
theorem gap_isGap_append {nesting : Option UInt32} {found ahead : List Char}
    (h : IsGap nesting ahead found) :
    gap nesting (found ++ ahead) = before found (gap nesting ahead) := by
  induction h with
  | nil => rw [List.nil_append, before_nil]
  | @blank c found hBlank _ ih =>
    rw [List.cons_append, gap_blank hBlank, ih, before_before]
    rfl
  | @line body found hBody hEnd _ ih =>
    have hFront : Comment.front? nesting (('/' :: '/' :: body) ++ (found ++ ahead)) =
        some (.ok ('/' :: '/' :: body)) := by
      show some (Except.ok ('/' :: '/' :: (body ++ (found ++ ahead)).takeWhile _)) = _
      rw [takeWhile_line hBody hEnd]
    have hText : '/' :: '/' :: (body ++ found) ++ ahead =
        ('/' :: '/' :: body) ++ (found ++ ahead) := by simp
    rw [hText, gap_comment rfl hFront, ih, before_before]
    rfl
  | @block comment found hBlock _ ih =>
    obtain ⟨depth, cs, rfl, -, -⟩ := Comment.isBlock_iff.1 hBlock
    have hFront : Comment.front? nesting ('/' :: '*' :: cs ++ (found ++ ahead)) =
        some (.ok ('/' :: '*' :: cs)) := by
      show some (Comment.block nesting (cs ++ (found ++ ahead))) = _
      rw [Comment.block_append hBlock]
    rw [List.append_assoc, gap_comment rfl hFront, ih, before_before]

/-- What is read as a gap is exactly the gap that stands in front of a lexeme or of the end. -/
theorem gap_eq_ok_iff {nesting : Option UInt32} {found ahead : List Char} :
    gap nesting (found ++ ahead) = .ok found ↔
      IsGap nesting ahead found ∧ StartsLexeme ahead := by
  constructor
  · intro h
    have hStarts := startsLexeme_of_gap h
    rw [List.drop_left] at hStarts
    exact ⟨isGap_of_gap h, hStarts⟩
  · rintro ⟨hGap, hStarts⟩
    rw [gap_isGap_append hGap, gap_of_startsLexeme hStarts]
    simp [before]

/-- A filler is a gap in front of any text. -/
theorem IsFiller.isGap {nesting : Option UInt32} {filler : List Char}
    (h : IsFiller nesting filler) (ahead : List Char) : IsGap nesting ahead filler := by
  induction h with
  | nil => exact .nil
  | blank hBlank _ ih => exact .blank hBlank ih
  | line hBody _ ih =>
    have hFeed : Text.isBlank '\n' = true := by decide +kernel
    exact .line hBody (Or.inr rfl) (.blank hFeed ih)
  | block hBlock _ ih => exact .block hBlock ih

/-- Behind a filler a gap ends where a lexeme begins. -/
theorem gap_of_filler {nesting : Option UInt32} {filler ahead : List Char}
    (hFiller : IsFiller nesting filler) (hAhead : StartsLexeme ahead) :
    gap nesting (filler ++ ahead) = .ok filler :=
  gap_eq_ok_iff.2 ⟨hFiller.isGap ahead, hAhead⟩

end HdlLex.Trivia
