import HdlLex.Proofs.Moves

/-!
# Travel — what a cursor keeps, and what its moves say

A move passes over a stretch of what lies ahead and tells what it found. So on
its way through a text a cursor stays between two characters, never goes back,
and cuts out exactly what it passed since any earlier place.

* `Cursor.PassesOver` — a cursor behind a stretch of what lies ahead of another.
* `Cursor.StepsIff`, `Cursor.IsLongestRun`, `Cursor.MovesExactly` — what every
  move says, and over which stretch it passes.
* `Cursor.IsPlaced` — offset, line and column of a cursor, read off the text.

Main results:

* `Cursor.movesExactly` — the moves, wherever a cursor stands.
* `Cursor.exists_passesOver_travel` — moves after one another pass over a stretch.
* `Cursor.PassesOver.slice?` — the stretch is what is cut out of the text.
* `cursor_travels_exactly` — all of it, after any moves from the beginning.
-/

namespace HdlLex

namespace Cursor

-- ---------------------------------------------------------------------------
-- Stretches
-- ---------------------------------------------------------------------------

/-- The cursor `after` lies behind a stretch of what lies ahead of the first one. -/
structure PassesOver (cursor : Cursor) (cs : List Char) (after : Cursor) : Prop where
  source_eq : after.source = cursor.source
  rest_eq : cursor.rest = cs ++ after.rest
  offset_eq : after.position.offset = cursor.position.offset + Text.byteLength cs

theorem PassesOver.refl (cursor : Cursor) : cursor.PassesOver [] cursor :=
  ⟨rfl, rfl, rfl⟩

theorem PassesOver.trans {first second third : Cursor} {xs ys : List Char}
    (h : first.PassesOver xs second) (h' : second.PassesOver ys third) :
    first.PassesOver (xs ++ ys) third where
  source_eq := h'.source_eq.trans h.source_eq
  rest_eq := by rw [h.rest_eq, h'.rest_eq, List.append_assoc]
  offset_eq := by rw [h'.offset_eq, h.offset_eq, Text.byteLength_append, Nat.add_assoc]

theorem passesOver_advanceBy {cursor : Cursor} {xs ys : List Char} (h : cursor.rest = xs ++ ys) :
    cursor.PassesOver xs (cursor.advanceBy xs.length) := by
  rw [advanceBy_length h]
  exact ⟨rfl, h, Position.offset_afterAll _ _⟩

-- ---------------------------------------------------------------------------
-- Moves
-- ---------------------------------------------------------------------------

/-- A move that passes over a given stretch under a condition, stays otherwise, and says which. -/
structure StepsIff (cursor : Cursor) (condition : Prop) (cs : List Char)
    (outcome : Bool × Cursor) : Prop where
  tells : outcome.1 = true ↔ condition
  passes : condition → cursor.PassesOver cs outcome.2
  stays : ¬ condition → outcome.2 = cursor

/-- The longest prefix of a text all of whose characters pass the test. -/
structure IsLongestRun (test : Char → Bool) (cs run : List Char) : Prop where
  isPrefix : run <+: cs
  all : ∀ c ∈ run, test c = true
  longest : ∀ other, other <+: cs → (∀ c ∈ other, test c = true) → other.length ≤ run.length

/-- What the moves of a cursor say, and over which stretch each of them passes. -/
structure MovesExactly (cursor : Cursor) : Prop where
  advance_tells : cursor.advance.1 = cursor.peek?
  advance_passes : cursor.PassesOver cursor.peek?.toList cursor.advance.2
  skipMark : cursor.StepsIff (cursor.position.offset = 0 ∧ cursor.peek? = some byteOrderMark)
    [byteOrderMark] cursor.skipMark
  matchChar : ∀ expected, cursor.StepsIff (cursor.peek? = some expected) [expected]
    (cursor.matchChar expected)
  matchText : ∀ expected, cursor.StepsIff (expected <+: cursor.rest) expected
    (cursor.matchText expected)
  advanceWhile : ∀ test, ∃ run, IsLongestRun test cursor.rest run ∧
    (cursor.advanceWhile test).1 = run.length ∧
    cursor.PassesOver run (cursor.advanceWhile test).2

theorem rest_eq_of_peek? {cursor : Cursor} {c : Char} (h : cursor.peek? = some c) :
    cursor.rest = [c] ++ cursor.rest.tail := by
  obtain ⟨rest, hRest⟩ := List.head?_eq_some_iff.1 h
  rw [hRest]
  rfl

theorem isLongestRun_takeWhile (test : Char → Bool) (cs : List Char) :
    IsLongestRun test cs (cs.takeWhile test) where
  isPrefix := List.takeWhile_prefix test
  all := List.all_eq_true.1 List.all_takeWhile
  longest other hPrefix hAll := by
    obtain ⟨rest, rfl⟩ := hPrefix
    rw [List.takeWhile_append_of_pos hAll, List.length_append]
    exact Nat.le_add_right _ _

theorem stepsIff_skipMark (cursor : Cursor) :
    cursor.StepsIff (cursor.position.offset = 0 ∧ cursor.peek? = some byteOrderMark)
      [byteOrderMark] cursor.skipMark := by
  by_cases hMark : cursor.position.offset = 0 ∧ cursor.peek? = some byteOrderMark
  · obtain ⟨hZero, hPeek⟩ := hMark
    have hHead : cursor.rest.head? = some byteOrderMark := hPeek
    have hSkip : cursor.skipMark = (true, { cursor with
        rest := cursor.rest.tail
        position := { cursor.position with offset := byteOrderMark.utf8Size } }) := by
      simp [Cursor.skipMark, hZero, hHead]
    rw [hSkip]
    refine ⟨by simp [hZero, hPeek], fun _ => ?_, fun hNot => absurd ⟨hZero, hPeek⟩ hNot⟩
    refine ⟨rfl, rest_eq_of_peek? hPeek, ?_⟩
    rw [hZero, Nat.zero_add]
    rfl
  · have hStay : cursor.skipMark = (false, cursor) := by
      rw [Cursor.skipMark, if_neg]
      rw [Bool.and_eq_true, decide_eq_true_eq, beq_iff_eq]
      exact hMark
    rw [hStay]
    exact ⟨by simp [hMark], fun h => absurd h hMark, fun _ => rfl⟩

theorem stepsIff_matchChar (cursor : Cursor) (expected : Char) :
    cursor.StepsIff (cursor.peek? = some expected) [expected] (cursor.matchChar expected) := by
  rw [Cursor.matchChar]
  by_cases hNext : cursor.peek? = some expected
  · rw [if_pos (beq_iff_eq.2 hNext)]
    refine ⟨by simp [hNext], fun _ => ?_, fun hNot => absurd hNext hNot⟩
    exact passesOver_advanceBy (rest_eq_of_peek? hNext)
  · rw [if_neg (by simpa using hNext)]
    exact ⟨by simp [hNext], fun h => absurd h hNext, fun _ => rfl⟩

theorem stepsIff_matchText (cursor : Cursor) (expected : List Char) :
    cursor.StepsIff (expected <+: cursor.rest) expected (cursor.matchText expected) := by
  rw [Cursor.matchText]
  by_cases hNext : expected <+: cursor.rest
  · rw [if_pos (List.isPrefixOf_iff_prefix.2 hNext)]
    obtain ⟨rest, hRest⟩ := id hNext
    exact ⟨by simp [hNext], fun _ => passesOver_advanceBy hRest.symm,
      fun hNot => absurd hNext hNot⟩
  · rw [if_neg (mt List.isPrefixOf_iff_prefix.1 hNext)]
    exact ⟨by simp [hNext], fun h => absurd h hNext, fun _ => rfl⟩

/-- The moves say what lies ahead and pass over it, wherever a cursor stands. -/
theorem movesExactly (cursor : Cursor) : cursor.MovesExactly where
  advance_tells := by
    unfold Cursor.advance peek?
    cases cursor.rest <;> rfl
  advance_passes := by
    cases hPeek : cursor.peek? with
    | none =>
      have hRest : cursor.rest = [] := List.head?_eq_none_iff.1 hPeek
      have hStay : cursor.advance.2 = cursor := by simp [Cursor.advance, hRest]
      rw [hStay]
      exact .refl cursor
    | some c => exact passesOver_advanceBy (rest_eq_of_peek? hPeek)
  skipMark := cursor.stepsIff_skipMark
  matchChar := cursor.stepsIff_matchChar
  matchText := cursor.stepsIff_matchText
  advanceWhile test :=
    ⟨_, isLongestRun_takeWhile test cursor.rest, rfl,
      passesOver_advanceBy List.takeWhile_append_dropWhile.symm⟩

-- ---------------------------------------------------------------------------
-- Moves after one another
-- ---------------------------------------------------------------------------

/-- A move that steps or stays passes over a stretch in either case. -/
theorem StepsIff.exists_passesOver {cursor : Cursor} {condition : Prop} {cs : List Char}
    {outcome : Bool × Cursor} (h : cursor.StepsIff condition cs outcome) :
    ∃ xs, cursor.PassesOver xs outcome.2 := by
  by_cases hCondition : condition
  · exact ⟨cs, h.passes hCondition⟩
  · rw [h.stays hCondition]
    exact ⟨[], .refl cursor⟩

theorem exists_passesOver_move (cursor : Cursor) (next : Move) :
    ∃ cs, cursor.PassesOver cs (cursor.move next) := by
  cases next with
  | skipMark => exact cursor.stepsIff_skipMark.exists_passesOver
  | advance => exact ⟨_, cursor.movesExactly.advance_passes⟩
  | advanceWhile test =>
    obtain ⟨run, -, -, hPasses⟩ := cursor.movesExactly.advanceWhile test
    exact ⟨run, hPasses⟩
  | matchChar expected => exact (cursor.stepsIff_matchChar expected).exists_passesOver
  | matchText expected => exact (cursor.stepsIff_matchText expected).exists_passesOver

theorem exists_passesOver_travel (cursor : Cursor) (moves : List Move) :
    ∃ cs, cursor.PassesOver cs (cursor.travel moves) := by
  induction moves generalizing cursor with
  | nil => exact ⟨[], .refl cursor⟩
  | cons next moves ih =>
    obtain ⟨xs, hNext⟩ := cursor.exists_passesOver_move next
    obtain ⟨ys, hLater⟩ := ih (cursor.move next)
    exact ⟨xs ++ ys, hNext.trans hLater⟩

theorem travel_append (cursor : Cursor) (earlier later : List Move) :
    cursor.travel (earlier ++ later) = (cursor.travel earlier).travel later := by
  induction earlier generalizing cursor with
  | nil => rfl
  | cons next earlier ih => exact ih (cursor.move next)

/-- What a cursor passes on its way from the beginning is the text before it. -/
theorem PassesOver.of_start {text before : List Char} {cursor : Cursor}
    (h : (start text).PassesOver before cursor) :
    cursor.source = text ∧ text = before ++ cursor.rest ∧
      cursor.position.offset = Text.byteLength before :=
  ⟨h.source_eq, h.rest_eq, h.offset_eq.trans (Nat.zero_add _)⟩

/-- Between two places on the way from the beginning lies what was passed from one to the other. -/
theorem PassesOver.slice? {text before cs : List Char} {earlier cursor : Cursor}
    (h : (start text).PassesOver before earlier) (h' : earlier.PassesOver cs cursor) :
    Text.slice? text earlier.position.offset cursor.position.offset = some cs := by
  obtain ⟨-, -, hEarlier⟩ := h.of_start
  obtain ⟨-, hText, hOffset⟩ := (h.trans h').of_start
  rw [hText, hEarlier, hOffset]
  exact Text.slice?_append before cs cursor.rest

-- ---------------------------------------------------------------------------
-- Places
-- ---------------------------------------------------------------------------

/-- The offset, the line and the column of a cursor, on its way with or without a skipped mark. -/
structure IsPlaced (text : List Char) (skipped : Bool) (cursor : Cursor) : Prop where
  source_eq : cursor.source = text
  offset_le : cursor.position.offset ≤ Text.byteLength text
  /-- The offset lies between two characters, and cuts the text into what was passed and the rest. -/
  exists_before : ∃ before, Text.slice? text 0 cursor.position.offset = some before ∧
    Text.dropBytes? text cursor.position.offset = some cursor.rest ∧
    before ++ cursor.rest = text ∧
    cursor.position.line.toNat = Text.lineOf before ∧
    cursor.position.column.toNat = 1 + Text.sinceFeed before -
      if skipped = true ∧ cursor.position.line.toNat = 1 then 1 else 0
  /-- The counters have passed every character but a skipped mark, and never overflowed. -/
  exists_passed : ∃ passed, markIf skipped ++ (passed ++ cursor.rest) = text ∧
    (⟨Text.byteLength (markIf skipped), 1, 1⟩ : Position).afterAll? passed = some cursor.position
  isAtEnd_iff : cursor.isAtEnd = true ↔ cursor.peek? = none

theorem Reached.isPlaced {text passed : List Char} {skipped : Bool} {cursor : Cursor}
    (h : cursor.Reached text skipped passed) (hShort : Position.IsShort text) :
    cursor.IsPlaced text skipped := by
  obtain ⟨hLine, hColumn⟩ := h.toNat_position hShort
  have hOffset := h.offset_eq
  have hText : text = (markIf skipped ++ passed) ++ cursor.rest := by
    rw [List.append_assoc]
    exact h.text_eq
  have hLength : Text.byteLength text =
      cursor.position.offset + Text.byteLength cursor.rest := by
    rw [hOffset, ← Text.byteLength_append, ← hText]
  refine ⟨h.source_eq, by omega, ⟨markIf skipped ++ passed, ?_, ?_, hText.symm, hLine, hColumn⟩,
    ⟨passed, h.text_eq.symm, ?_⟩, ?_⟩
  · rw [hOffset, hText]
    exact Text.slice?_append [] (markIf skipped ++ passed) cursor.rest
  · rw [hOffset, hText]
    exact Text.dropBytes?_append _ _
  · rw [h.position_eq]
    exact Position.afterAll?_eq_some _ (hShort.of_append h.text_eq)
  · have hEnd : cursor.isAtEnd = true ↔ Text.byteLength cursor.rest = 0 := by
      rw [isAtEnd, decide_eq_true_eq, h.source_eq]
      omega
    rw [hEnd, Text.byteLength_eq_zero_iff, peek?, List.head?_eq_none_iff]

end Cursor

/--
After any moves from the beginning of a text that is short enough, a cursor
stands between two characters with the line and the column that are read off
what it passed, and each further move says what lies ahead and passes over
exactly that. It is nowhere before an earlier place, and cuts out what it has
passed since.
-/
theorem cursor_travels_exactly {text : List Char} (hShort : Position.IsShort text)
    (earlier later : List Cursor.Move) :
    let start := Cursor.start text
    let before := start.travel earlier
    let cursor := start.travel (earlier ++ later)
    cursor.IsPlaced text (start.skipsOn (earlier ++ later)) ∧ cursor.MovesExactly ∧
      before.position.offset ≤ cursor.position.offset ∧
      Text.slice? text before.position.offset cursor.position.offset =
        some (cursor.sliceFrom before.position.offset) := by
  intro start before cursor
  obtain ⟨passed, hReached⟩ := Cursor.exists_reached text (earlier ++ later)
  obtain ⟨xs, hBefore⟩ := start.exists_passesOver_travel earlier
  obtain ⟨ys, hLater⟩ : ∃ ys, before.PassesOver ys cursor := by
    have hTravel : cursor = before.travel later := start.travel_append earlier later
    rw [hTravel]
    exact before.exists_passesOver_travel later
  have hSlice := hBefore.slice? hLater
  refine ⟨hReached.isPlaced hShort, cursor.movesExactly, ?_, ?_⟩
  · rw [hLater.offset_eq]
    exact Nat.le_add_right _ _
  · have hSource : cursor.source = text := hReached.source_eq
    rw [Cursor.sliceFrom, hSource, hSlice]
    rfl

/--
Behind a skipped mark, over a run that ends at a line feed and over an expected
text, while another is not found: what was passed since the first move is cut
out with the mark left behind.
-/
theorem cursor_travels_behind_mark :
    let text := "\ufeffé1\nab".toList
    let start := Cursor.start text
    let earlier : List Cursor.Move := [.skipMark]
    let later : List Cursor.Move :=
      [.advanceWhile (· != '\n'), .matchChar 'x', .matchText ['\n', 'a']]
    let cursor := start.travel (earlier ++ later)
    Position.IsShort text ∧ start.skipsOn (earlier ++ later) = true ∧
      cursor.position = ⟨8, 2, 2⟩ ∧ cursor.sliceFrom 3 = ['é', '1', '\n', 'a'] ∧
      cursor.IsPlaced text true ∧ cursor.MovesExactly ∧
      Text.slice? text 3 8 = some ['é', '1', '\n', 'a'] := by
  intro text start earlier later cursor
  have hShort : Position.IsShort text := by
    unfold Position.IsShort
    decide +kernel
  have hSkips : start.skipsOn (earlier ++ later) = true := by
    decide +kernel
  have hEarlier : (start.travel earlier).position.offset = 3 := by
    decide +kernel
  have hPlace : cursor.position = ⟨8, 2, 2⟩ ∧ cursor.sliceFrom 3 = ['é', '1', '\n', 'a'] := by
    decide +kernel
  obtain ⟨hPlaced, hMoves, -, hSlice⟩ := cursor_travels_exactly hShort earlier later
  rw [hSkips] at hPlaced
  rw [hEarlier] at hSlice
  have hStretch : Text.slice? text 3 cursor.position.offset = some ['é', '1', '\n', 'a'] :=
    hSlice.trans (congrArg some hPlace.2)
  rw [hPlace.1] at hStretch
  exact ⟨hShort, hSkips, hPlace.1, hPlace.2, hPlaced, hMoves, hStretch⟩

end HdlLex
