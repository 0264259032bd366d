import HdlLex.Proofs.Places

/-!
# Moves — a cursor after any number of steps

A cursor moves only forward: over a byte-order mark at the very beginning, or
over a stretch of the text ahead. However many moves it makes, its text is the
mark, the characters that it passed and those that lie ahead, and its position
is the one to which the passed characters lead.

* `Cursor.Move`, `Cursor.move`, `Cursor.travel` — the moves, one by one and one
  after the other.
* `Cursor.skips`, `Cursor.skipsOn` — whether a mark is skipped on the way.
* `Cursor.Reached` — the invariant.

Main results:

* `Cursor.Reached.move` — a move keeps the invariant.
* `Cursor.exists_reached` — it holds after every list of moves.
* `Cursor.Reached.toNat_position` — line and column are read off the text before
  the cursor.
-/

namespace HdlLex

namespace Cursor

-- ---------------------------------------------------------------------------
-- Moves
-- ---------------------------------------------------------------------------

/-- The ways to move a cursor. -/
inductive Move where
  | skipMark
  | advance
  | advanceWhile (test : Char → Bool)
  | matchChar (expected : Char)
  | matchText (expected : List Char)

/-- The cursor behind a move. -/
def move (cursor : Cursor) : Move → Cursor
  | .skipMark => cursor.skipMark.2
  | .advance => cursor.advance.2
  | .advanceWhile test => (cursor.advanceWhile test).2
  | .matchChar expected => (cursor.matchChar expected).2
  | .matchText expected => (cursor.matchText expected).2

/-- Whether a move skips a mark. -/
def skips (cursor : Cursor) : Move → Bool
  | .skipMark => cursor.skipMark.1
  | _ => false

/-- The cursor behind moves that follow one another. -/
def travel : Cursor → List Move → Cursor
  | cursor, [] => cursor
  | cursor, next :: moves => (cursor.move next).travel moves

/-- Whether one of the moves skips a mark. -/
def skipsOn : Cursor → List Move → Bool
  | _, [] => false
  | cursor, next :: moves => cursor.skips next || (cursor.move next).skipsOn moves

-- ---------------------------------------------------------------------------
-- The invariant
-- ---------------------------------------------------------------------------

/-- What a mark takes of the text, if one is skipped. -/
def markIf (skipped : Bool) : List Char := if skipped then [byteOrderMark] else []

theorem markIf_cases (skipped : Bool) :
    markIf skipped = [] ∨ markIf skipped = [byteOrderMark] := by
  cases skipped with
  | false => exact Or.inl rfl
  | true => exact Or.inr rfl

theorem markIf_ne_nil_iff (skipped : Bool) : markIf skipped ≠ [] ↔ skipped = true := by
  cases skipped <;> simp [markIf]

/-- A cursor of this text that has passed over these characters, behind the mark it skipped. -/
structure Reached (text : List Char) (skipped : Bool) (passed : List Char) (cursor : Cursor) :
    Prop where
  source_eq : cursor.source = text
  text_eq : text = markIf skipped ++ (passed ++ cursor.rest)
  position_eq : cursor.position =
    (⟨Text.byteLength (markIf skipped), 1, 1⟩ : Position).afterAll passed

theorem reached_start (text : List Char) : (start text).Reached text false [] :=
  ⟨rfl, rfl, rfl⟩

variable {text passed : List Char} {skipped : Bool} {cursor : Cursor}

theorem Reached.offset_eq (h : cursor.Reached text skipped passed) :
    cursor.position.offset = Text.byteLength (markIf skipped ++ passed) := by
  rw [h.position_eq, Position.offset_afterAll, Text.byteLength_append]

/-- A cursor that passes over what lies directly ahead. -/
theorem Reached.advanceBy (h : cursor.Reached text skipped passed) {xs ys : List Char}
    (hRest : cursor.rest = xs ++ ys) :
    (cursor.advanceBy xs.length).Reached text skipped (passed ++ xs) := by
  rw [advanceBy_length hRest]
  refine ⟨h.source_eq, ?_, ?_⟩
  · show text = markIf skipped ++ ((passed ++ xs) ++ ys)
    rw [List.append_assoc, ← hRest]
    exact h.text_eq
  · show cursor.position.afterAll xs = _
    rw [h.position_eq, Position.afterAll_append]

/-- A mark is skipped only where nothing was passed, and takes no column. -/
theorem Reached.skipMark (h : cursor.Reached text skipped passed) :
    cursor.skipMark.2.Reached text (skipped || cursor.skipMark.1) passed := by
  unfold Cursor.skipMark
  split
  · next hTest =>
    rw [Bool.and_eq_true, decide_eq_true_eq, beq_iff_eq] at hTest
    obtain ⟨hZero, hHead⟩ := hTest
    obtain ⟨rest, hRest⟩ := List.head?_eq_some_iff.1 hHead
    have hOffset := h.offset_eq
    rw [hZero] at hOffset
    have hNone := Text.byteLength_eq_zero_iff.1 hOffset.symm
    obtain ⟨hMark, rfl⟩ := List.append_eq_nil_iff.1 hNone
    refine ⟨h.source_eq, ?_, ?_⟩
    · rw [Bool.or_true, h.text_eq, hMark, hRest]
      rfl
    · have hPosition := h.position_eq
      rw [hMark] at hPosition
      rw [Bool.or_true, hPosition]
      rfl
  · rw [Bool.or_false]
    exact h

/-- Any other move passes over a stretch of what lies ahead. -/
theorem exists_move_eq (cursor : Cursor) (next : Move) :
    next = .skipMark ∨ cursor.skips next = false ∧
      ∃ xs ys, cursor.rest = xs ++ ys ∧ cursor.move next = cursor.advanceBy xs.length := by
  cases next with
  | skipMark => exact Or.inl rfl
  | advance =>
    refine Or.inr ⟨rfl, ?_⟩
    cases hRest : cursor.rest with
    | nil => exact ⟨[], [], rfl, by simp [move, Cursor.advance, hRest, Cursor.advanceBy]⟩
    | cons c rest => exact ⟨[c], rest, rfl, rfl⟩
  | advanceWhile test =>
    exact Or.inr ⟨rfl, _, _, (List.takeWhile_append_dropWhile).symm, rfl⟩
  | matchChar expected =>
    refine Or.inr ⟨rfl, ?_⟩
    by_cases hNext : cursor.peek? = some expected
    · obtain ⟨rest, hRest⟩ := List.head?_eq_some_iff.1 hNext
      exact ⟨[expected], rest, hRest, by simp [move, Cursor.matchChar, hNext, Cursor.advanceBy]⟩
    · exact ⟨[], cursor.rest, rfl, by simp [move, Cursor.matchChar, hNext, Cursor.advanceBy]⟩
  | matchText expected =>
    refine Or.inr ⟨rfl, ?_⟩
    by_cases hNext : expected.isPrefixOf cursor.rest = true
    · obtain ⟨rest, hRest⟩ := List.isPrefixOf_iff_prefix.1 hNext
      exact ⟨expected, rest, hRest.symm, by rw [move, Cursor.matchText, if_pos hNext]⟩
    · exact ⟨[], cursor.rest, rfl, by rw [move, Cursor.matchText, if_neg hNext]; rfl⟩

/-- A move keeps the invariant. -/
theorem Reached.move (h : cursor.Reached text skipped passed) (next : Move) :
    ∃ more, (cursor.move next).Reached text (skipped || cursor.skips next) (passed ++ more) := by
  rcases cursor.exists_move_eq next with rfl | ⟨hSkips, xs, ys, hRest, hMove⟩
  · refine ⟨[], ?_⟩
    rw [List.append_nil]
    exact h.skipMark
  · rw [hSkips, Bool.or_false, hMove]
    exact ⟨xs, h.advanceBy hRest⟩

/-- So does every list of moves. -/
theorem Reached.travel (h : cursor.Reached text skipped passed) (moves : List Move) :
    ∃ more, (cursor.travel moves).Reached text (skipped || cursor.skipsOn moves)
      (passed ++ more) := by
  induction moves generalizing cursor skipped passed with
  | nil =>
    refine ⟨[], ?_⟩
    rw [skipsOn, Bool.or_false, List.append_nil]
    exact h
  | cons next moves ih =>
    obtain ⟨xs, hNext⟩ := h.move next
    obtain ⟨ys, hLater⟩ := ih hNext
    refine ⟨xs ++ ys, ?_⟩
    rw [skipsOn, ← Bool.or_assoc, ← List.append_assoc]
    exact hLater

/-- Every list of moves leads from the beginning behind some characters of the text. -/
theorem exists_reached (text : List Char) (moves : List Move) :
    ∃ passed, ((start text).travel moves).Reached text ((start text).skipsOn moves) passed := by
  obtain ⟨passed, hReached⟩ := (reached_start text).travel moves
  rw [Bool.false_or] at hReached
  exact ⟨passed, hReached⟩

-- ---------------------------------------------------------------------------
-- Places
-- ---------------------------------------------------------------------------

/-- Line and column are read off the text before the cursor, where a skipped mark takes none. -/
theorem Reached.toNat_position (h : cursor.Reached text skipped passed)
    (hShort : Position.IsShort text) :
    cursor.position.line.toNat = Text.lineOf (markIf skipped ++ passed) ∧
      cursor.position.column.toNat = 1 + Text.sinceFeed (markIf skipped ++ passed) -
        if skipped = true ∧ cursor.position.line.toNat = 1 then 1 else 0 := by
  obtain ⟨hLine, hColumn⟩ := Config.toNat_afterAll_mark (markIf_cases skipped)
    (hShort.of_append h.text_eq)
  rw [h.position_eq, hLine]
  refine ⟨rfl, ?_⟩
  rw [hColumn]
  simp only [markIf_ne_nil_iff]

end Cursor

end HdlLex
