import HdlLex.Config
import HdlLex.Proofs.Run
import Mathlib.Data.List.Induction

/-!
# Places — lines and columns read off the text

A position counts up as reading goes on. The line and the column of a place
can also be read off the text before it: the line from its line feeds, the
column from the characters behind the last of them. The two agree as long as
the text is short enough for the counters.

* `Text.lineOf`, `Text.sinceFeed` — line and characters on it, from the text.
* `Position.after?`, `Position.afterAll?` — steps that stop where a counter
  overflows.
* `Config.columnAt` — the column behind a stretch of a text that may begin with
  a skipped mark.

Main results:

* `Position.afterAll?_eq_some` — no counter overflows in a short text.
* `Config.toNat_startPosition` — a position gives the place that is read off
  the text.
* `Config.place_lt`, `Config.startPosition_lt` — a place further on is greater.
-/

namespace HdlLex

-- ---------------------------------------------------------------------------
-- Counting in a text
-- ---------------------------------------------------------------------------

namespace Text

/-- The line of the place behind `cs`. -/
def lineOf (cs : List Char) : Nat := 1 + cs.count '\n'

/-- The characters of `cs` behind its last line feed, or all of them if it has none. -/
def sinceFeed (cs : List Char) : Nat := (cs.reverse.takeWhile (· != '\n')).length

theorem sinceFeed_concat (cs : List Char) (c : Char) :
    sinceFeed (cs ++ [c]) = if c = '\n' then 0 else sinceFeed cs + 1 := by
  unfold sinceFeed
  rw [List.reverse_append, List.reverse_singleton, List.singleton_append, List.takeWhile_cons]
  by_cases hFeed : c = '\n'
  · simp [hFeed]
  · simp [hFeed]

theorem lineOf_concat (cs : List Char) (c : Char) :
    lineOf (cs ++ [c]) = if c = '\n' then lineOf cs + 1 else lineOf cs := by
  unfold lineOf
  by_cases hFeed : c = '\n'
  · simp [hFeed, Nat.add_assoc]
  · simp [hFeed]

/-- Characters without a line feed stay on the line. -/
theorem sinceFeed_append_of_not_mem (xs : List Char) {ys : List Char} (h : '\n' ∉ ys) :
    sinceFeed (xs ++ ys) = sinceFeed xs + ys.length := by
  induction ys using List.reverseRecOn with
  | nil => simp
  | append_singleton ys c ih =>
    rw [List.mem_append, not_or, List.mem_singleton] at h
    rw [← List.append_assoc, sinceFeed_concat, if_neg (Ne.symm h.2), ih h.1]
    simp [Nat.add_assoc]

/-- Behind a line feed it does not matter what stands before it. -/
theorem sinceFeed_append_of_mem (xs : List Char) {ys : List Char} (h : '\n' ∈ ys) :
    sinceFeed (xs ++ ys) = sinceFeed ys := by
  induction ys using List.reverseRecOn with
  | nil => cases h
  | append_singleton ys c ih =>
    rw [← List.append_assoc, sinceFeed_concat, sinceFeed_concat]
    by_cases hFeed : c = '\n'
    · rw [if_pos hFeed, if_pos hFeed]
    · rw [if_neg hFeed, if_neg hFeed]
      rw [List.mem_append, List.mem_singleton] at h
      rw [ih (h.resolve_right (Ne.symm hFeed))]

theorem lineOf_append (xs ys : List Char) : lineOf (xs ++ ys) = lineOf xs + ys.count '\n' := by
  unfold lineOf
  rw [List.count_append, Nat.add_assoc]

theorem lineOf_le (cs : List Char) : lineOf cs ≤ 1 + cs.length := by
  have hCount := List.count_le_length (a := '\n') (l := cs)
  unfold lineOf
  omega

theorem sinceFeed_le (cs : List Char) : sinceFeed cs ≤ cs.length := by
  have hRun := (List.takeWhile_prefix (· != '\n') (l := cs.reverse)).length_le
  rwa [List.length_reverse] at hRun

end Text

-- ---------------------------------------------------------------------------
-- Counters
-- ---------------------------------------------------------------------------

namespace Position

/-- The position behind `c`, if neither counter overflows. -/
def after? (position : Position) (c : Char) : Option Position :=
  if c = '\n' then
    if position.line.toNat + 1 < UInt32.size then some (position.after c) else none
  else if position.column.toNat + 1 < UInt32.size then some (position.after c) else none

/-- The position behind a stretch of text, if neither counter overflows on the way. -/
def afterAll? (position : Position) (cs : List Char) : Option Position :=
  cs.foldlM after? position

/-- A text of fewer characters than a counter can count. -/
def IsShort (cs : List Char) : Prop := cs.length < UInt32.size - 1

theorem IsShort.of_append {text before cs ahead : List Char} (h : IsShort text)
    (hText : text = before ++ (cs ++ ahead)) : IsShort cs := by
  have hLength := congrArg List.length hText
  simp only [List.length_append] at hLength
  unfold IsShort at h ⊢
  omega

theorem afterAll_concat (position : Position) (cs : List Char) (c : Char) :
    position.afterAll (cs ++ [c]) = (position.afterAll cs).after c := by
  rw [afterAll_append, afterAll_cons, afterAll_nil]

theorem toNat_add_one {n : UInt32} (h : n.toNat + 1 < UInt32.size) :
    (n + 1).toNat = n.toNat + 1 := by
  rw [UInt32.toNat_add]
  exact Nat.mod_eq_of_lt h

/-- In a short text the counters agree with what is read off the text. -/
theorem toNat_afterAll (offset : Nat) {cs : List Char} (h : IsShort cs) :
    ((⟨offset, 1, 1⟩ : Position).afterAll cs).line.toNat = Text.lineOf cs ∧
      ((⟨offset, 1, 1⟩ : Position).afterAll cs).column.toNat = 1 + Text.sinceFeed cs := by
  induction cs using List.reverseRecOn with
  | nil => exact ⟨rfl, rfl⟩
  | append_singleton cs c ih =>
    have hShort : cs.length + 1 < UInt32.size - 1 := by
      simpa [IsShort] using h
    obtain ⟨hLine, hColumn⟩ := ih (Nat.lt_of_succ_lt hShort)
    have hLineLe := Text.lineOf_le cs
    have hColumnLe := Text.sinceFeed_le cs
    rw [afterAll_concat, Text.lineOf_concat, Text.sinceFeed_concat]
    unfold after
    by_cases hFeed : c = '\n'
    · rw [if_pos hFeed, if_pos hFeed, if_pos hFeed]
      refine ⟨?_, rfl⟩
      show (_ + 1 : UInt32).toNat = _
      rw [toNat_add_one (by omega), hLine]
    · rw [if_neg hFeed, if_neg hFeed, if_neg hFeed]
      refine ⟨hLine, ?_⟩
      show (_ + 1 : UInt32).toNat = _
      rw [toNat_add_one (by omega), hColumn, Nat.add_assoc]

/-- No counter overflows in a short text. -/
theorem afterAll?_eq_some (offset : Nat) {cs : List Char} (h : IsShort cs) :
    (⟨offset, 1, 1⟩ : Position).afterAll? cs = some ((⟨offset, 1, 1⟩ : Position).afterAll cs) := by
  induction cs using List.reverseRecOn with
  | nil => rfl
  | append_singleton cs c ih =>
    have hShort : cs.length + 1 < UInt32.size - 1 := by
      simpa [IsShort] using h
    have hFewer : IsShort cs := Nat.lt_of_succ_lt hShort
    obtain ⟨hLine, hColumn⟩ := toNat_afterAll offset hFewer
    have hLineLe := Text.lineOf_le cs
    have hColumnLe := Text.sinceFeed_le cs
    have hStep : ((⟨offset, 1, 1⟩ : Position).afterAll cs).after? c =
        some (((⟨offset, 1, 1⟩ : Position).afterAll cs).after c) := by
      unfold after?
      by_cases hFeed : c = '\n'
      · rw [if_pos hFeed, if_pos (by omega)]
      · rw [if_neg hFeed, if_pos (by omega)]
    have hFirst := ih hFewer
    unfold afterAll? at hFirst ⊢
    rw [List.foldlM_append, hFirst, afterAll_concat]
    simpa using hStep

end Position

-- ---------------------------------------------------------------------------
-- Places in a text that may begin with a mark
-- ---------------------------------------------------------------------------

namespace Config

/-- The column behind `before` in a text. On the first line a skipped mark takes none. -/
def columnAt (config : Config) (text before : List Char) : Nat :=
  1 + Text.sinceFeed before -
    if config.passedMark text ≠ [] ∧ Text.lineOf before = 1 then 1 else 0

theorem lineOf_mark_append (cs : List Char) :
    Text.lineOf ([byteOrderMark] ++ cs) = Text.lineOf cs := by
  have hMark : Text.lineOf [byteOrderMark] = 1 := by decide
  rw [Text.lineOf_append, hMark, Text.lineOf]

theorem sinceFeed_mark_append (cs : List Char) :
    1 + Text.sinceFeed ([byteOrderMark] ++ cs) - (if Text.lineOf cs = 1 then 1 else 0) =
      1 + Text.sinceFeed cs := by
  by_cases hFeed : '\n' ∈ cs
  · have hCount := List.count_pos_iff.2 hFeed
    have hLine : ¬ Text.lineOf cs = 1 := by
      unfold Text.lineOf
      omega
    rw [if_neg hLine, Text.sinceFeed_append_of_mem _ hFeed]
    omega
  · have hLine : Text.lineOf cs = 1 := by
      unfold Text.lineOf
      rw [List.count_eq_zero.2 hFeed]
    have hMark : Text.sinceFeed [byteOrderMark] = 1 := by decide
    have hAlone := Text.sinceFeed_append_of_not_mem [] hFeed
    rw [List.nil_append] at hAlone
    rw [if_pos hLine, Text.sinceFeed_append_of_not_mem _ hFeed, hAlone, hMark]
    show _ = 1 + (0 + cs.length)
    omega

/-- The counters behind a mark that takes no column, and behind what was passed after it. -/
theorem toNat_afterAll_mark {mark passed : List Char} (hMark : mark = [] ∨ mark = [byteOrderMark])
    (hShort : Position.IsShort passed) :
    let position := (⟨Text.byteLength mark, 1, 1⟩ : Position).afterAll passed
    position.line.toNat = Text.lineOf (mark ++ passed) ∧
      position.column.toNat = 1 + Text.sinceFeed (mark ++ passed) -
        if mark ≠ [] ∧ Text.lineOf (mark ++ passed) = 1 then 1 else 0 := by
  intro position
  obtain ⟨hLine, hColumn⟩ := Position.toNat_afterAll (Text.byteLength mark) hShort
  rw [hLine, hColumn]
  rcases hMark with rfl | rfl
  · simp
  · rw [lineOf_mark_append]
    refine ⟨rfl, ?_⟩
    rw [← sinceFeed_mark_append passed]
    simp

/-- A position gives the place that is read off the text. -/
theorem toNat_startPosition {config : Config} {text passed ahead : List Char}
    (hShort : Position.IsShort text) (hText : text = config.passedMark text ++ (passed ++ ahead)) :
    ((config.startPosition text).afterAll passed).line.toNat =
        Text.lineOf (config.passedMark text ++ passed) ∧
      ((config.startPosition text).afterAll passed).column.toNat =
        config.columnAt text (config.passedMark text ++ passed) :=
  toNat_afterAll_mark (config.passedMark_cases text) (hShort.of_append hText)

/-- A place further on is greater: on a later line, or on the same line in a later column. -/
theorem place_lt (config : Config) (text before : List Char) {cs : List Char} (h : cs ≠ []) :
    Text.lineOf before < Text.lineOf (before ++ cs) ∨
      (Text.lineOf before = Text.lineOf (before ++ cs) ∧
        config.columnAt text before < config.columnAt text (before ++ cs)) := by
  rw [Text.lineOf_append]
  by_cases hFeed : '\n' ∈ cs
  · have hCount := List.count_pos_iff.2 hFeed
    exact Or.inl (by omega)
  · have hCount : cs.count '\n' = 0 := List.count_eq_zero.2 hFeed
    refine Or.inr ⟨by omega, ?_⟩
    have hLength := List.length_pos_iff.2 h
    unfold columnAt
    rw [Text.lineOf_append, hCount, Nat.add_zero, Text.sinceFeed_append_of_not_mem before hFeed]
    split
    · omega
    · omega

/-- So is the position further on, as long as the counters do not overflow. -/
theorem startPosition_lt {config : Config} {text before cs ahead : List Char}
    (hShort : Position.IsShort text)
    (hText : text = config.passedMark text ++ ((before ++ cs) ++ ahead)) (h : cs ≠ []) :
    let first := (config.startPosition text).afterAll before
    let second := (config.startPosition text).afterAll (before ++ cs)
    first.line < second.line ∨ (first.line = second.line ∧ first.column < second.column) := by
  intro first second
  have hFirst : text = config.passedMark text ++ (before ++ (cs ++ ahead)) := by
    rw [← List.append_assoc before]
    exact hText
  obtain ⟨hLine, hColumn⟩ := toNat_startPosition hShort hFirst
  obtain ⟨hLine', hColumn'⟩ := toNat_startPosition hShort hText
  rw [← List.append_assoc] at hLine' hColumn'
  rw [UInt32.lt_iff_toNat_lt, UInt32.lt_iff_toNat_lt, ← UInt32.toNat_inj]
  rw [hLine, hLine', hColumn, hColumn']
  exact config.place_lt text _ h

end Config

end HdlLex
