import HdlLex.Proofs.Alphabet
import HdlLex.Proofs.Places
import HdlLex.SourceFile
import Mathlib.Data.List.DropRight

/-!
# Line table — the line on which a place lies

A source file finds its lines by cutting the text behind every line feed, and
a position finds its line by counting the line feeds before it. The two agree:
the line with the number of a place is what stands before the place and behind
it up to the line feeds on either side.

* `Text.onLine` — what stands before a place on its line.

Main results:

* `Text.getElem?_linePieces_append` — the piece in which a place lies.
* `Text.isPrefix_trimLineEnd` — a line keeps what stands before its terminator.
* `SourceFile.line?_lineOf` — the line with the number of a place.
-/

namespace HdlLex

namespace Text

-- ---------------------------------------------------------------------------
-- What stands before a place on its line
-- ---------------------------------------------------------------------------

/-- The characters of `cs` behind its last line feed, or all of them if it has none. -/
def onLine (cs : List Char) : List Char := (cs.reverse.takeWhile (· != '\n')).reverse

theorem length_onLine (cs : List Char) : (onLine cs).length = sinceFeed cs := by
  rw [onLine, sinceFeed, List.length_reverse]

theorem lineFeed_not_mem_onLine (cs : List Char) : '\n' ∉ onLine cs := by
  intro hMem
  have hTest := List.mem_takeWhile_imp (List.mem_reverse.1 hMem)
  simp at hTest

theorem onLine_eq_self {cs : List Char} (h : '\n' ∉ cs) : onLine cs = cs := by
  have hAll : cs.reverse.takeWhile (· != '\n') = cs.reverse := by
    rw [List.takeWhile_eq_self_iff]
    exact all_bne_of_not_mem (by rwa [List.mem_reverse])
  rw [onLine, hAll, List.reverse_reverse]

theorem onLine_feed (cs : List Char) : onLine ('\n' :: cs) = onLine cs := by
  have hStop : StopsBefore (· != '\n') ['\n'] := StopsBefore.cons (by decide) []
  rw [onLine, onLine, List.reverse_cons, takeWhile_stop hStop]

theorem onLine_cons_of_mem (c : Char) {cs : List Char} (h : '\n' ∈ cs) :
    onLine (c :: cs) = onLine cs := by
  have hShort : ¬ (cs.reverse.takeWhile (· != '\n')).length = cs.reverse.length := by
    intro hLength
    have hAll := (List.takeWhile_prefix (· != '\n')).eq_of_length hLength
    have hTest := List.takeWhile_eq_self_iff.1 hAll '\n' (List.mem_reverse.2 h)
    simp at hTest
  rw [onLine, onLine, List.reverse_cons, List.takeWhile_append, if_neg hShort]

-- ---------------------------------------------------------------------------
-- Pieces
-- ---------------------------------------------------------------------------

theorem linePieces_feed (cs : List Char) : linePieces ('\n' :: cs) = ['\n'] :: linePieces cs := by
  rw [linePieces, if_pos rfl]

theorem linePieces_cons {c : Char} (h : c ≠ '\n') (cs : List Char) :
    linePieces (c :: cs) = (linePieces cs).modifyHead (c :: ·) := by
  rw [linePieces, if_neg h]
  split
  · next hNil => exact absurd hNil (linePieces_ne_nil cs)
  · next hCons =>
    rw [hCons]
    rfl

/-- Any other character stands at the front of the first piece. -/
theorem exists_linePieces_cons {c : Char} (h : c ≠ '\n') (cs : List Char) :
    ∃ first pieces, linePieces cs = first :: pieces ∧
      linePieces (c :: cs) = (c :: first) :: pieces := by
  obtain ⟨first, pieces, hPieces⟩ := List.exists_cons_of_ne_nil (linePieces_ne_nil cs)
  exact ⟨first, pieces, hPieces, by rw [linePieces_cons h, hPieces, List.modifyHead_cons]⟩

/-- The first piece of a text goes on through its first line feed, or to the end. -/
theorem getElem?_linePieces_zero (cs : List Char) :
    (linePieces cs)[0]? =
      some (cs.takeWhile (· != '\n') ++ if '\n' ∈ cs then ['\n'] else []) := by
  induction cs with
  | nil => rfl
  | cons c cs ih =>
    by_cases hFeed : c = '\n'
    · subst hFeed
      rw [linePieces_feed]
      simp
    · rw [linePieces_cons hFeed, List.getElem?_modifyHead, if_pos rfl, ih]
      simp [hFeed, Ne.symm hFeed]

/-- The piece in which a place lies: what stands before it on the line, and what follows. -/
theorem getElem?_linePieces_append (before ahead : List Char) :
    (linePieces (before ++ ahead))[before.count '\n']? =
      (linePieces ahead)[0]?.map (onLine before ++ ·) := by
  induction before with
  | nil =>
    show (linePieces ahead)[0]? = (linePieces ahead)[0]?.map ([] ++ ·)
    simp
  | cons c before ih =>
    rw [List.cons_append]
    by_cases hFeed : c = '\n'
    · subst hFeed
      rw [linePieces_feed, List.count_cons_self, List.getElem?_cons_succ, ih, onLine_feed]
    · rw [linePieces_cons hFeed, List.count_cons_of_ne hFeed, List.getElem?_modifyHead, ih]
      by_cases hLater : '\n' ∈ before
      · -- the character stands on an earlier line
        have hCount := List.count_pos_iff.2 hLater
        rw [if_neg (by omega), onLine_cons_of_mem c hLater]
      · have hAlone : '\n' ∉ c :: before := by simp [hLater, Ne.symm hFeed]
        rw [if_pos (List.count_eq_zero.2 hLater), onLine_eq_self hLater, onLine_eq_self hAlone,
          Option.map_map]
        rfl

-- ---------------------------------------------------------------------------
-- Lines without their terminators
-- ---------------------------------------------------------------------------

/-- Whether a character belongs to the terminator of a line. -/
def isLineEnd (c : Char) : Bool := c == '\n' || c == '\r'

theorem trimLineEnd_eq (line : List Char) : trimLineEnd line = line.rdropWhile isLineEnd := rfl

theorem trimLineEnd_isPrefix (line : List Char) : trimLineEnd line <+: line :=
  List.rdropWhile_prefix isLineEnd line

theorem trimLineEnd_concat_feed (line : List Char) :
    trimLineEnd (line ++ ['\n']) = trimLineEnd line :=
  List.rdropWhile_concat_pos isLineEnd line '\n' rfl

/-- A line keeps what stands before its terminator. -/
theorem isPrefix_trimLineEnd (before : List Char) {c : Char} (h : isLineEnd c = false)
    (ahead : List Char) : before ++ [c] <+: trimLineEnd (before ++ c :: ahead) := by
  rw [trimLineEnd_eq]
  induction ahead using List.reverseRecOn with
  | nil => exact ⟨[], by rw [List.rdropWhile_concat_neg _ _ _ (by simp [h]), List.append_nil]⟩
  | append_singleton ahead d ih =>
    rw [← List.cons_append, ← List.append_assoc]
    by_cases hEnd : isLineEnd d = true
    · rw [List.rdropWhile_concat_pos _ _ _ hEnd]
      exact ih
    · rw [List.rdropWhile_concat_neg _ _ _ hEnd]
      exact ⟨ahead ++ [d], by simp⟩

end Text

/-- The line with the number of a place is what stands there before the place and behind it. -/
theorem SourceFile.line?_lineOf (file : SourceFile) {before ahead : List Char}
    (h : file.content.toList = before ++ ahead) :
    file.line? (Text.lineOf before) = some (String.ofList
      (Text.trimLineEnd (Text.onLine before ++ ahead.takeWhile (· != '\n')))) := by
  have hNumber : Text.lineOf before = before.count '\n' + 1 := Nat.add_comm _ _
  rw [hNumber, line?, file.lines_eq, h, Text.getElem?_linePieces_append,
    Text.getElem?_linePieces_zero, Option.map_some, Option.map_some]
  split
  · rw [← List.append_assoc, Text.trimLineEnd_concat_feed]
  · rw [List.append_nil]

end HdlLex
