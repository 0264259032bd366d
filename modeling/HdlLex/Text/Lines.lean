/-!
# Text — lines

A text is cut after every line feed. The last piece has none and may be
empty, so a text always has one line more than it has line feeds. Showing a
line drops its terminator together with any carriage returns before it.

* `linePieces` — the lines, each with its line feed.
* `trimLineEnd` — a line without its terminator.
* `firstLine` — the text up to its first line end.
-/

namespace HdlLex.Text

/-- The text cut after every line feed; the last piece holds none. -/
def linePieces : List Char → List (List Char)
  | [] => [[]]
  | c :: cs =>
    if c = '\n' then [c] :: linePieces cs
    else match linePieces cs with
      | [] => [[c]]
      | line :: lines => (c :: line) :: lines

/-- A line without the line feeds and carriage returns at its end. -/
def trimLineEnd (line : List Char) : List Char :=
  (line.reverse.dropWhile fun c => c == '\n' || c == '\r').reverse

/-- The text before its first line feed, less one carriage return directly before that line feed. -/
def firstLine (cs : List Char) : List Char :=
  let line := cs.takeWhile (· != '\n')
  -- at the end of the text a carriage return belongs to the line
  if line.length < cs.length && line.getLast? == some '\r' then line.dropLast else line

theorem linePieces_ne_nil (cs : List Char) : linePieces cs ≠ [] := by
  cases cs with
  | nil => simp [linePieces]
  | cons c cs =>
    rw [linePieces]
    split
    · simp
    · split <;> simp

/-- Cutting into lines loses nothing. -/
theorem flatten_linePieces (cs : List Char) : (linePieces cs).flatten = cs := by
  induction cs with
  | nil => rfl
  | cons c cs ih =>
    rw [linePieces]
    split
    · simp [ih]
    · split
      · next h => exact absurd h (linePieces_ne_nil cs)
      · next line lines h =>
        rw [h] at ih
        simpa using congrArg (c :: ·) ih

/-- There is one line more than there are line feeds. -/
theorem length_linePieces (cs : List Char) : (linePieces cs).length = cs.count '\n' + 1 := by
  induction cs with
  | nil => rfl
  | cons c cs ih =>
    rw [linePieces]
    split
    · next h => simp [h, ih]
    · next h =>
      split
      · next h => exact absurd h (linePieces_ne_nil cs)
      · next line lines hl =>
        rw [hl] at ih
        simpa [List.count_cons, h] using ih

end HdlLex.Text
