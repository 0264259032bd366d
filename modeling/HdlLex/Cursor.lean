import HdlLex.Position
import HdlLex.Text.Utf8

/-!
# Cursor — a place in a text, with what lies ahead

A cursor moves forward through a text one character at a time and keeps its
position. Looking ahead never moves it.

* `Cursor.start`, `Cursor.skipMark` — the beginning, and the step over a
  byte-order mark, which takes no column.
* `Cursor.advance`, `Cursor.advanceBy` — steps of one and of several
  characters.
* `Cursor.advanceWhile`, `matchChar`, `matchText` — steps that depend on
  what lies ahead.
-/

namespace HdlLex

/-- The byte-order mark. -/
def byteOrderMark : Char := '\ufeff'

/-- A place in a text. -/
structure Cursor where
  /-- The whole text. -/
  source : List Char
  /-- What lies ahead. -/
  rest : List Char
  position : Position
  deriving DecidableEq, Repr

namespace Cursor

/-! ## Looking -/

/-- The beginning of a text. -/
def start (source : List Char) : Cursor := ⟨source, source, Position.origin⟩

/-- The next character. -/
def peek? (cursor : Cursor) : Option Char := cursor.rest.head?

/-- The character `n` places ahead; the next one has number zero. -/
def peekNth? (cursor : Cursor) (n : Nat) : Option Char := cursor.rest[n]?

/-- Whether nothing lies ahead. -/
def isAtEnd (cursor : Cursor) : Bool :=
  Text.byteLength cursor.source ≤ cursor.position.offset

/-- The text from an earlier offset up to the cursor. -/
def sliceFrom (cursor : Cursor) (offset : Nat) : List Char :=
  (Text.slice? cursor.source offset cursor.position.offset).getD []

/-! ## Moving -/

/-- One step: the character passed, if any, and the cursor behind it. -/
def advance (cursor : Cursor) : Option Char × Cursor :=
  match cursor.rest with
  | [] => (none, cursor)
  | c :: rest => (some c, { cursor with rest, position := cursor.position.after c })

/-- Several steps, or as many as the text allows. -/
def advanceBy (cursor : Cursor) : Nat → Cursor
  | 0 => cursor
  | n + 1 => cursor.advance.2.advanceBy n

/--
Steps over a byte-order mark at the very beginning, without using a column;
says whether it did.
-/
def skipMark (cursor : Cursor) : Bool × Cursor :=
  if cursor.position.offset = 0 && cursor.rest.head? == some byteOrderMark then
    (true, { cursor with
      rest := cursor.rest.tail
      position := { cursor.position with offset := byteOrderMark.utf8Size } })
  else (false, cursor)

/-- Steps over the characters for which the test holds; says how many they were. -/
def advanceWhile (test : Char → Bool) (cursor : Cursor) : Nat × Cursor :=
  let count := (cursor.rest.takeWhile test).length
  (count, cursor.advanceBy count)

/-- Steps over the next character if it is the expected one; says whether it was. -/
def matchChar (expected : Char) (cursor : Cursor) : Bool × Cursor :=
  if cursor.peek? == some expected then (true, cursor.advance.2) else (false, cursor)

/-- Steps over the expected text if it lies ahead; says whether it did. -/
def matchText (expected : List Char) (cursor : Cursor) : Bool × Cursor :=
  if expected.isPrefixOf cursor.rest then (true, cursor.advanceBy expected.length)
  else (false, cursor)

/-! ## What steps do -/

/-- Steps over a stretch of text leave the cursor behind it. -/
theorem advanceBy_length {cursor : Cursor} {xs ys : List Char} (h : cursor.rest = xs ++ ys) :
    cursor.advanceBy xs.length =
      { cursor with rest := ys, position := cursor.position.afterAll xs } := by
  induction xs generalizing cursor with
  | nil =>
    rw [List.nil_append] at h
    simp [advanceBy, ← h]
  | cons c cs ih =>
    have hStep : cursor.advance.2 =
        { cursor with rest := cs ++ ys, position := cursor.position.after c } := by
      simp [advance, h]
    rw [List.length_cons, advanceBy, hStep, ih rfl]
    rfl

/-- Steps take characters off what lies ahead. -/
theorem rest_advanceBy (cursor : Cursor) (n : Nat) :
    (cursor.advanceBy n).rest = cursor.rest.drop n := by
  induction n generalizing cursor with
  | zero => rfl
  | succ n ih =>
    rw [advanceBy, ih, advance]
    split
    · next hRest => rw [hRest, List.drop_nil, List.drop_nil]
    · next hRest => rw [hRest, List.drop_succ_cons]

theorem length_rest_advanceBy (cursor : Cursor) (n : Nat) :
    (cursor.advanceBy n).rest.length = cursor.rest.length - n := by
  rw [rest_advanceBy, List.length_drop]

/-! ## What looking ahead sees -/

/-- The character `n` places ahead is the next one behind as many steps. -/
theorem peekNth?_eq_peek?_advanceBy (cursor : Cursor) (n : Nat) :
    cursor.peekNth? n = (cursor.advanceBy n).peek? := by
  rw [peekNth?, peek?, rest_advanceBy, List.head?_drop]

theorem peekNth?_zero (cursor : Cursor) : cursor.peekNth? 0 = cursor.peek? :=
  cursor.peekNth?_eq_peek?_advanceBy 0

/-- Nothing is seen beyond the end, and something everywhere before it. -/
theorem peekNth?_eq_none_iff {cursor : Cursor} {n : Nat} :
    cursor.peekNth? n = none ↔ cursor.rest.length ≤ n :=
  List.getElem?_eq_none_iff

end Cursor

end HdlLex
