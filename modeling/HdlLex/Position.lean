/-!
# Position — a place in a text

A position counts three things at once: bytes from the start, line feeds,
and characters since the last line feed. Going past one character changes
all three.

* `Position.origin` — where a text begins.
* `Position.after` — the position behind one character.
* `Position.afterAll` — the position behind a stretch of text.
-/

namespace HdlLex

/-- A place in a text. -/
structure Position where
  /-- The bytes before the place. -/
  offset : Nat
  /-- The line, from one. -/
  line : UInt32
  /-- The column in characters, from one. -/
  column : UInt32
  deriving DecidableEq, Repr

namespace Position

/-- Where a text begins. -/
def origin : Position := ⟨0, 1, 1⟩

instance : Inhabited Position := ⟨origin⟩

/-- The place behind `c`: the next column, or the first one of the next line. -/
def after (position : Position) (c : Char) : Position :=
  if c = '\n' then ⟨position.offset + c.utf8Size, position.line + 1, 1⟩
  else ⟨position.offset + c.utf8Size, position.line, position.column + 1⟩

/-- The place behind a stretch of text. -/
def afterAll (position : Position) (cs : List Char) : Position :=
  cs.foldl after position

@[simp]
theorem afterAll_nil (position : Position) : position.afterAll [] = position := rfl

@[simp]
theorem afterAll_cons (position : Position) (c : Char) (cs : List Char) :
    position.afterAll (c :: cs) = (position.after c).afterAll cs := rfl

@[simp]
theorem afterAll_append (position : Position) (xs ys : List Char) :
    position.afterAll (xs ++ ys) = (position.afterAll xs).afterAll ys := by
  simp [afterAll]

end Position

end HdlLex
