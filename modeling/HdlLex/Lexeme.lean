import HdlLex.LexError
import HdlLex.Token

/-!
# Lexeme — what stands at the front of a text

Reading the front of a text needs no positions: it yields the kind, the
characters and the meaning of what stands there, or a fault. Both say how
many characters were passed, from which the cursor works out every position.

* `Lexeme` — a unit of the language as it is written.
* `Fault` — a cause, where the faulty construct begins and how far reading
  got.
* `Fault.behind` — the same fault seen from an earlier place.
-/

namespace HdlLex

/-- A unit of the language as it is written. -/
structure Lexeme where
  kind : TokenKind
  /-- The characters of the source. -/
  written : List Char
  /-- What they stand for. -/
  meaning : List Char
  deriving DecidableEq, Repr

/-- A lexeme that stands for itself. -/
def Lexeme.plain (kind : TokenKind) (written : List Char) : Lexeme := ⟨kind, written, written⟩

/-- Why the front of a text cannot be read. -/
structure Fault where
  cause : LexError.Cause
  /-- The characters before the faulty construct. -/
  lead : List Char
  /-- The characters passed when the fault is found. -/
  passed : List Char
  deriving DecidableEq, Repr

/-- A fault that lies behind further characters. -/
def Fault.behind (cs : List Char) (fault : Fault) : Fault :=
  { fault with lead := cs ++ fault.lead, passed := cs ++ fault.passed }

namespace Lexeme

/-- What stands at the front of a text, followed by what stands at the front of the rest. -/
theorem append_isPrefix {xs ys cs : List Char} (hFirst : xs <+: cs)
    (hSecond : ys <+: cs.drop xs.length) : xs ++ ys <+: cs := by
  obtain ⟨rest, rfl⟩ := hFirst
  rw [List.drop_left] at hSecond
  exact (List.prefix_append_right_inj xs).2 hSecond

end Lexeme

end HdlLex
