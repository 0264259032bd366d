/-!
# Span — a stretch of a source text

A span names its first byte and the byte after its last one, together with
the line and column where it begins. Lines and columns count from one; the
span that points nowhere is zero throughout.
-/

namespace HdlLex

/-- A stretch of source text and the place where it begins. -/
structure Span where
  /-- The offset of the first byte. -/
  start : Nat
  /-- The offset after the last byte. -/
  stop : Nat
  /-- The line of the first character, from one. -/
  line : UInt32
  /-- The column of the first character, in characters from one. -/
  column : UInt32
  deriving DecidableEq, Repr

namespace Span

/-- The span of nothing in particular. -/
def nowhere : Span := ⟨0, 0, 0, 0⟩

instance : Inhabited Span := ⟨nowhere⟩

/-- A place without an extent in bytes. -/
def point (line column : UInt32) : Span := ⟨0, 0, line, column⟩

/-- Whether the span covers no byte. -/
def isEmpty (span : Span) : Bool := span.start == span.stop

/-- The number of bytes covered, of a span whose ends are in order. -/
def length (span : Span) : Nat := span.stop - span.start

end Span

end HdlLex
