import HdlLex.Text.Ranges

/-!
# Text — white space

The property White_Space: the twenty-five characters that separate tokens.
-/

namespace HdlLex.Text

/-- The ranges of the property White_Space. -/
def blankRanges : Ranges :=
  [(0x9, 0xD), (0x20, 0x20), (0x85, 0x85), (0xA0, 0xA0), (0x1680, 0x1680), (0x2000, 0x200A),
   (0x2028, 0x2029), (0x202F, 0x202F), (0x205F, 0x205F), (0x3000, 0x3000)]

/-- Whether `c` is a white-space character. -/
def isBlank (c : Char) : Bool :=
  blankRanges.contains c.toNat

theorem isBlank_iff (c : Char) :
    isBlank c = true ↔ ∃ range ∈ blankRanges, range.1 ≤ c.toNat ∧ c.toNat ≤ range.2 := by
  have hAscending : blankRanges.isAscendingFrom 0 = true := by decide +kernel
  exact Ranges.contains_iff hAscending c.toNat

end HdlLex.Text
