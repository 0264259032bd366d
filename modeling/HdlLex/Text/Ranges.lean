/-!
# Text — ranges of code points

A character class of the Unicode standard, here of version 17, is a list of
closed ranges in ascending order. The search stops at the first range that
begins beyond the code point it looks for, so text in the lowest ranges is
classified at once.

* `Ranges.contains` — whether a code point lies in one of the ranges.
* `Ranges.isAscendingFrom` — the order that every table has.
* `Ranges.contains_iff` — in that order the early stop loses nothing.
-/

namespace HdlLex

/-- Closed ranges of code points, first and last one included. -/
abbrev Ranges := List (Nat × Nat)

namespace Ranges

/-- Whether `n` lies in one of the ranges, which are in ascending order. -/
def contains : Ranges → Nat → Bool
  | [], _ => false
  | (first, last) :: rest, n =>
    if n < first then false else if n ≤ last then true else contains rest n

/-- Whether the ranges begin at `least` or later and each ends before the next one begins. -/
def isAscendingFrom (least : Nat) : Ranges → Bool
  | [] => true
  | (first, last) :: rest =>
    least ≤ first && first ≤ last && isAscendingFrom (last + 1) rest

theorem le_of_isAscendingFrom {least : Nat} {ranges : Ranges}
    (h : ranges.isAscendingFrom least = true) {r : Nat × Nat} (hMem : r ∈ ranges) :
    least ≤ r.1 := by
  induction ranges generalizing least with
  | nil => cases hMem
  | cons s rest ih =>
    obtain ⟨first, last⟩ := s
    simp only [isAscendingFrom, Bool.and_eq_true, decide_eq_true_eq] at h
    rcases List.mem_cons.1 hMem with rfl | hLater
    · exact h.1.1
    · have hBeyond := ih h.2 hLater
      omega

/-- In ascending ranges the search finds exactly the members. -/
theorem contains_iff {least : Nat} {ranges : Ranges}
    (h : ranges.isAscendingFrom least = true) (n : Nat) :
    ranges.contains n = true ↔ ∃ r ∈ ranges, r.1 ≤ n ∧ n ≤ r.2 := by
  induction ranges generalizing least with
  | nil => simp [contains]
  | cons r rest ih =>
    obtain ⟨first, last⟩ := r
    simp only [isAscendingFrom, Bool.and_eq_true, decide_eq_true_eq] at h
    obtain ⟨⟨-, hFirst⟩, hRest⟩ := h
    simp only [contains, List.mem_cons, exists_eq_or_imp]
    by_cases hBelow : n < first
    · -- all further ranges begin later still
      rw [if_pos hBelow]
      constructor
      · intro h
        cases h
      · rintro (⟨hFrom, -⟩ | ⟨s, hMem, hFrom, -⟩)
        · omega
        · have hLater := le_of_isAscendingFrom hRest hMem
          omega
    · rw [if_neg hBelow]
      by_cases hInside : n ≤ last
      · rw [if_pos hInside]
        exact ⟨fun _ => Or.inl ⟨by omega, hInside⟩, fun _ => rfl⟩
      · rw [if_neg hInside, ih hRest]
        constructor
        · exact Or.inr
        · rintro (⟨-, hUpTo⟩ | hLater)
          · omega
          · exact hLater

end Ranges

end HdlLex
