import HdlLex.Comment
import HdlLex.Text.Blank

/-!
# Trivia — what stands between tokens

White space and comments separate tokens and are dropped. A text begins with
a gap, possibly empty, or with trivia that cannot be read.
-/

namespace HdlLex.Trivia

/-- Characters of trivia before what follows. -/
def before (cs : List Char) : Except Fault (List Char) → Except Fault (List Char)
  | .ok gap => .ok (cs ++ gap)
  | .error fault => .error (fault.behind cs)

/-- The longest stretch of white space and comments at the front of a text. -/
def gap (nesting : Option UInt32) : List Char → Except Fault (List Char)
  | [] => .ok []
  | c :: cs =>
    if Text.isBlank c then before [c] (gap nesting cs)
    else match _ : Comment.front? nesting (c :: cs) with
      | none => .ok []
      | some (.error fault) => .error fault
      | some (.ok comment) => before comment (gap nesting ((c :: cs).drop comment.length))
termination_by cs => cs.length
decreasing_by
  · simp
  · rename_i hFront
    have hTaken := List.length_pos_iff.2 (Comment.front?_ne_nil hFront)
    simp only [List.length_drop, List.length_cons]
    omega

/-! ## What is read stands at the front -/

theorem before_eq_ok {cs gap : List Char} {found : Except Fault (List Char)}
    (h : before cs found = .ok gap) : ∃ g, found = .ok g ∧ gap = cs ++ g := by
  cases found with
  | ok g =>
    cases h
    exact ⟨g, rfl, rfl⟩
  | error fault => cases h

/-- A gap stands at the front of the text. -/
theorem gap_isPrefix {nesting : Option UInt32} {cs found : List Char}
    (h : gap nesting cs = .ok found) : found <+: cs := by
  fun_induction gap nesting cs generalizing found with
  | case1 =>
    cases h
    exact List.nil_prefix
  | case2 c cs _ ih =>
    obtain ⟨g, hRest, rfl⟩ := before_eq_ok h
    exact (List.prefix_cons_inj c).2 (ih hRest)
  | case3 =>
    cases h
    exact List.nil_prefix
  | case4 => cases h
  | case5 c cs _ comment hFront ih =>
    obtain ⟨g, hRest, rfl⟩ := before_eq_ok h
    exact Lexeme.append_isPrefix (Comment.front?_isPrefix hFront) (ih hRest)

end HdlLex.Trivia
