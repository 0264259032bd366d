/-!
# Text — byte offsets in UTF-8

Offsets count the bytes of the UTF-8 encoding, while text is a list of
characters. An offset that falls inside a character, or beyond the end, cuts
nothing.

* `byteLength` — how many bytes a text takes.
* `dropBytes?`, `takeBytes?` — the text after and before an offset.
* `slice?` — the text between two offsets.
-/

namespace HdlLex.Text

/-- The number of bytes of the UTF-8 encoding. -/
def byteLength : List Char → Nat
  | [] => 0
  | c :: cs => c.utf8Size + byteLength cs

/-- The text from byte `n` on, if a character begins or the text ends there. -/
def dropBytes? : List Char → Nat → Option (List Char)
  | cs, 0 => some cs
  | [], _ + 1 => none
  | c :: cs, n + 1 => if c.utf8Size ≤ n + 1 then dropBytes? cs (n + 1 - c.utf8Size) else none

/-- The text before byte `n`, if a character begins or the text ends there. -/
def takeBytes? : List Char → Nat → Option (List Char)
  | _, 0 => some []
  | [], _ + 1 => none
  | c :: cs, n + 1 =>
    if c.utf8Size ≤ n + 1 then (takeBytes? cs (n + 1 - c.utf8Size)).map (c :: ·) else none

/-- The text from byte `start` to byte `stop`, if both are boundaries in this order. -/
def slice? (cs : List Char) (start stop : Nat) : Option (List Char) :=
  if start ≤ stop then (dropBytes? cs start).bind (takeBytes? · (stop - start)) else none

@[simp]
theorem byteLength_append (xs ys : List Char) :
    byteLength (xs ++ ys) = byteLength xs + byteLength ys := by
  induction xs with
  | nil => simp [byteLength]
  | cons c cs ih => simp [byteLength, ih, Nat.add_assoc]

theorem byteLength_eq_zero_iff {cs : List Char} : byteLength cs = 0 ↔ cs = [] := by
  cases cs with
  | nil => simp [byteLength]
  | cons c cs =>
    have hSize := c.utf8Size_pos
    simp only [byteLength, reduceCtorEq, iff_false]
    omega

theorem dropBytes?_append (xs ys : List Char) :
    dropBytes? (xs ++ ys) (byteLength xs) = some ys := by
  induction xs with
  | nil => simp [byteLength, dropBytes?]
  | cons c cs ih =>
    have hSize := c.utf8Size_pos
    obtain ⟨k, hk⟩ : ∃ k, byteLength (c :: cs) = k + 1 :=
      ⟨byteLength (c :: cs) - 1, by simp only [byteLength]; omega⟩
    have hRest : k + 1 - c.utf8Size = byteLength cs := by simp only [byteLength] at hk; omega
    rw [hk, List.cons_append, dropBytes?, if_pos (by simp only [byteLength] at hk; omega), hRest, ih]

theorem takeBytes?_append (xs ys : List Char) :
    takeBytes? (xs ++ ys) (byteLength xs) = some xs := by
  induction xs with
  | nil => cases ys <;> rfl
  | cons c cs ih =>
    have hSize := c.utf8Size_pos
    obtain ⟨k, hk⟩ : ∃ k, byteLength (c :: cs) = k + 1 :=
      ⟨byteLength (c :: cs) - 1, by simp only [byteLength]; omega⟩
    have hRest : k + 1 - c.utf8Size = byteLength cs := by simp only [byteLength] at hk; omega
    rw [hk, List.cons_append, takeBytes?, if_pos (by simp only [byteLength] at hk; omega), hRest, ih]
    rfl

/-- A stretch of text is what lies between the bytes before it and those up to its end. -/
theorem slice?_append (xs ys zs : List Char) :
    slice? (xs ++ ys ++ zs) (byteLength xs) (byteLength (xs ++ ys)) = some ys := by
  have hStart : byteLength xs ≤ byteLength (xs ++ ys) := by simp
  have hWidth : byteLength (xs ++ ys) - byteLength xs = byteLength ys := by simp
  rw [slice?, if_pos hStart, List.append_assoc, dropBytes?_append, Option.bind_some, hWidth,
    takeBytes?_append]

end HdlLex.Text
