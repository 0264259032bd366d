import HdlLex.Alphabet
import Mathlib.Data.List.TakeWhile

/-!
# Alphabet — where a run of characters ends

A scanner takes the longest run of characters of one class. The run is what
its text says it is as soon as the next character falls outside the class,
and no white-space character lies in any class of the language.

Main results:

* `takeWhile_append_of_stop` — a run ends where its class ends.
* `length_le_takeWhile` — no stretch of the class at the front is longer.
* `isWordPart_of_isBlank`, `isOperatorStart_of_isBlank` — white space ends
  every word, number and operator.
-/

namespace HdlLex

-- ---------------------------------------------------------------------------
-- Runs
-- ---------------------------------------------------------------------------

/-- The first character of the text, if there is one, fails the test. -/
def StopsBefore (test : Char → Bool) (cs : List Char) : Prop :=
  ∀ c, cs.head? = some c → test c = false

theorem StopsBefore.nil (test : Char → Bool) : StopsBefore test [] := by
  intro c hHead
  cases hHead

theorem StopsBefore.cons {test : Char → Bool} {c : Char} (h : test c = false) (cs : List Char) :
    StopsBefore test (c :: cs) := by
  intro d hHead
  rw [← Option.some.inj hHead]
  exact h

/-- A text that does not go on in a class does not go on in a smaller one. -/
theorem StopsBefore.mono {small large : Char → Bool} {cs : List Char}
    (hSub : ∀ c, small c = true → large c = true) (h : StopsBefore large cs) :
    StopsBefore small cs := by
  intro c hHead
  by_contra hSmall
  rw [Bool.not_eq_false] at hSmall
  have hLarge := hSub c hSmall
  rw [h c hHead] at hLarge
  cases hLarge

/-- What a run leaves begins outside its class. -/
theorem stopsBefore_dropWhile (test : Char → Bool) (cs : List Char) :
    StopsBefore test (cs.dropWhile test) := by
  intro c hHead
  have hNot := List.head?_dropWhile_not test cs
  rw [hHead] at hNot
  simpa using hNot

/-- A run does not go on into a text that begins outside its class. -/
theorem takeWhile_stop {test : Char → Bool} {ahead : List Char} (h : StopsBefore test ahead)
    (cs : List Char) : (cs ++ ahead).takeWhile test = cs.takeWhile test := by
  have hStop : ahead.takeWhile test = [] := by
    cases ahead with
    | nil => rfl
    | cons c ahead =>
      rw [List.takeWhile_cons, h c rfl]
      rfl
  rw [List.takeWhile_append, hStop]
  split
  · next hAll =>
    rw [List.append_nil]
    exact (List.takeWhile_prefix test).eq_of_length hAll |>.symm
  · rfl

/-- A run ends where its class ends. -/
theorem takeWhile_append_of_stop {test : Char → Bool} {xs ys : List Char}
    (hAll : ∀ c ∈ xs, test c = true) (hStop : StopsBefore test ys) :
    (xs ++ ys).takeWhile test = xs := by
  rw [takeWhile_stop hStop, List.takeWhile_eq_self_iff]
  exact hAll

/-- No stretch of the class at the front of a text is longer than its run. -/
theorem length_le_takeWhile {test : Char → Bool} {xs cs : List Char}
    (hAll : ∀ c ∈ xs, test c = true) (hFront : xs <+: cs) :
    xs.length ≤ (cs.takeWhile test).length := by
  obtain ⟨ys, rfl⟩ := hFront
  rw [List.takeWhile_append_of_pos hAll, List.length_append]
  omega

/-- What is made of the class stands in front of such a text, or not at all. -/
theorem isPrefix_stop_iff {test : Char → Bool} {xs ahead : List Char}
    (hAll : ∀ c ∈ xs, test c = true) (hStop : StopsBefore test ahead) (cs : List Char) :
    xs <+: cs ++ ahead ↔ xs <+: cs := by
  constructor
  · intro hFront
    have hRun := length_le_takeWhile hAll hFront
    rw [takeWhile_stop hStop] at hRun
    have hShort := (List.takeWhile_prefix test (l := cs)).length_le
    exact List.prefix_of_prefix_length_le hFront (List.prefix_append cs ahead) (by omega)
  · intro hFront
    exact hFront.trans (List.prefix_append cs ahead)

/-- A character that a text does not hold differs from all of its characters. -/
theorem all_bne_of_not_mem {c : Char} {cs : List Char} (h : c ∉ cs) :
    ∀ d ∈ cs, (d != c) = true := by
  intro d hMem
  rw [bne_iff_ne]
  rintro rfl
  exact h hMem

/-- A text begins with a line, up to its line feed or the end. -/
theorem exists_line (cs : List Char) :
    ∃ line ahead, cs = line ++ ahead ∧ '\n' ∉ line ∧
      (ahead = [] ∨ ahead.head? = some '\n') := by
  induction cs with
  | nil => exact ⟨[], [], rfl, List.not_mem_nil, Or.inl rfl⟩
  | cons c cs ih =>
    by_cases hFeed : c = '\n'
    · subst hFeed
      exact ⟨[], '\n' :: cs, rfl, List.not_mem_nil, Or.inr rfl⟩
    · obtain ⟨line, ahead, rfl, hLine, hEnd⟩ := ih
      exact ⟨c :: line, ahead, rfl, by simp [Ne.symm hFeed, hLine], hEnd⟩

/-- A line is the run of its text up to a line feed or to the end. -/
theorem takeWhile_line {body rest : List Char} (hBody : '\n' ∉ body)
    (hEnd : rest = [] ∨ rest.head? = some '\n') :
    (body ++ rest).takeWhile (· != '\n') = body := by
  refine takeWhile_append_of_stop (all_bne_of_not_mem hBody) ?_
  intro c hHead
  rcases hEnd with rfl | hFeed
  · cases hHead
  · rw [hFeed] at hHead
    cases hHead
    rfl

-- ---------------------------------------------------------------------------
-- Digits
-- ---------------------------------------------------------------------------

/-- The characters that are digits of a base. -/
def Radix.numerals : Radix → List Char
  | .binary => ['0', '1']
  | .decimal => ['0', '1', '2', '3', '4', '5', '6', '7', '8', '9']
  | .hexadecimal => ['0', '1', '2', '3', '4', '5', '6', '7', '8', '9',
      'a', 'b', 'c', 'd', 'e', 'f', 'A', 'B', 'C', 'D', 'E', 'F']

/-- A character whose code point lies between two others is one of those listed in between. -/
theorem mem_of_toNat_between (first last : Nat) {chars : List Char}
    (hAll : ∀ n ∈ List.range' first (last + 1 - first), Char.ofNat n ∈ chars) {c : Char}
    (hFirst : first ≤ c.toNat) (hLast : c.toNat ≤ last) : c ∈ chars := by
  have hMem : c.toNat ∈ List.range' first (last + 1 - first) := by
    rw [List.mem_range'_1]
    omega
  have hChar := hAll c.toNat hMem
  rwa [Char.ofNat_toNat] at hChar

theorem mem_numerals_of_isDigit {c : Char} (h : c.isDigit = true) :
    c ∈ Radix.decimal.numerals := by
  simp only [Char.isDigit, Bool.and_eq_true, decide_eq_true_eq] at h
  obtain ⟨hFirst, hLast⟩ := h
  exact mem_of_toNat_between 48 57 (by decide) hFirst hLast

theorem Radix.isDigit_iff (radix : Radix) (c : Char) :
    radix.isDigit c = true ↔ c ∈ radix.numerals := by
  constructor
  · intro h
    cases radix with
    | binary => simpa [isDigit, numerals] using h
    | decimal => exact mem_numerals_of_isDigit h
    | hexadecimal =>
      simp only [isDigit, Bool.or_eq_true, Bool.and_eq_true, decide_eq_true_eq] at h
      rcases h with (hDigit | ⟨hFirst, hLast⟩) | ⟨hFirst, hLast⟩
      · exact List.mem_append_left _ (mem_numerals_of_isDigit hDigit)
      · exact mem_of_toNat_between 97 102 (by decide) hFirst hLast
      · exact mem_of_toNat_between 65 70 (by decide) hFirst hLast
  · intro h
    have hAll : radix.numerals.all radix.isDigit = true := by
      cases radix <;> decide
    exact List.all_eq_true.1 hAll c h

-- ---------------------------------------------------------------------------
-- White space
-- ---------------------------------------------------------------------------

/-- The code points of the white-space characters. -/
def blankCodes : List Nat :=
  Text.blankRanges.flatMap fun range => List.range' range.1 (range.2 + 1 - range.1)

theorem mem_blankCodes {c : Char} (h : Text.isBlank c = true) : c.toNat ∈ blankCodes := by
  obtain ⟨range, hRange, hFirst, hLast⟩ :=
    (Text.isBlank_iff c).1 h
  refine List.mem_flatMap.2 ⟨range, hRange, ?_⟩
  rw [List.mem_range'_1]
  omega

/-- What holds of the listed code points holds of every white-space character. -/
theorem of_isBlank (test : Char → Bool)
    (hAll : (blankCodes.all fun n => test (Char.ofNat n)) = true) {c : Char}
    (h : Text.isBlank c = true) : test c = true := by
  have hCode := List.all_eq_true.1 hAll _ (mem_blankCodes h)
  rwa [Char.ofNat_toNat] at hCode

/-- White space ends every word and every number. -/
theorem isWordPart_of_isBlank {c : Char} (h : Text.isBlank c = true) (unicode : Bool) :
    isWordPart unicode c = false := by
  have hAll : (blankCodes.all fun n => !isWordPart unicode (Char.ofNat n)) = true := by
    revert unicode
    decide +kernel
  have hNot := of_isBlank (fun c => !isWordPart unicode c) hAll h
  simpa using hNot

theorem isOperatorStart_of_isBlank {c : Char} (h : Text.isBlank c = true) :
    isOperatorStart c = false := by
  have hNot : (!isOperatorStart c) = true :=
    of_isBlank (fun c => !isOperatorStart c) (by decide +kernel) h
  simpa using hNot

end HdlLex
