import HdlLex.Proofs.Grammar

/-!
# Quoted grammar — literals are taken whole

A literal is decoded while its closing quote is looked for. What is found
behind the opening quote is an encoding of the meaning that comes out, and
every encoding is found again, whatever follows the closing quote.

Main results:

* `Lexeme.inside_encodes_append` — an encoding is passed over, whatever follows.
* `Lexeme.encodes_of_inside`, `Lexeme.inside_append` — the scanner reads
  exactly the encodings.
* `Lexeme.string_append`, `Lexeme.char_append` — a literal is taken whole.
-/

namespace HdlLex.Lexeme

-- ---------------------------------------------------------------------------
-- Escapes
-- ---------------------------------------------------------------------------

theorem unescape?_eq_some_iff {e x : Char} : unescape? e = some x ↔ (e, x) ∈ escapes := by
  constructor
  · intro h
    unfold unescape? at h
    split at h
    · next hEq => cases h; subst hEq; decide
    split at h
    · next hEq => cases h; subst hEq; decide
    split at h
    · next hEq => cases h; subst hEq; decide
    split at h
    · next hEq => cases h; subst hEq; decide
    split at h
    · next hEq =>
      cases h
      simp only [Bool.or_eq_true, decide_eq_true_eq] at hEq
      rcases hEq with (rfl | rfl) | rfl <;> decide
    · cases h
  · intro h
    have hAll : ∀ pair ∈ escapes, unescape? pair.1 = some pair.2 := by decide
    exact hAll (e, x) h

theorem ne_lineFeed_of_mem_escapes {e x : Char} (h : (e, x) ∈ escapes) : e ≠ '\n' := by
  have hAll : ∀ pair ∈ escapes, pair.1 ≠ '\n' := by decide
  exact hAll (e, x) h

-- ---------------------------------------------------------------------------
-- What stands between quotes
-- ---------------------------------------------------------------------------

/-- What is read up to the closing quote encodes the meaning that comes out. -/
theorem encodes_of_inside {quote : Char} {cs written meaning : List Char}
    (h : inside quote cs = .closed written meaning) : Encodes quote meaning written := by
  fun_induction inside quote cs generalizing written meaning with
  | case1 => cases h
  | case2 =>
    cases h
    exact .nil
  | case3 => cases h
  | case4 => cases h
  | case5 => cases h
  | case6 e rest _ x hEscape _ _ ih =>
    obtain ⟨w, m, hFound, rfl, rfl⟩ := Inside.behind_eq_closed h
    exact .escape (unescape?_eq_some_iff.1 hEscape) (ih hFound)
  | case7 => cases h
  | case8 c cs hQuote hLine hBackslash ih =>
    obtain ⟨w, m, hFound, rfl, rfl⟩ := Inside.behind_eq_closed h
    exact .raw hQuote hLine hBackslash (ih hFound)

theorem Inside.behind_behind (written meaning cs rest : List Char) (found : Inside) :
    (found.behind cs rest).behind written meaning =
      found.behind (written ++ cs) (meaning ++ rest) := by
  cases found <;> simp [Inside.behind]

/-- An encoding is passed over, whatever follows it. -/
theorem inside_encodes_append {quote : Char} {meaning written : List Char}
    (h : Encodes quote meaning written) (hQuote : quote ≠ '\\') (ahead : List Char) :
    inside quote (written ++ ahead) = (inside quote ahead).behind written meaning := by
  induction h with
  | nil =>
    rw [List.nil_append]
    cases inside quote ahead <;> rfl
  | @raw c meaning written hNotQuote hNotLine hNotBackslash _ ih =>
    rw [List.cons_append, inside.eq_def]
    simp only [if_neg hNotQuote, if_neg hNotLine, if_neg hNotBackslash, ih]
    exact Inside.behind_behind [c] [c] written meaning _
  | @escape e x meaning written hEscape _ ih =>
    rw [List.cons_append, List.cons_append, inside.eq_def]
    have hLine : ¬ ('\\' : Char) = '\n' := by decide
    simp only [if_neg hQuote.symm, if_neg hLine, if_neg (ne_lineFeed_of_mem_escapes hEscape),
      if_true, unescape?_eq_some_iff.2 hEscape, ih]
    exact Inside.behind_behind ['\\', e] [x] written meaning _

/-- An encoding is read up to its closing quote, whatever follows. -/
theorem inside_append {quote : Char} {meaning written : List Char}
    (h : Encodes quote meaning written) (hQuote : quote ≠ '\\') (ahead : List Char) :
    inside quote (written ++ quote :: ahead) = .closed written meaning := by
  rw [inside_encodes_append h hQuote, inside.eq_def]
  simp [Inside.behind]

/-- A literal stays on its line. -/
theorem Encodes.lineFeed_not_mem {quote : Char} {meaning written : List Char}
    (h : Encodes quote meaning written) : '\n' ∉ written := by
  induction h with
  | nil => simp
  | raw _ hNotLine _ _ ih => simp [Ne.symm hNotLine, ih]
  | escape hEscape _ ih => simp [Ne.symm (ne_lineFeed_of_mem_escapes hEscape), ih]

-- ---------------------------------------------------------------------------
-- Literals
-- ---------------------------------------------------------------------------

/-- What is taken as a string literal is one. -/
theorem string_valid (unicode : Bool) {cs : List Char} {lexeme : Lexeme}
    (h : string cs = .ok lexeme) : Valid unicode lexeme := by
  unfold string at h
  split at h
  · next hInside =>
    cases h
    exact .string (encodes_of_inside hInside)
  · cases h
  · cases h

theorem char_valid (unicode : Bool) {cs : List Char} {lexeme : Lexeme}
    (h : char cs = .ok lexeme) : Valid unicode lexeme := by
  unfold char at h
  split at h
  · next written meaning hInside =>
    split at h
    · next hOne =>
      cases h
      obtain ⟨x, rfl⟩ := List.length_eq_one_iff.1 hOne
      exact .char (encodes_of_inside hInside)
    · cases h
  · cases h
  · cases h

/-- A string literal is taken whole, and nothing behind it. -/
theorem string_append {meaning cs : List Char} (h : Encodes '"' meaning cs) (ahead : List Char) :
    string (cs ++ '"' :: ahead) = .ok ⟨.string, '"' :: (cs ++ ['"']), meaning⟩ := by
  rw [string, inside_append h (by decide) ahead]
  rfl

theorem char_append {x : Char} {cs : List Char} (h : Encodes '\'' [x] cs) (ahead : List Char) :
    char (cs ++ '\'' :: ahead) = .ok ⟨.char, '\'' :: (cs ++ ['\'']), [x]⟩ := by
  rw [char, inside_append h (by decide) ahead]
  rfl

end HdlLex.Lexeme
