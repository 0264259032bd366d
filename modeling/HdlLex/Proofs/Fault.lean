import HdlLex.Lexeme.Front
import HdlLex.Trivia

/-!
# Faults — where they lie

A fault says how many characters were passed when it was found and how many
of them stand before the faulty construct. Both stretches stand at the front
of the text, and the construct itself begins directly behind the second one.

Main results:

* `Comment.block_fits`, `Trivia.gap_fits` — the faults of comments and gaps.
* `Lexeme.front_fits` — the faults of lexemes.
-/

namespace HdlLex

/-- The characters with which the construct that a cause names begins. -/
def LexError.Cause.opening : LexError.Cause → List Char
  | .unclosedString => ['"']
  | .unclosedChar | .notOneChar _ => ['\'']
  | .noDigits mark => mark.toList
  | .unknownEscape escape => ['\\', escape]
  | .unclosedComment | .commentTooDeep _ => ['/', '*']
  | .unexpectedChar character => [character]

/-- A fault that lies where it says in the text `cs`. -/
structure Fault.Fits (fault : Fault) (cs : List Char) : Prop where
  passed_isPrefix : fault.passed <+: cs
  lead_isPrefix : fault.lead <+: fault.passed
  /-- Behind its lead the text goes on with the construct that the fault names. -/
  opening_isPrefix : fault.cause.opening <+: cs.drop fault.lead.length

/-- What stands before the faulty construct stands at the front of the text. -/
theorem Fault.Fits.lead_isPrefix_text {fault : Fault} {cs : List Char} (h : fault.Fits cs) :
    fault.lead <+: cs :=
  h.lead_isPrefix.trans h.passed_isPrefix

/-- A fault that fits a text fits it behind further characters, too. -/
theorem Fault.Fits.behind {fault : Fault} {ahead : List Char} (h : fault.Fits ahead)
    (cs : List Char) : (fault.behind cs).Fits (cs ++ ahead) where
  passed_isPrefix := (List.prefix_append_right_inj cs).2 h.passed_isPrefix
  lead_isPrefix := (List.prefix_append_right_inj cs).2 h.lead_isPrefix
  opening_isPrefix := by
    have hDrop : (cs ++ ahead).drop (cs ++ fault.lead).length = ahead.drop fault.lead.length := by
      rw [List.length_append, List.drop_append]
      simp
    show fault.cause.opening <+: (cs ++ ahead).drop (cs ++ fault.lead).length
    rw [hDrop]
    exact h.opening_isPrefix

theorem Fault.fits_of_lead_nil {cause : LexError.Cause} {passed cs : List Char}
    (hPassed : passed <+: cs) (hOpening : cause.opening <+: cs) :
    Fault.Fits ⟨cause, [], passed⟩ cs where
  passed_isPrefix := hPassed
  lead_isPrefix := List.nil_prefix
  opening_isPrefix := hOpening

-- ---------------------------------------------------------------------------
-- Comments and gaps
-- ---------------------------------------------------------------------------

namespace Comment

theorem Inside.behind_eq_tooDeep {cs before : List Char} {limit : UInt32} {found : Inside}
    (h : found.behind cs = .tooDeep before limit) :
    ∃ b, found = .tooDeep b limit ∧ before = cs ++ b := by
  cases found with
  | closed w => cases h
  | unclosed => cases h
  | tooDeep b l =>
    cases h
    exact ⟨b, rfl, rfl⟩

/-- What stands before an opening mark too many is followed by that mark. -/
theorem inside_tooDeep_isPrefix {nesting : Option UInt32} {outer : Nat} {cs before : List Char}
    {limit : UInt32} (h : inside nesting outer cs = .tooDeep before limit) :
    before ++ ['/', '*'] <+: cs := by
  fun_induction inside nesting outer cs generalizing before with
  | case1 => cases h
  | case2 => cases h
  | case3 => cases h
  | case4 c d cs hMark outer ih =>
    obtain ⟨b, hFound, rfl⟩ := Inside.behind_eq_tooDeep h
    obtain ⟨rfl, rfl⟩ : c = '*' ∧ d = '/' := by simpa using hMark
    exact (List.prefix_append_right_inj ['*', '/']).2 (ih hFound)
  | case5 outer c d cs _ hMark flat ih =>
    rw [flat] at ih
    obtain ⟨b, hFound, rfl⟩ := Inside.behind_eq_tooDeep h
    obtain ⟨rfl, rfl⟩ : c = '/' ∧ d = '*' := by simpa using hMark
    exact (List.prefix_cons_inj '/').2 (ih hFound)
  | case6 outer c d cs _ hMark =>
    -- this mark itself is the one too many
    cases h
    obtain ⟨rfl, rfl⟩ : c = '/' ∧ d = '*' := by simpa using hMark
    exact ⟨cs, rfl⟩
  | case7 outer c d cs _ hMark limit' nested _ ih =>
    rw [nested] at ih
    obtain ⟨b, hFound, rfl⟩ := Inside.behind_eq_tooDeep h
    obtain ⟨rfl, rfl⟩ : c = '/' ∧ d = '*' := by simpa using hMark
    exact (List.prefix_append_right_inj ['/', '*']).2 (ih hFound)
  | case8 outer c d cs _ _ ih =>
    obtain ⟨b, hFound, rfl⟩ := Inside.behind_eq_tooDeep h
    exact (List.prefix_cons_inj c).2 (ih hFound)

theorem block_fits {nesting : Option UInt32} {cs : List Char} {fault : Fault}
    (h : block nesting cs = .error fault) : fault.Fits ('/' :: '*' :: cs) := by
  unfold block at h
  split at h
  · cases h
  · cases h
    exact Fault.fits_of_lead_nil List.prefix_rfl ⟨cs, rfl⟩
  · next before limit hInside =>
    cases h
    have hBefore : before ++ ['/', '*'] <+: cs := inside_tooDeep_isPrefix hInside
    obtain ⟨rest, rfl⟩ := hBefore
    refine ⟨⟨'/' :: '*' :: rest, by simp⟩, List.prefix_rfl, ⟨rest, ?_⟩⟩
    simp [LexError.Cause.opening]

theorem front?_fits {nesting : Option UInt32} {cs : List Char} {fault : Fault}
    (h : front? nesting cs = some (.error fault)) : fault.Fits cs := by
  unfold front? at h
  split at h
  · cases h
  · exact block_fits (Option.some.inj h)
  · cases h

end Comment

namespace Trivia

theorem before_eq_error {cs : List Char} {found : Except Fault (List Char)} {fault : Fault}
    (h : before cs found = .error fault) : ∃ f, found = .error f ∧ fault = f.behind cs := by
  cases found with
  | ok g => cases h
  | error f =>
    cases h
    exact ⟨f, rfl, rfl⟩

/-- The faults of a gap lie where they say. -/
theorem gap_fits {nesting : Option UInt32} {cs : List Char} {fault : Fault}
    (h : gap nesting cs = .error fault) : fault.Fits cs := by
  fun_induction gap nesting cs generalizing fault with
  | case1 => cases h
  | case2 c cs _ ih =>
    obtain ⟨f, hRest, rfl⟩ := before_eq_error h
    exact (ih hRest).behind [c]
  | case3 => cases h
  | case4 c cs _ fault' hFront =>
    cases h
    exact Comment.front?_fits hFront
  | case5 c cs _ comment hFront ih =>
    obtain ⟨f, hRest, rfl⟩ := before_eq_error h
    -- the fault lies behind a comment that could be read
    obtain ⟨rest, hSplit⟩ := Comment.front?_isPrefix hFront
    have hFits := ih hRest
    rw [← hSplit, List.drop_left] at hFits
    rw [← hSplit]
    exact hFits.behind comment

end Trivia

-- ---------------------------------------------------------------------------
-- Lexemes
-- ---------------------------------------------------------------------------

namespace Lexeme

theorem Inside.behind_eq_unclosed {cs meaning written : List Char} {found : Inside}
    (h : found.behind cs meaning = .unclosed written) :
    ∃ w, found = .unclosed w ∧ written = cs ++ w := by
  cases found with
  | closed w m => cases h
  | unclosed w =>
    cases h
    exact ⟨w, rfl, rfl⟩
  | stray w e => cases h

theorem Inside.behind_eq_stray {cs meaning written : List Char} {escape : Char} {found : Inside}
    (h : found.behind cs meaning = .stray written escape) :
    ∃ w, found = .stray w escape ∧ written = cs ++ w := by
  cases found with
  | closed w m => cases h
  | unclosed w => cases h
  | stray w e =>
    cases h
    exact ⟨w, rfl, rfl⟩

theorem inside_unclosed_isPrefix {quote : Char} {cs written : List Char}
    (h : inside quote cs = .unclosed written) : written <+: cs := by
  fun_induction inside quote cs generalizing written with
  | case1 => cases h; exact List.nil_prefix
  | case2 => cases h
  | case3 => cases h; exact List.nil_prefix
  | case4 => cases h; exact List.prefix_rfl
  | case5 e rest => cases h; exact (List.prefix_cons_inj _).2 List.nil_prefix
  | case6 e rest _ x _ _ _ ih =>
    obtain ⟨w, hFound, rfl⟩ := Inside.behind_eq_unclosed h
    simpa using ih hFound
  | case7 => cases h
  | case8 c cs _ _ _ ih =>
    obtain ⟨w, hFound, rfl⟩ := Inside.behind_eq_unclosed h
    simpa using ih hFound

theorem inside_stray_isPrefix {quote : Char} {cs written : List Char} {escape : Char}
    (h : inside quote cs = .stray written escape) : written ++ ['\\', escape] <+: cs := by
  fun_induction inside quote cs generalizing written with
  | case1 => cases h
  | case2 => cases h
  | case3 => cases h
  | case4 => cases h
  | case5 => cases h
  | case6 e rest _ x _ _ _ ih =>
    obtain ⟨w, hFound, rfl⟩ := Inside.behind_eq_stray h
    simpa using ih hFound
  | case7 e rest => cases h; exact ⟨rest, rfl⟩
  | case8 c cs _ _ _ ih =>
    obtain ⟨w, hFound, rfl⟩ := Inside.behind_eq_stray h
    simpa using ih hFound

/-- A backslash without an escape stands behind the quote and the characters before it. -/
theorem strayEscape_fits {quote : Char} {cs written : List Char} {escape : Char}
    (h : inside quote cs = .stray written escape) :
    (strayEscape quote written escape).Fits (quote :: cs) := by
  obtain ⟨rest, rfl⟩ := inside_stray_isPrefix h
  refine ⟨⟨escape :: rest, ?_⟩, ⟨['\\'], ?_⟩, ⟨rest, ?_⟩⟩
  · simp [strayEscape]
  · simp [strayEscape]
  · simp [strayEscape, LexError.Cause.opening]

theorem string_fits {cs : List Char} {fault : Fault} (h : string cs = .error fault) :
    fault.Fits ('"' :: cs) := by
  unfold string at h
  split at h
  · cases h
  · next hInside =>
    cases h
    have hWritten := (List.prefix_cons_inj '"').2 (inside_unclosed_isPrefix hInside)
    exact Fault.fits_of_lead_nil hWritten ⟨cs, rfl⟩
  · next hInside =>
    cases h
    exact strayEscape_fits hInside

theorem char_fits {cs : List Char} {fault : Fault} (h : char cs = .error fault) :
    fault.Fits ('\'' :: cs) := by
  unfold char at h
  split at h
  · next hInside =>
    split at h
    · cases h
    · cases h
      have hWritten := (List.prefix_cons_inj '\'').2 (inside_closed_isPrefix hInside)
      exact Fault.fits_of_lead_nil hWritten ⟨cs, rfl⟩
  · next hInside =>
    cases h
    have hWritten := (List.prefix_cons_inj '\'').2 (inside_unclosed_isPrefix hInside)
    exact Fault.fits_of_lead_nil hWritten ⟨cs, rfl⟩
  · next hInside =>
    cases h
    exact strayEscape_fits hInside

theorem number_fits {cs : List Char} {fault : Fault} (h : number cs = .error fault) :
    fault.Fits cs := by
  unfold number at h
  split at h
  · next m rest =>
    split at h
    · unfold marked at h
      split at h
      · cases h
        refine Fault.fits_of_lead_nil ⟨rest, rfl⟩ ⟨rest, ?_⟩
        simp [LexError.Cause.opening]
      · cases h
    · cases h
  · cases h

/-- The faults at the front of a text lie where they say. -/
theorem front_fits {config : Config} {cs : List Char} {fault : Fault}
    (h : front config cs = .error fault) : fault.Fits cs := by
  cases cs with
  | nil => cases h
  | cons c cs =>
    rw [front] at h
    split at h
    · cases h
    split at h
    · exact number_fits h
    split at h
    · next hQuote => exact hQuote ▸ string_fits h
    split at h
    · next hQuote => exact hQuote ▸ char_fits h
    split at h
    · cases h
    · unfold unknown at h
      split at h
      · cases h
      · cases h
        exact Fault.fits_of_lead_nil List.nil_prefix ⟨cs, rfl⟩

end Lexeme

end HdlLex
