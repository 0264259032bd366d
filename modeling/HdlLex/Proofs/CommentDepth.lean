import HdlLex.Proofs.Agreement
import HdlLex.Proofs.CommentGrammar
import HdlLex.Proofs.Failure

/-!
# Comment depth — what the limit on open comments decides

The limit on open block comments is looked at only where one more is opened. So
raising it changes nothing in a text that stays below it, a limit of zero acts
like a limit of one, and under a limit of one a text either nests comments,
which is an error, or could as well be read without nesting.

* `LexError.Cause.IsTooDeep` — comments nest too deep.
* `LexError.Cause.relimit` — the same cause under another limit.

Main results:

* `Comment.block_looser`, `Comment.block_relimit` — a comment under two limits.
* `tokenize_comments` — comments that are read alike make texts read alike.
* `comment_depth_monotone` — whole texts under all limits, and without nesting.
-/

namespace HdlLex

/-- Block comments nest deeper than allowed. -/
def LexError.Cause.IsTooDeep (cause : LexError.Cause) : Prop :=
  ∃ limit, cause = .commentTooDeep limit

/-- The same cause under another limit on open comments. -/
def LexError.Cause.relimit (limit : UInt32) : LexError.Cause → LexError.Cause
  | .commentTooDeep _ => .commentTooDeep limit
  | cause => cause

theorem LexError.Cause.relimit_of_not {cause : LexError.Cause} (h : ¬ cause.IsTooDeep)
    (limit : UInt32) : cause.relimit limit = cause := by
  cases cause with
  | commentTooDeep found => exact absurd ⟨found, rfl⟩ h
  | _ => rfl

-- ---------------------------------------------------------------------------
-- Block comments
-- ---------------------------------------------------------------------------

namespace Comment

/-- The same, under another limit. -/
def Inside.relimit (limit : UInt32) : Inside → Inside
  | .tooDeep before _ => .tooDeep before limit
  | found => found

theorem Inside.relimit_behind (limit : UInt32) (cs : List Char) (found : Inside) :
    (found.behind cs).relimit limit = (found.relimit limit).behind cs := by
  cases found with
  | closed written => rfl
  | unclosed => rfl
  | tooDeep before found => rfl

theorem Inside.not_tooDeep_of_behind {cs : List Char} {found : Inside}
    (h : ∀ before limit, found.behind cs ≠ .tooDeep before limit) :
    ∀ before limit, found ≠ .tooDeep before limit := by
  rintro before limit rfl
  exact h _ _ rfl

/-- Whether a further comment may be opened inside `outer + 1` open ones. -/
def Opens (nesting : Option UInt32) (outer : Nat) : Prop :=
  ∃ limit, nesting = some limit ∧ outer + 1 < limit.toNat

/--
What stays below the limit reads the same wherever at least as many comments may
be open; where comments do not nest, these are none inside others.
-/
theorem inside_looser {limit : UInt32} {other : Option UInt32}
    (hOpens : ∀ outer, Opens (some limit) outer → Opens other outer) {outer : Nat}
    {cs : List Char} (h : ∀ before found, inside (some limit) outer cs ≠ .tooDeep before found) :
    inside other outer cs = inside (some limit) outer cs := by
  fun_induction inside (some limit) outer cs with
  | case1 => rw [inside]
  | case2 => rw [inside]
  | case3 c d cs hClose => simp [inside, hClose]
  | case4 c d cs hClose outer ih =>
    simp [inside, hClose, ih (Inside.not_tooDeep_of_behind h)]
  | case5 outer c d cs _ _ hFlat => cases hFlat
  | case6 outer c d cs _ _ found hNests hLimit => exact absurd rfl (h [] found)
  | case7 outer c d cs hClose hOpen found hNests hLimit ih =>
    cases hNests
    obtain ⟨limit', rfl, hLimit'⟩ := hOpens outer ⟨limit, rfl, Nat.not_le.1 hLimit⟩
    simp [inside, hClose, hOpen, Nat.not_le.2 hLimit', ih (Inside.not_tooDeep_of_behind h)]
  | case8 outer c d cs hClose hOpen ih =>
    simp [inside, hClose, hOpen, ih (Inside.not_tooDeep_of_behind h)]

/-- Limits that allow the same number of open comments differ in what the fault says only. -/
theorem inside_relimit {limit other : UInt32} (hMost : mostOpen (some other) = mostOpen (some limit))
    (outer : Nat) (cs : List Char) :
    inside (some other) outer cs = (inside (some limit) outer cs).relimit other := by
  have hSame : ∀ outer, other.toNat ≤ outer + 1 ↔ limit.toNat ≤ outer + 1 := by
    intro outer
    simp only [mostOpen] at hMost
    omega
  fun_induction inside (some limit) outer cs with
  | case1 =>
    rw [inside]
    rfl
  | case2 =>
    rw [inside]
    rfl
  | case3 c d cs hClose =>
    simp only [inside, hClose]
    rfl
  | case4 c d cs hClose outer ih => simp [inside, hClose, ih, Inside.relimit_behind]
  | case5 outer c d cs _ _ hFlat => cases hFlat
  | case6 outer c d cs hClose hOpen found hNests hLimit =>
    cases hNests
    simp [inside, hClose, hOpen, (hSame outer).2 hLimit, Inside.relimit]
  | case7 outer c d cs hClose hOpen found hNests hLimit ih =>
    cases hNests
    simp [inside, hClose, hOpen, (hSame outer).not.2 hLimit, ih, Inside.relimit_behind]
  | case8 outer c d cs hClose hOpen ih => simp [inside, hClose, hOpen, ih, Inside.relimit_behind]

/-- A comment that stays below the limit reads the same where no fewer may be open. -/
theorem block_looser {limit : UInt32} {other : Option UInt32}
    (hOpens : ∀ outer, Opens (some limit) outer → Opens other outer) {cs : List Char}
    (h : ∀ fault, block (some limit) cs = .error fault → ¬ fault.cause.IsTooDeep) :
    block other cs = block (some limit) cs := by
  have hInside : ∀ before found, inside (some limit) 0 cs ≠ .tooDeep before found := by
    intro before found hDeep
    have hFault : block (some limit) cs =
        .error ⟨.commentTooDeep found, '/' :: '*' :: before, '/' :: '*' :: before⟩ := by
      rw [block, hDeep]
    exact h _ hFault ⟨found, rfl⟩
  rw [block, block, inside_looser hOpens hInside]

theorem block_relimit {limit other : UInt32} (hMost : mostOpen (some other) = mostOpen (some limit))
    (cs : List Char) : block (some other) cs =
      (block (some limit) cs).mapError (Fault.recast (LexError.Cause.relimit other)) := by
  rw [block, block, inside_relimit hMost]
  cases inside (some limit) 0 cs with
  | closed written => rfl
  | unclosed => rfl
  | tooDeep before found => rfl

end Comment

-- ---------------------------------------------------------------------------
-- Gaps and readings
-- ---------------------------------------------------------------------------

theorem Fault.recast_behind (change : LexError.Cause → LexError.Cause) (cs : List Char)
    (fault : Fault) : (fault.behind cs).recast change = (fault.recast change).behind cs := rfl

theorem Trivia.mapError_before (change : LexError.Cause → LexError.Cause) (cs : List Char)
    (found : Except Fault (List Char)) :
    (before cs found).mapError (Fault.recast change) =
      before cs (found.mapError (Fault.recast change)) := by
  cases found with
  | ok gap => rfl
  | error fault => rfl

/-- The faults of lexemes are none of comments. -/
theorem Lexeme.not_isTooDeep_of_front {config : Config} {cs : List Char} {fault : Fault}
    (h : front config cs = .error fault) : ¬ fault.cause.IsTooDeep := by
  rintro ⟨limit, hCause⟩
  cases front_eq_error_iff.1 h with
  | noDigits => cases hCause
  | unclosed => exact openCause_ne (by simp) (by simp) _ hCause
  | unclosedEscape => exact openCause_ne (by simp) (by simp) _ hCause
  | unknownEscape => cases hCause
  | notOneChar => cases hCause
  | unexpected => cases hCause

/-- Comments read alike but for the causes of faults, as long as these satisfy `Q`. -/
def Comment.Alike (nesting other : Option UInt32) (change : LexError.Cause → LexError.Cause)
    (Q : LexError.Cause → Prop) : Prop :=
  ∀ cs, (∀ fault, block nesting cs = .error fault → Q fault.cause) →
    block other cs = (block nesting cs).mapError (Fault.recast change)

section Alike

variable {nesting other : Option UInt32} {change : LexError.Cause → LexError.Cause}
  {Q : LexError.Cause → Prop}

theorem Comment.Alike.front? (h : Alike nesting other change Q) (cs : List Char)
    (hFaults : ∀ fault, Comment.front? nesting cs = some (.error fault) → Q fault.cause) :
    Comment.front? other cs =
      (Comment.front? nesting cs).map (Except.mapError (Fault.recast change)) := by
  unfold Comment.front? at hFaults ⊢
  split
  · rfl
  · next rest =>
    exact congrArg some (h rest fun fault hBlock => hFaults fault (congrArg some hBlock))
  · rfl

/-- So gaps are read alike. -/
theorem Comment.Alike.gap (h : Alike nesting other change Q) (cs : List Char)
    (hFaults : ∀ fault, Trivia.gap nesting cs = .error fault → Q fault.cause) :
    Trivia.gap other cs = (Trivia.gap nesting cs).mapError (Fault.recast change) := by
  have hLater : ∀ {xs : List Char} {found : Except Fault (List Char)},
      (∀ fault, Trivia.before xs found = .error fault → Q fault.cause) →
      ∀ fault, found = .error fault → Q fault.cause := by
    rintro xs found hBefore fault rfl
    exact hBefore (fault.behind xs) rfl
  fun_induction Trivia.gap nesting cs with
  | case1 =>
    rw [Trivia.gap]
    rfl
  | case2 c cs hBlank ih =>
    rw [Trivia.gap_blank hBlank, ih (hLater hFaults), Trivia.mapError_before]
  | case3 c cs hBlank hNone =>
    have hOther := h.front? (c :: cs) (by simp [hNone])
    rw [Trivia.gap_of_not_blank hBlank, hOther, hNone]
    rfl
  | case4 c cs hBlank fault hFound =>
    have hOther := h.front? (c :: cs) (by
      intro found hSame
      rw [hFound] at hSame
      cases hSame
      exact hFaults fault rfl)
    rw [Trivia.gap_of_not_blank hBlank, hOther, hFound]
    rfl
  | case5 c cs hBlank comment hFound ih =>
    have hOther := h.front? (c :: cs) (by simp [hFound])
    rw [Trivia.gap_of_not_blank hBlank, hOther, hFound]
    show Trivia.before comment (Trivia.gap other ((c :: cs).drop comment.length)) = _
    rw [ih (hLater hFaults), Trivia.mapError_before]

end Alike

-- ---------------------------------------------------------------------------
-- Whole texts
-- ---------------------------------------------------------------------------

section Texts

variable {config : Config} {nested : Bool} {depth : UInt32}
  {change : LexError.Cause → LexError.Cause} {Q : LexError.Cause → Prop}

theorem Comment.Alike.read
    (h : Alike config.nesting
      (Config.nesting { config with nestedComments := nested, maxCommentDepth := depth }) change Q)
    (hChange : ∀ cause, ¬ cause.IsTooDeep → change cause = cause) {cs : List Char}
    (hFaults : ∀ fault, Lexer.read config cs = .error fault → Q fault.cause) :
    Lexer.read { config with nestedComments := nested, maxCommentDepth := depth } cs =
      (Lexer.read config cs).mapError (Fault.recast change) := by
  have hFront : ∀ cs, Lexeme.front
      { config with nestedComments := nested, maxCommentDepth := depth } cs =
        Lexeme.front config cs := by
    intro cs
    cases cs with
    | nil => rfl
    | cons c cs => rfl
  unfold Lexer.read at hFaults ⊢
  cases hGap : Trivia.gap config.nesting cs with
  | error fault =>
    rw [hGap] at hFaults
    have hOther := h.gap cs (by
      intro found hSame
      rw [hGap] at hSame
      cases hSame
      exact hFaults fault rfl)
    rw [hOther, hGap]
    rfl
  | ok gap =>
    have hOther := h.gap cs (by simp [hGap])
    rw [hOther, hGap]
    simp only [Except.mapError, hFront]
    cases hLexeme : Lexeme.front config (cs.drop gap.length) with
    | ok lexeme => rfl
    | error fault =>
      -- the fault of a lexeme keeps its cause
      have hSame := hChange _ (Lexeme.not_isTooDeep_of_front hLexeme)
      simp only [Fault.recast_behind]
      rw [Fault.recast, hSame]

/-- Texts in which comments are read alike have the same tokens, or errors in the same place. -/
theorem tokenize_comments {source : String}
    (h : Comment.Alike config.nesting
      (Config.nesting { config with nestedComments := nested, maxCommentDepth := depth }) change Q)
    (hChange : ∀ cause, ¬ cause.IsTooDeep → change cause = cause)
    (hErrors : ∀ error, tokenize config source = .error error → Q error.cause) :
    tokenize { config with nestedComments := nested, maxCommentDepth := depth } source =
      (tokenize config source).mapError (LexError.recast change) := by
  obtain ⟨pieces, ending, hReads⟩ := Lexer.exists_reads config (config.body source.toList)
  have hFaults : ∀ fault ∈ ending, Q fault.cause := by
    rintro fault hFault
    obtain rfl := Option.mem_def.1 hFault
    exact hErrors _ (tokenize_of_reads hReads)
  refine tokenize_recast rfl hReads (hReads.recast (P := fun _ => True)
    (Q := fun fault => Q fault.cause) ?_ (fun _ _ => trivial) hFaults)
  intro cs pieces ending hReads _ hFaults
  refine h.read hChange fun fault hRead => ?_
  exact hFaults fault (hReads.mem_ending_of_read_error hRead)

/-- A text that does not exceed its limit has the same tokens where no fewer may be open. -/
theorem tokenize_looser {source : String} {limit : UInt32}
    (hOpens : ∀ outer, Comment.Opens (some limit) outer → Comment.Opens
      (Config.nesting { config with nestedComments := nested, maxCommentDepth := depth }) outer)
    (h : ∀ error, tokenize { config with nestedComments := true, maxCommentDepth := limit } source =
      .error error → ¬ error.cause.IsTooDeep) :
    tokenize { config with nestedComments := nested, maxCommentDepth := depth } source =
      tokenize { config with nestedComments := true, maxCommentDepth := limit } source := by
  have hAlike : Comment.Alike (some limit)
      (Config.nesting { config with nestedComments := nested, maxCommentDepth := depth }) id
      fun cause => ¬ cause.IsTooDeep := by
    intro cs hFaults
    rw [Comment.block_looser hOpens hFaults, Fault.mapError_recast_id]
  have hSame := @tokenize_comments { config with nestedComments := true, maxCommentDepth := limit }
    nested depth id _ source hAlike (fun _ _ => rfl) h
  rwa [LexError.mapError_recast_id] at hSame

/-- Limits that allow the same number of open comments differ in what the error says only. -/
theorem tokenize_relimit {limit other : UInt32} (source : String)
    (hMost : Comment.mostOpen (some other) = Comment.mostOpen (some limit)) :
    tokenize { config with nestedComments := true, maxCommentDepth := other } source =
      (tokenize { config with nestedComments := true, maxCommentDepth := limit } source).mapError
        (LexError.recast (LexError.Cause.relimit other)) :=
  @tokenize_comments { config with nestedComments := true, maxCommentDepth := limit } true other
    (LexError.Cause.relimit other) (fun _ => True) source
    (fun cs _ => Comment.block_relimit hMost cs) (fun _ hNot => LexError.Cause.relimit_of_not hNot _)
    fun _ _ => trivial

end Texts

/--
Raising the limit on open comments changes nothing unless it was exceeded; a
limit of zero differs from a limit of one in what the error says only; and what
stays below a limit of one reads the same where comments do not nest.
-/
theorem comment_depth_monotone (config : Config) (source : String) :
    let result (limit : UInt32) :=
      tokenize { config with nestedComments := true, maxCommentDepth := limit } source
    let exceeded (limit : UInt32) := ∃ error, result limit = .error error ∧ error.cause.IsTooDeep
    (∀ limit looser, limit ≤ looser → ¬ exceeded limit → result looser = result limit) ∧
    result 1 = (result 0).mapError (LexError.recast (LexError.Cause.relimit 1)) ∧
    (¬ exceeded 1 → tokenize { config with nestedComments := false } source = result 1) := by
  intro result exceeded
  have hErrors : ∀ limit, ¬ exceeded limit → ∀ error, result limit = .error error →
      ¬ error.cause.IsTooDeep := by
    intro limit hNot error hError hDeep
    exact hNot ⟨error, hError, hDeep⟩
  refine ⟨?_, tokenize_relimit source rfl, ?_⟩
  · intro limit looser hLe hNot
    refine tokenize_looser ?_ (hErrors limit hNot)
    rintro outer ⟨found, hFound, hOpen⟩
    cases hFound
    exact ⟨looser, rfl, Nat.lt_of_lt_of_le hOpen (UInt32.le_iff_toNat_le.1 hLe)⟩
  · intro hNot
    -- inside an open comment none may be opened under a limit of one
    refine @tokenize_looser config false config.maxCommentDepth source 1 ?_ (hErrors 1 hNot)
    rintro outer ⟨found, hFound, hOpen⟩
    cases hFound
    exact absurd hOpen (by simp)

/-- A comment inside another one, and a closing mark that the inner one leaves for the outer. -/
theorem comment_depth_of_two :
    let result (limit : UInt32) :=
      tokenize { nestedComments := true, maxCommentDepth := limit } "/*/**/*/ x"
    let flat (limit : UInt32) :=
      tokenize { nestedComments := true, maxCommentDepth := limit } "/*/ *//**/ x"
    result 2 = .ok [⟨.identifier, "x", ⟨9, 10, 1, 10⟩⟩, ⟨.eof, "", ⟨10, 10, 1, 11⟩⟩] ∧
    result 4294967295 = result 2 ∧
    result 0 = .error ⟨.commentTooDeep 0, 1, 3⟩ ∧ result 1 = .error ⟨.commentTooDeep 1, 1, 3⟩ ∧
    flat 1 = .ok [⟨.identifier, "x", ⟨11, 12, 1, 12⟩⟩, ⟨.eof, "", ⟨12, 12, 1, 13⟩⟩] ∧
    tokenize {} "/*/ *//**/ x" = flat 1 := by
  intro result flat
  obtain ⟨hLooser, hZero, -⟩ := comment_depth_monotone {} "/*/**/*/ x"
  have hTwo : result 2 = .ok [⟨.identifier, "x", ⟨9, 10, 1, 10⟩⟩, ⟨.eof, "", ⟨10, 10, 1, 11⟩⟩] := by
    decide +kernel
  have hNone : result 0 = .error ⟨.commentTooDeep 0, 1, 3⟩ := by decide +kernel
  have hFlat : flat 1 = .ok [⟨.identifier, "x", ⟨11, 12, 1, 12⟩⟩, ⟨.eof, "", ⟨12, 12, 1, 13⟩⟩] := by
    decide +kernel
  refine ⟨hTwo, ?_, hNone, ?_, hFlat, ?_⟩
  · apply hLooser 2 4294967295 (by decide)
    rintro ⟨error, hError, -⟩
    cases hTwo.symm.trans hError
  · exact hZero.trans (congrArg (Except.mapError _) hNone)
  · apply (comment_depth_monotone {} "/*/ *//**/ x").2.2
    rintro ⟨error, hError, -⟩
    cases hFlat.symm.trans hError

end HdlLex
