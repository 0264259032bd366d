import HdlLex.Proofs.LineFeed

/-!
# Comment extent — how far a block comment goes

Behind an opening mark a text either begins with the rest of a block comment,
or it reaches an opening mark at which too many comments are open, or it ends
first. The scanner counts; what it finds is told here from the grammar alone:
which comments are open at a place is read off the complete comments before it
and the opening marks that are left over.

* `Comment.Unclosed` — what leaves so many comments open.
* `Comment.Meets`, `Comment.MeetsFirst` — an opening mark inside so many open
  comments, and the first one.
* `Lexer.PassesComment`, `Lexer.FailsInComment` — what a comment does to a call.

Main results:

* `Comment.inside_eq_tooDeep_iff` — exactly the first mark too many is reported.
* `Comment.block_eq_ok_iff` — exactly the block comments are passed over.
* `Comment.block_eq_unclosed_iff` — the text ends first in all other cases.
* `block_comments_exact` — the same for the calls of any lexer.
-/

namespace HdlLex

namespace Comment

-- ---------------------------------------------------------------------------
-- Open comments
-- ---------------------------------------------------------------------------

/--
What stands behind an opening mark, in front of `ahead`, and leaves `count`
comments open: characters at which no mark stands, whole comments, and opening
marks to which no closing mark belongs.
-/
inductive Unclosed (ahead : List Char) : Nat → List Char → Prop
  | nil : Unclosed ahead 1 []
  | char {count : Nat} {c : Char} {cs : List Char} :
      ¬ ['*', '/'] <+: c :: (cs ++ ahead) → ¬ ['/', '*'] <+: c :: (cs ++ ahead) →
      Unclosed ahead count cs → Unclosed ahead count (c :: cs)
  | whole {depth count : Nat} {xs ys : List Char} :
      Tail true depth xs → Unclosed ahead count ys → Unclosed ahead count ('/' :: '*' :: (xs ++ ys))
  | opening {count : Nat} {cs : List Char} :
      Unclosed ahead count cs → Unclosed ahead (count + 1) ('/' :: '*' :: cs)

/-- Behind `before` an opening mark stands while `count` comments are open. -/
def Meets (count : Nat) (text before : List Char) : Prop :=
  ∃ ahead, text = before ++ '/' :: '*' :: ahead ∧ Unclosed ('/' :: '*' :: ahead) count before

/-- The first opening mark that stands while `count` comments are open. -/
structure MeetsFirst (count : Nat) (text before : List Char) : Prop where
  meets : Meets count text before
  length_le : ∀ other, Meets count text other → before.length ≤ other.length

-- ---------------------------------------------------------------------------
-- Marks too many are found
-- ---------------------------------------------------------------------------

/-- An opening mark is one too many as soon as the limit is reached. -/
theorem inside_over {limit : UInt32} {outer : Nat} (hLimit : limit.toNat ≤ outer + 1)
    (cs : List Char) : inside (some limit) outer ('/' :: '*' :: cs) = .tooDeep [] limit := by
  rw [inside.eq_def]
  simp [hLimit]

/-- The scanner stops at a mark too many that stands no further on than so many characters. -/
def StopsWithin (limit : UInt32) (found : Inside) (length : Nat) : Prop :=
  ∃ before, found = .tooDeep before limit ∧ before.length ≤ length

theorem StopsWithin.behind {limit : UInt32} {found : Inside} {length : Nat}
    (h : StopsWithin limit found length) (cs : List Char) :
    StopsWithin limit (found.behind cs) (cs.length + length) := by
  obtain ⟨before, rfl, hLength⟩ := h
  exact ⟨cs ++ before, rfl, by rw [List.length_append]; omega⟩

theorem StopsWithin.mono {limit : UInt32} {found : Inside} {length more : Nat}
    (h : StopsWithin limit found length) (hMore : length ≤ more) :
    StopsWithin limit found more := by
  obtain ⟨before, hFound, hLength⟩ := h
  exact ⟨before, hFound, hLength.trans hMore⟩

/-- Behind an opening mark the scanner stops at once, or goes on inside one comment more. -/
theorem stopsWithin_open {limit : UInt32} {outer length : Nat} {cs : List Char}
    (h : outer + 1 + 1 ≤ mostOpen (some limit) →
      StopsWithin limit (inside (some limit) (outer + 1) cs) length) :
    StopsWithin limit (inside (some limit) outer ('/' :: '*' :: cs)) (length + 2) := by
  by_cases hLimit : limit.toNat ≤ outer + 1
  · exact ⟨[], inside_over hLimit cs, Nat.zero_le _⟩
  · have hMore : outer + 1 + 1 ≤ mostOpen (some limit) := by
      simp only [mostOpen]
      omega
    rw [inside_open hLimit]
    exact ((h hMore).behind ['/', '*']).mono (by simp [Nat.add_comm])

theorem stopsWithin_char {limit : UInt32} {outer length : Nat} {c : Char} {cs : List Char}
    (hClose : ¬ ['*', '/'] <+: c :: cs) (hOpen : ¬ ['/', '*'] <+: c :: cs)
    (h : StopsWithin limit (inside (some limit) outer cs) length) :
    StopsWithin limit (inside (some limit) outer (c :: cs)) (length + 1) := by
  cases cs with
  | nil =>
    obtain ⟨before, hFound, -⟩ := h
    rw [inside] at hFound
    cases hFound
  | cons d cs =>
    rw [inside_char hClose fun _ => hOpen]
    exact (h.behind [c]).mono (by simp [Nat.add_comm])

/-- A tail that is too deep for the comments around it holds a mark too many. -/
theorem Tail.stopsWithin {limit : UInt32} {depth : Nat} {cs : List Char}
    (h : Tail true depth cs) :
    ∀ (outer : Nat) (ahead : List Char), outer + 1 ≤ mostOpen (some limit) →
      ¬ outer + depth ≤ mostOpen (some limit) →
      StopsWithin limit (inside (some limit) outer (cs ++ ahead)) cs.length := by
  induction h with
  | close =>
    intro outer ahead hOuter hDeep
    exact absurd hOuter hDeep
  | @char depth c cs hClose hOpen hTail ih =>
    intro outer ahead hOuter hDeep
    obtain ⟨d, e, rest, rfl⟩ := hTail.exists_cons
    refine stopsWithin_char ?_ ?_ (ih outer ahead hOuter hDeep)
    · simpa [List.cons_prefix_cons] using hClose
    · simpa [List.cons_prefix_cons] using hOpen rfl
  | @nest inner depth xs ys _ hInner hTail ihInner ihTail =>
    intro outer ahead hOuter hDeep
    have hText : '/' :: '*' :: (xs ++ ys) ++ ahead = '/' :: '*' :: (xs ++ (ys ++ ahead)) := by simp
    rw [hText]
    refine stopsWithin_open fun hMore => ?_
    by_cases hFits : outer + 1 + inner ≤ mostOpen (some limit)
    · -- the inner comment is whole, and what follows it is too deep
      have hLater := ihTail outer ahead hOuter (by omega)
      rw [@inside_tail_append (some limit) _ _ hInner (outer + 1) (ys ++ ahead) hFits]
      exact (hLater.behind xs).mono (by simp)
    · exact (ihInner (outer + 1) (ys ++ ahead) hMore hFits).mono (by simp)

/-- A place where too many comments are open is not passed. -/
theorem Unclosed.stopsWithin {limit : UInt32} {count : Nat} {before ahead : List Char}
    (h : Unclosed ('/' :: '*' :: ahead) count before) :
    ∀ outer : Nat, outer + 1 ≤ mostOpen (some limit) → limit.toNat ≤ outer + count →
      StopsWithin limit (inside (some limit) outer (before ++ '/' :: '*' :: ahead))
        before.length := by
  induction h with
  | nil =>
    intro outer _ hCount
    exact ⟨[], inside_over hCount ahead, Nat.le_refl _⟩
  | char hClose hOpen _ ih =>
    intro outer hOuter hCount
    exact stopsWithin_char hClose hOpen (ih outer hOuter hCount)
  | @whole depth count xs ys hTail _ ih =>
    intro outer hOuter hCount
    have hText : '/' :: '*' :: (xs ++ ys) ++ '/' :: '*' :: ahead =
        '/' :: '*' :: (xs ++ (ys ++ '/' :: '*' :: ahead)) := by simp
    rw [hText]
    refine stopsWithin_open fun hMore => ?_
    by_cases hFits : outer + 1 + depth ≤ mostOpen (some limit)
    · rw [@inside_tail_append (some limit) _ _ hTail (outer + 1) _ hFits]
      exact ((ih outer hOuter hCount).behind xs).mono (by simp)
    · exact (hTail.stopsWithin (outer + 1) _ hMore hFits).mono (by simp)
  | @opening count cs _ ih =>
    intro outer hOuter hCount
    exact stopsWithin_open fun hMore => ih (outer + 1) hMore (by omega)

-- ---------------------------------------------------------------------------
-- What is found is a mark too many
-- ---------------------------------------------------------------------------

/--
What leaves `total` comments open inside `outer + 1` open ones: tails that close
some of these, innermost first, and what is left unclosed behind them.
-/
inductive Leaves (ahead : List Char) (total : Nat) : Nat → List Char → Prop
  | unclosed {outer count : Nat} {cs : List Char} :
      Unclosed ahead count cs → outer + count = total → Leaves ahead total outer cs
  | closed {outer depth : Nat} {xs ys : List Char} :
      Tail true depth xs → Leaves ahead total outer ys → Leaves ahead total (outer + 1) (xs ++ ys)

theorem Leaves.char {ahead : List Char} {total outer : Nat} {c : Char} {cs : List Char}
    (h : Leaves ahead total outer cs) (hClose : ¬ ['*', '/'] <+: c :: (cs ++ ahead))
    (hOpen : ¬ ['/', '*'] <+: c :: (cs ++ ahead)) : Leaves ahead total outer (c :: cs) := by
  cases h with
  | unclosed hUnclosed hTotal => exact .unclosed (.char hClose hOpen hUnclosed) hTotal
  | @closed outer depth xs ys hTail hLeaves =>
    have hFront : c :: xs <+: c :: (xs ++ ys ++ ahead) := ⟨ys ++ ahead, by simp⟩
    have hTail' : Tail true depth (c :: xs) :=
      .char (fun hMark => hClose (hMark.trans hFront)) (fun _ hMark => hOpen (hMark.trans hFront))
        hTail
    exact .closed hTail' hLeaves

theorem Leaves.nest {ahead : List Char} {total outer : Nat} {cs : List Char}
    (h : Leaves ahead total (outer + 1) cs) : Leaves ahead total outer ('/' :: '*' :: cs) := by
  cases h with
  | unclosed hUnclosed hTotal => exact .unclosed (.opening hUnclosed) (by omega)
  | @closed _ inner xs ys hInner hLeaves =>
    cases hLeaves with
    | unclosed hUnclosed hTotal => exact .unclosed (.whole hInner hUnclosed) hTotal
    | @closed outer depth ys zs hTail hLeaves =>
      have hBoth := Leaves.closed (Tail.nest rfl hInner hTail) hLeaves
      simpa using hBoth

/-- A mark is too many only where comments nest. -/
theorem nesting_of_tooDeep {nesting : Option UInt32} {limit : UInt32} {outer : Nat}
    {cs before : List Char} (h : inside nesting outer cs = .tooDeep before limit) :
    nesting = some limit := by
  fun_induction inside nesting outer cs generalizing before with
  | case1 => cases h
  | case2 => cases h
  | case3 => cases h
  | case4 c d cs _ outer ih =>
    obtain ⟨b, hFound, rfl⟩ := Inside.behind_eq_tooDeep h
    exact ih hFound
  | case5 outer c d cs _ _ hFlat ih =>
    obtain ⟨b, hFound, rfl⟩ := Inside.behind_eq_tooDeep h
    rw [hFlat] at ih
    exact hFlat.trans (ih hFound)
  | case6 outer c d cs _ _ found hNests =>
    cases h
    exact hNests
  | case7 outer c d cs _ _ found hNests _ ih =>
    obtain ⟨b, hFound, rfl⟩ := Inside.behind_eq_tooDeep h
    rw [hNests] at ih
    exact hNests.trans (ih hFound)
  | case8 outer c d cs _ _ ih =>
    obtain ⟨b, hFound, rfl⟩ := Inside.behind_eq_tooDeep h
    exact ih hFound

/-- What stands before a mark too many leaves as many comments open as can be. -/
theorem leaves_of_inside {limit : UInt32} {outer : Nat} {cs before : List Char}
    (hOuter : outer + 1 ≤ mostOpen (some limit))
    (h : inside (some limit) outer cs = .tooDeep before limit) :
    ∃ ahead, cs = before ++ '/' :: '*' :: ahead ∧
      Leaves ('/' :: '*' :: ahead) (mostOpen (some limit)) outer before := by
  fun_induction inside (some limit) outer cs generalizing before with
  | case1 => cases h
  | case2 => cases h
  | case3 => cases h
  | case4 c d cs hMark outer ih =>
    obtain ⟨b, hFound, rfl⟩ := Inside.behind_eq_tooDeep h
    obtain ⟨rfl, rfl⟩ : c = '*' ∧ d = '/' := by simpa using hMark
    obtain ⟨ahead, rfl, hLeaves⟩ := ih (by omega) hFound
    exact ⟨ahead, rfl, .closed .close hLeaves⟩
  | case5 outer c d cs _ _ hFlat => cases hFlat
  | case6 outer c d cs _ hMark found hNests hLimit =>
    cases hNests
    cases h
    obtain ⟨rfl, rfl⟩ : c = '/' ∧ d = '*' := by simpa using hMark
    -- the limit is reached, so as many comments are open as can be
    refine ⟨cs, rfl, .unclosed .nil ?_⟩
    simp only [mostOpen] at hOuter ⊢
    omega
  | case7 outer c d cs _ hMark found hNests hLimit ih =>
    cases hNests
    obtain ⟨b, hFound, rfl⟩ := Inside.behind_eq_tooDeep h
    obtain ⟨rfl, rfl⟩ : c = '/' ∧ d = '*' := by simpa using hMark
    have hMore : outer + 1 + 1 ≤ mostOpen (some limit) := by
      simp only [mostOpen]
      omega
    obtain ⟨ahead, rfl, hLeaves⟩ := ih hMore hFound
    exact ⟨ahead, rfl, hLeaves.nest⟩
  | case8 outer c d cs hNotClose hNotOpen ih =>
    obtain ⟨b, hFound, rfl⟩ := Inside.behind_eq_tooDeep h
    obtain ⟨ahead, hText, hLeaves⟩ := ih hOuter hFound
    refine ⟨ahead, congrArg (c :: ·) hText, hLeaves.char ?_ ?_⟩
    · rw [← hText]
      rintro ⟨rest, hMark⟩
      cases hMark
      exact hNotClose rfl
    · rw [← hText]
      rintro ⟨rest, hMark⟩
      cases hMark
      exact hNotOpen rfl

-- ---------------------------------------------------------------------------
-- What stands behind an opening mark
-- ---------------------------------------------------------------------------

theorem one_le_mostOpen (nesting : Option UInt32) : 1 ≤ mostOpen nesting := by
  cases nesting with
  | none => exact Nat.le_refl 1
  | some limit => exact Nat.le_max_right _ _

theorem meets_of_tooDeep {limit : UInt32} {text before : List Char}
    (h : inside (some limit) 0 text = .tooDeep before limit) :
    Meets (mostOpen (some limit)) text before := by
  obtain ⟨ahead, hText, hLeaves⟩ := leaves_of_inside (one_le_mostOpen _) h
  cases hLeaves with
  | unclosed hUnclosed hTotal =>
    rw [Nat.zero_add] at hTotal
    exact ⟨ahead, hText, hTotal ▸ hUnclosed⟩

theorem Meets.stopsWithin {limit : UInt32} {text before : List Char}
    (h : Meets (mostOpen (some limit)) text before) :
    StopsWithin limit (inside (some limit) 0 text) before.length := by
  obtain ⟨ahead, rfl, hUnclosed⟩ := h
  refine hUnclosed.stopsWithin 0 (one_le_mostOpen _) ?_
  simp only [mostOpen]
  omega

/-- Exactly the first mark is reported at which as many comments are open as can be. -/
theorem inside_eq_tooDeep_iff {limit : UInt32} {text before : List Char} :
    inside (some limit) 0 text = .tooDeep before limit ↔
      MeetsFirst (mostOpen (some limit)) text before := by
  constructor
  · intro h
    refine ⟨meets_of_tooDeep h, ?_⟩
    intro other hOther
    obtain ⟨found, hFound, hLength⟩ := hOther.stopsWithin
    rw [h] at hFound
    cases hFound
    exact hLength
  · intro h
    obtain ⟨found, hFound, hLength⟩ := h.meets.stopsWithin
    have hMeets := meets_of_tooDeep hFound
    -- both stand in the same text, and neither is longer
    have hSame := h.length_le found hMeets
    obtain ⟨ahead, hText, -⟩ := h.meets
    obtain ⟨ahead', hText', -⟩ := hMeets
    obtain ⟨rfl, -⟩ := List.append_inj (hText.symm.trans hText') (by omega)
    exact hFound

/-- If such a mark stands in a text, there is a first one. -/
theorem Meets.exists_first {limit : UInt32} {text before : List Char}
    (h : Meets (mostOpen (some limit)) text before) :
    ∃ first, MeetsFirst (mostOpen (some limit)) text first := by
  obtain ⟨first, hFound, -⟩ := h.stopsWithin
  exact ⟨first, inside_eq_tooDeep_iff.1 hFound⟩

theorem block_eq_tooDeep_iff {limit : UInt32} {text before : List Char} :
    block (some limit) text =
        .error ⟨.commentTooDeep limit, '/' :: '*' :: before, '/' :: '*' :: before⟩ ↔
      MeetsFirst (mostOpen (some limit)) text before := by
  rw [← inside_eq_tooDeep_iff, block]
  cases inside (some limit) 0 text with
  | closed written => simp
  | unclosed => simp
  | tooDeep found limit' => simp [and_comm]

/-- Exactly the block comments are passed over that stand in front of the text. -/
theorem block_eq_ok_iff {nesting : Option UInt32} {text comment : List Char} :
    block nesting text = .ok comment ↔
      IsBlock nesting comment ∧ comment <+: '/' :: '*' :: text := by
  constructor
  · intro h
    exact ⟨isBlock_of_block h, block_isPrefix h⟩
  · rintro ⟨hBlock, ahead, hText⟩
    obtain ⟨-, cs, rfl, -⟩ := isBlock_iff.1 hBlock
    obtain rfl : cs ++ ahead = text := by simpa using hText
    exact block_append hBlock ahead

/-- No two block comments of a configuration stand in front of one text. -/
theorem IsBlock.eq_of_isPrefix {nesting : Option UInt32} {comment other text : List Char}
    (h : IsBlock nesting comment) (hOther : IsBlock nesting other)
    (hFront : comment <+: '/' :: '*' :: text) (hOtherFront : other <+: '/' :: '*' :: text) :
    comment = other := by
  have hBlock := block_eq_ok_iff.2 ⟨h, hFront⟩
  rw [block_eq_ok_iff.2 ⟨hOther, hOtherFront⟩] at hBlock
  exact (Except.ok.inj hBlock).symm

/-- In all other cases the text ends before the comment. -/
theorem block_eq_unclosed_iff {nesting : Option UInt32} {text : List Char} :
    block nesting text = .error ⟨.unclosedComment, [], '/' :: '*' :: text⟩ ↔
      (¬ ∃ comment, IsBlock nesting comment ∧ comment <+: '/' :: '*' :: text) ∧
      (nesting.isSome = true → ¬ ∃ before, Meets (mostOpen nesting) text before) := by
  constructor
  · intro h
    refine ⟨?_, ?_⟩
    · rintro ⟨comment, hComment⟩
      rw [block_eq_ok_iff.2 hComment] at h
      cases h
    · rintro hNests ⟨before, hMeets⟩
      obtain ⟨limit, rfl⟩ := Option.isSome_iff_exists.1 hNests
      obtain ⟨found, hFound, -⟩ := hMeets.stopsWithin
      rw [block, hFound] at h
      cases h
  · rintro ⟨hNoComment, hNoMark⟩
    rw [block]
    cases hInside : inside nesting 0 text with
    | closed written =>
      have hBlock : block nesting text = .ok ('/' :: '*' :: written) := by
        rw [block, hInside]
      exact absurd ⟨_, block_eq_ok_iff.1 hBlock⟩ hNoComment
    | unclosed => rfl
    | tooDeep before limit =>
      obtain rfl := nesting_of_tooDeep hInside
      exact absurd ⟨before, meets_of_tooDeep hInside⟩ (hNoMark rfl)

-- ---------------------------------------------------------------------------
-- Comments that do not nest
-- ---------------------------------------------------------------------------

/-- A text that holds a closing mark holds a first one. -/
theorem exists_first_mark {text : List Char} (h : ['*', '/'] <:+: text) :
    ∃ body ahead, text = body ++ '*' :: '/' :: ahead ∧ ¬ ['*', '/'] <:+: body ++ ['*'] := by
  induction text with
  | nil => simp at h
  | cons c cs ih =>
    by_cases hFront : ['*', '/'] <+: c :: cs
    · obtain ⟨ahead, rfl, rfl⟩ := hFront
      exact ⟨[], ahead, rfl, by simp [List.infix_cons_iff]⟩
    · obtain ⟨body, ahead, rfl, hBody⟩ := ih ((List.infix_cons_iff.1 h).resolve_left hFront)
      refine ⟨c :: body, ahead, rfl, ?_⟩
      intro hMark
      rcases List.infix_cons_iff.1 hMark with hMark | hMark
      · have hLonger : c :: (body ++ ['*']) <+: c :: (body ++ '*' :: '/' :: ahead) :=
          ⟨'/' :: ahead, by simp⟩
        exact hFront (hMark.trans hLonger)
      · exact hBody hMark

/-- Where comments do not nest, one is found exactly if a closing mark follows. -/
theorem exists_isBlock_flat_iff {text : List Char} :
    (∃ comment, IsBlock none comment ∧ comment <+: '/' :: '*' :: text) ↔ ['*', '/'] <:+: text := by
  constructor
  · rintro ⟨comment, ⟨body, rfl, -⟩, hFront⟩
    rw [List.cons_prefix_cons, List.cons_prefix_cons] at hFront
    exact (List.suffix_append body ['*', '/']).isInfix.trans hFront.2.2.isInfix
  · intro h
    obtain ⟨body, ahead, rfl, hBody⟩ := exists_first_mark h
    exact ⟨_, ⟨body, rfl, hBody⟩, ahead, by simp⟩

end Comment

-- ---------------------------------------------------------------------------
-- Calls
-- ---------------------------------------------------------------------------

namespace Lexer

/-- At a gap, a call is a call behind it. -/
theorem nextToken_of_isGap {lexer : Lexer} {gap ahead : List Char}
    (hRest : lexer.cursor.rest = gap ++ ahead)
    (hGap : Trivia.IsGap lexer.config.nesting ahead gap) :
    lexer.nextToken = nextToken { lexer with cursor := lexer.cursor.behind gap ahead } := by
  have hRead := read_isGap_append hGap
  rw [← hRest] at hRead
  have hStep : step lexer.config lexer.cursor =
      step lexer.config (lexer.cursor.behind gap ahead) := by
    have hAhead : (lexer.cursor.behind gap ahead).rest = ahead := rfl
    rcases read_cases lexer.config ahead with
      ⟨more, lexeme, rest, hLater, hText⟩ | ⟨fault, rest, hLater, hText⟩
    · simp only [hLater] at hRead
      have hSplit : lexer.cursor.rest = (gap ++ more) ++ (lexeme.written ++ rest) := by
        rw [hRest, hText, List.append_assoc]
      rw [← hAhead] at hLater hText
      rw [step_of_read_ok hRead hSplit, step_of_read_ok hLater hText]
      simp [Cursor.behind]
    · simp only [hLater] at hRead
      have hSplit : lexer.cursor.rest = (fault.behind gap).passed ++ rest := by
        rw [hRest, hText, ← List.append_assoc]
        rfl
      rw [← hAhead] at hLater hText
      rw [step_of_read_error hRead hSplit, step_of_read_error hLater hText, Fault.errorAt_behind]
      simp [Cursor.behind, Fault.behind]
  unfold nextToken
  simp only
  rw [hStep]
  rfl

/-- The comment ahead is passed over: a call is a call behind it. -/
structure PassesComment (lexer : Lexer) (comment ahead : List Char) : Prop where
  front?_eq : Comment.front? lexer.config.nesting lexer.cursor.rest = some (.ok comment)
  rest_eq : lexer.cursor.rest = comment ++ ahead
  nextToken_eq : lexer.nextToken =
    nextToken { lexer with cursor := lexer.cursor.behind comment ahead }

/-- The comment ahead cannot be read: a call yields the error and stops in front of `ahead`. -/
structure FailsInComment (lexer : Lexer) (fault : Fault) (ahead : List Char) : Prop where
  front?_eq : Comment.front? lexer.config.nesting lexer.cursor.rest = some (.error fault)
  rest_eq : lexer.cursor.rest = fault.passed ++ ahead
  error_eq : lexer.nextToken.1 = .error (fault.errorAt lexer.cursor.position)
  cursor_eq : lexer.nextToken.2.cursor = lexer.cursor.behind fault.passed ahead

section Comments

variable {lexer : Lexer} {text ahead : List Char}

theorem passesComment_iff (hRest : lexer.cursor.rest = '/' :: '*' :: text) {comment : List Char} :
    lexer.PassesComment comment ahead ↔
      Comment.block lexer.config.nesting text = .ok comment ∧
        lexer.cursor.rest = comment ++ ahead := by
  constructor
  · intro h
    have hFront := h.front?_eq
    rw [hRest] at hFront
    exact ⟨Option.some.inj hFront, h.rest_eq⟩
  · rintro ⟨hBlock, hSplit⟩
    refine ⟨?_, hSplit, ?_⟩
    · rw [hRest]
      exact congrArg some hBlock
    · have hGap : Trivia.IsGap lexer.config.nesting ahead (comment ++ []) :=
        .block (Comment.isBlock_of_block hBlock) .nil
      rw [List.append_nil] at hGap
      exact nextToken_of_isGap hSplit hGap

theorem failsInComment_iff (hRest : lexer.cursor.rest = '/' :: '*' :: text) {fault : Fault} :
    lexer.FailsInComment fault ahead ↔
      Comment.block lexer.config.nesting text = .error fault ∧
        lexer.cursor.rest = fault.passed ++ ahead := by
  constructor
  · intro h
    have hFront := h.front?_eq
    rw [hRest] at hFront
    exact ⟨Option.some.inj hFront, h.rest_eq⟩
  · rintro ⟨hBlock, hSplit⟩
    have hFront : Comment.front? lexer.config.nesting lexer.cursor.rest = some (.error fault) := by
      rw [hRest]
      exact congrArg some hBlock
    have hSlash : ¬ Text.isBlank '/' = true := by decide +kernel
    have hGap : Trivia.gap lexer.config.nesting lexer.cursor.rest = .error fault := by
      rw [hRest] at hFront ⊢
      rw [Trivia.gap_of_not_blank hSlash, hFront]
    have hStep : step lexer.config lexer.cursor = stopAt fault lexer.cursor := by
      unfold step
      rw [hGap]
    rw [stopAt_of_fits hSplit] at hStep
    refine ⟨hFront, hSplit, ?_, ?_⟩
    · rw [nextToken_of_step hStep]
    · rw [nextToken_of_step hStep]
      rfl

/-- Exactly the block comments of the configuration are passed over. -/
theorem passesComment_iff_isBlock (hRest : lexer.cursor.rest = '/' :: '*' :: text)
    {comment : List Char} :
    lexer.PassesComment comment ahead ↔
      lexer.cursor.rest = comment ++ ahead ∧ Comment.IsBlock lexer.config.nesting comment := by
  rw [passesComment_iff hRest, Comment.block_eq_ok_iff, ← hRest]
  constructor
  · rintro ⟨⟨hBlock, -⟩, hSplit⟩
    exact ⟨hSplit, hBlock⟩
  · rintro ⟨hSplit, hBlock⟩
    exact ⟨⟨hBlock, ahead, hSplit.symm⟩, hSplit⟩

/-- A comment stays open exactly if no block comment stands ahead and no mark is one too many. -/
theorem failsInComment_unclosed_iff (hRest : lexer.cursor.rest = '/' :: '*' :: text) :
    lexer.FailsInComment ⟨.unclosedComment, [], lexer.cursor.rest⟩ [] ↔
      (¬ ∃ comment, Comment.IsBlock lexer.config.nesting comment ∧ comment <+: lexer.cursor.rest) ∧
      (lexer.config.nesting.isSome = true →
        ¬ ∃ before, Comment.Meets (Comment.mostOpen lexer.config.nesting) text before) := by
  rw [failsInComment_iff hRest, hRest, ← Comment.block_eq_unclosed_iff]
  simp

end Comments

end Lexer

-- ---------------------------------------------------------------------------
-- The comment ahead
-- ---------------------------------------------------------------------------

/-- Comments whose marks are balanced, with the number of them open at once. -/
def Comment.IsNested (depth : Nat) (comment : List Char) : Prop :=
  ∃ cs, comment = '/' :: '*' :: cs ∧ Tail true depth cs

theorem Comment.isBlock_some_iff {limit : UInt32} {comment : List Char} :
    IsBlock (some limit) comment ↔ ∃ depth, IsNested depth comment ∧ depth ≤ max limit.toNat 1 := by
  constructor
  · rintro ⟨depth, cs, hText, hTail, hDepth⟩
    exact ⟨depth, ⟨cs, hText, hTail⟩, hDepth⟩
  · rintro ⟨depth, ⟨cs, hText, hTail⟩, hDepth⟩
    exact ⟨depth, cs, hText, hTail, hDepth⟩

namespace Lexer

/--
A comment that does not nest, behind whose opening mark `text` stands: it goes on
through the first closing mark. If there is none, it fails at its opening mark,
and the lexer is left at the end of the text.
-/
structure FlatComment (lexer : Lexer) (text : List Char) : Prop where
  passes_iff : ∀ comment ahead, lexer.PassesComment comment ahead ↔
    ∃ body, comment = '/' :: '*' :: (body ++ ['*', '/']) ∧ text = body ++ '*' :: '/' :: ahead ∧
      ¬ ['*', '/'] <:+: body ++ ['*']
  exists_passes_iff : (∃ comment ahead, lexer.PassesComment comment ahead) ↔ ['*', '/'] <:+: text
  unclosed_iff : lexer.FailsInComment ⟨.unclosedComment, [], lexer.cursor.rest⟩ [] ↔
    ¬ ['*', '/'] <:+: text

/-- The fault of a mark too many behind an opening mark and `before`. -/
def tooDeepBehind (limit : UInt32) (before : List Char) : Fault :=
  ⟨.commentTooDeep limit, '/' :: '*' :: before, '/' :: '*' :: before⟩

/--
A comment that may nest, behind whose opening mark `text` stands, where `limit`
is allowed: the one comment with balanced marks is passed over in which no more
than the limit are open, and at least one may be. It fails at the first opening
mark that stands while that many are open, where the lexer is left. If the
comment neither ends nor comes to such a mark, it fails at its own opening mark,
and the lexer is left at the end of the text.
-/
structure NestedComment (lexer : Lexer) (text : List Char) (limit : UInt32) : Prop where
  passes_iff : ∀ comment ahead, lexer.PassesComment comment ahead ↔
    lexer.cursor.rest = comment ++ ahead ∧
      ∃ depth, Comment.IsNested depth comment ∧ depth ≤ max limit.toNat 1
  unique : ∀ comment other depth depth',
    Comment.IsNested depth comment → depth ≤ max limit.toNat 1 →
    Comment.IsNested depth' other → depth' ≤ max limit.toNat 1 →
    comment <+: lexer.cursor.rest → other <+: lexer.cursor.rest → comment = other
  tooDeep_iff : ∀ before ahead,
    lexer.FailsInComment (tooDeepBehind limit before) ('/' :: '*' :: ahead) ↔
      text = before ++ '/' :: '*' :: ahead ∧ Comment.MeetsFirst (max limit.toNat 1) text before
  exists_tooDeep_iff :
    (∃ before ahead, lexer.FailsInComment (tooDeepBehind limit before) ('/' :: '*' :: ahead)) ↔
      ∃ before, Comment.Meets (max limit.toNat 1) text before
  unclosed_iff : lexer.FailsInComment ⟨.unclosedComment, [], lexer.cursor.rest⟩ [] ↔
    (¬ ∃ comment, (∃ depth, Comment.IsNested depth comment ∧ depth ≤ max limit.toNat 1) ∧
      comment <+: lexer.cursor.rest) ∧ ¬ ∃ before, Comment.Meets (max limit.toNat 1) text before

section Comments

variable {lexer : Lexer} {text : List Char}

theorem flatComment_of_rest (hRest : lexer.cursor.rest = '/' :: '*' :: text)
    (hNesting : lexer.config.nesting = none) : lexer.FlatComment text := by
  have hMark : (∃ comment, Comment.IsBlock none comment ∧ comment <+: lexer.cursor.rest) ↔
      ['*', '/'] <:+: text := by
    rw [hRest]
    exact Comment.exists_isBlock_flat_iff
  refine ⟨?_, ?_, ?_⟩
  · intro comment ahead
    rw [passesComment_iff_isBlock hRest, hNesting, hRest]
    constructor
    · rintro ⟨hSplit, body, rfl, hBody⟩
      exact ⟨body, rfl, by simpa using hSplit, hBody⟩
    · rintro ⟨body, rfl, rfl, hBody⟩
      exact ⟨by simp, body, rfl, hBody⟩
  · rw [← hMark, ← hNesting]
    constructor
    · rintro ⟨comment, ahead, hPasses⟩
      obtain ⟨hSplit, hBlock⟩ := (passesComment_iff_isBlock hRest).1 hPasses
      exact ⟨comment, hBlock, ahead, hSplit.symm⟩
    · rintro ⟨comment, hBlock, ahead, hSplit⟩
      exact ⟨comment, ahead, (passesComment_iff_isBlock hRest).2 ⟨hSplit.symm, hBlock⟩⟩
  · rw [failsInComment_unclosed_iff hRest, hNesting, hMark]
    exact and_iff_left (by simp)

theorem nestedComment_of_rest {limit : UInt32} (hRest : lexer.cursor.rest = '/' :: '*' :: text)
    (hNesting : lexer.config.nesting = some limit) : lexer.NestedComment text limit := by
  have hTooDeep : ∀ before ahead,
      lexer.FailsInComment (tooDeepBehind limit before) ('/' :: '*' :: ahead) ↔
        text = before ++ '/' :: '*' :: ahead ∧
          Comment.MeetsFirst (Comment.mostOpen (some limit)) text before := by
    intro before ahead
    rw [failsInComment_iff hRest, hNesting, hRest, ← Comment.block_eq_tooDeep_iff, and_comm]
    simp [tooDeepBehind]
  refine ⟨?_, ?_, hTooDeep, ?_, ?_⟩
  · intro comment ahead
    rw [passesComment_iff_isBlock hRest, hNesting, Comment.isBlock_some_iff]
  · intro comment other depth depth' hComment hDepth hOther hDepth' hFront hOtherFront
    rw [hRest] at hFront hOtherFront
    have hBlock := Comment.isBlock_some_iff.2 ⟨depth, hComment, hDepth⟩
    have hOtherBlock := Comment.isBlock_some_iff.2 ⟨depth', hOther, hDepth'⟩
    exact hBlock.eq_of_isPrefix hOtherBlock hFront hOtherFront
  · constructor
    · rintro ⟨before, ahead, hFails⟩
      exact ⟨before, ((hTooDeep before ahead).1 hFails).2.meets⟩
    · rintro ⟨before, hMeets⟩
      obtain ⟨first, hFirst⟩ := Comment.Meets.exists_first hMeets
      obtain ⟨ahead, hText, -⟩ := hFirst.meets
      exact ⟨first, ahead, (hTooDeep first ahead).2 ⟨hText, hFirst⟩⟩
  · rw [failsInComment_unclosed_iff hRest, hNesting]
    simp only [Comment.isBlock_some_iff, Option.isSome_some, true_imp_iff, Comment.mostOpen]

end Comments

end Lexer

/-- A call at an opening mark, in any lexer, with and without nesting and under any limit. -/
theorem block_comments_exact (lexer : Lexer) {text : List Char}
    (hRest : lexer.cursor.rest = '/' :: '*' :: text) :
    (lexer.config.nestedComments = false → lexer.FlatComment text) ∧
    (lexer.config.nestedComments = true →
      lexer.NestedComment text lexer.config.maxCommentDepth) := by
  refine ⟨fun hFlat => ?_, fun hNests => ?_⟩
  · exact Lexer.flatComment_of_rest hRest (by simp [Config.nesting, hFlat])
  · exact Lexer.nestedComment_of_rest hRest (by simp [Config.nesting, hNests])

/-- Under a limit of two, an inner comment is passed over, and a mark too many inside it is not. -/
theorem block_comments_of_limit_two :
    let config : Config := { nestedComments := true, maxCommentDepth := 2 }
    let whole := Lexer.ofText config "/*/**/*/x"
    let broken := Lexer.ofText config "/*/**/ /*/*"
    whole.cursor.rest = '/' :: '*' :: ['/', '*', '*', '/', '*', '/', 'x'] ∧
      whole.PassesComment ['/', '*', '/', '*', '*', '/', '*', '/'] ['x'] ∧
      broken.cursor.rest = '/' :: '*' :: ['/', '*', '*', '/', ' ', '/', '*', '/', '*'] ∧
      Comment.Meets 2 ['/', '*', '*', '/', ' ', '/', '*', '/', '*']
        ['/', '*', '*', '/', ' ', '/', '*'] ∧
      ∃ before ahead,
        broken.FailsInComment (Lexer.tooDeepBehind 2 before) ('/' :: '*' :: ahead) := by
  intro config whole broken
  have hWhole : whole.cursor.rest = '/' :: '*' :: ['/', '*', '*', '/', '*', '/', 'x'] := by
    decide +kernel
  have hBroken : broken.cursor.rest =
      '/' :: '*' :: ['/', '*', '*', '/', ' ', '/', '*', '/', '*'] := by
    decide +kernel
  have hNested : Comment.IsNested 2 ['/', '*', '/', '*', '*', '/', '*', '/'] :=
    ⟨_, rfl, .nest rfl .close .close⟩
  have hMeets : Comment.Meets 2 ['/', '*', '*', '/', ' ', '/', '*', '/', '*']
      ['/', '*', '*', '/', ' ', '/', '*'] :=
    ⟨[], rfl, .whole .close (.char (by decide) (by decide) (.opening .nil))⟩
  refine ⟨hWhole, ?_, hBroken, hMeets, ?_⟩
  · exact (((block_comments_exact whole hWhole).2 rfl).passes_iff _ _).2
      ⟨hWhole, 2, hNested, by decide⟩
  · exact ((block_comments_exact broken hBroken).2 rfl).exists_tooDeep_iff.2 ⟨_, hMeets⟩

end HdlLex
