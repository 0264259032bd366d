import HdlLex.Comment

/-!
# Comment grammar — what a block comment is

The scanner counts how many comments are open. The grammar does not count:
what follows an opening mark, its *tail*, is made of characters at which no
mark stands, of whole comments where they nest, and of the closing mark.
Where comments do not nest, a tail simply ends at the first closing mark.

* `Comment.Tail` — tails, with the number of comments open at once.
* `Comment.IsBlock` — the block comments of a configuration.

Main results:

* `Comment.isBlock_iff` — with and without nesting, a block comment is an
  opening mark with a tail.
* `Comment.inside_tail_append` — the scanner passes over a tail, whatever
  follows it and however many comments are open around it.
* `Comment.closes_of_inside` — what it passes over are tails.
* `Comment.block_append`, `Comment.isBlock_of_block` — it reads exactly the
  block comments.
-/

namespace HdlLex.Comment

-- ---------------------------------------------------------------------------
-- Grammar
-- ---------------------------------------------------------------------------

/--
What stands behind an opening mark, through the closing mark that belongs to
it. The number says how many comments are open at once, the outermost one
included.
-/
inductive Tail (nests : Bool) : Nat → List Char → Prop
  | close : Tail nests 1 ['*', '/']
  | char {depth : Nat} {c : Char} {cs : List Char} :
      ¬ ['*', '/'] <+: c :: cs → (nests = true → ¬ ['/', '*'] <+: c :: cs) →
      Tail nests depth cs → Tail nests depth (c :: cs)
  | nest {inner depth : Nat} {xs ys : List Char} :
      nests = true → Tail nests inner xs → Tail nests depth ys →
      Tail nests (max (inner + 1) depth) ('/' :: '*' :: (xs ++ ys))

/-- How many block comments can be open at once; a limit of zero still allows one. -/
def mostOpen : Option UInt32 → Nat
  | none => 1
  | some limit => max limit.toNat 1

/--
The block comments of a configuration: up to the first closing mark where they
do not nest, and with balanced marks, not too many open at once, where they do.
-/
def IsBlock (nesting : Option UInt32) (comment : List Char) : Prop :=
  match nesting with
  | none => ∃ body, comment = '/' :: '*' :: (body ++ ['*', '/']) ∧
      ¬ ['*', '/'] <:+: body ++ ['*']
  | some limit => ∃ depth cs, comment = '/' :: '*' :: cs ∧ Tail true depth cs ∧
      depth ≤ max limit.toNat 1

theorem Tail.depth_pos {nests : Bool} {depth : Nat} {cs : List Char}
    (h : Tail nests depth cs) : 1 ≤ depth := by
  induction h with
  | close => exact Nat.le_refl 1
  | char _ _ _ ih => exact ih
  | nest _ _ _ _ ih => omega

theorem Tail.exists_cons {nests : Bool} {depth : Nat} {cs : List Char}
    (h : Tail nests depth cs) : ∃ c d rest, cs = c :: d :: rest := by
  induction h with
  | close => exact ⟨'*', '/', [], rfl⟩
  | @char depth c cs _ _ _ ih =>
    obtain ⟨d, e, rest, rfl⟩ := ih
    exact ⟨c, d, e :: rest, rfl⟩
  | nest => exact ⟨'/', '*', _, rfl⟩

-- ---------------------------------------------------------------------------
-- Flat comments
-- ---------------------------------------------------------------------------

/-- Characters with no closing mark among them, and the closing mark, are a tail. -/
theorem tail_of_not_isInfix {nests : Bool} {body : List Char}
    (hFlat : nests = false) (hBody : ¬ ['*', '/'] <:+: body ++ ['*']) :
    Tail nests 1 (body ++ ['*', '/']) := by
  induction body with
  | nil => exact .close
  | cons c cs ih =>
    have hRest : ¬ ['*', '/'] <:+: cs ++ ['*'] := by
      intro hMark
      exact hBody (hMark.trans (List.suffix_cons c _).isInfix)
    refine .char ?_ (fun hNests => absurd hNests (by simp [hFlat])) (ih hRest)
    intro hMark
    -- a closing mark at the front would be one of the body
    apply hBody
    cases cs with
    | nil =>
      simp at hMark
    | cons d ds =>
      have hFront : ['*', '/'] <+: c :: d :: (ds ++ ['*']) := by
        simpa [List.cons_prefix_cons] using hMark
      exact hFront.isInfix

/-- In a flat tail the first closing mark is the one at its end. -/
theorem Tail.exists_body {depth : Nat} {cs : List Char} (h : Tail false depth cs) :
    depth = 1 ∧ ∃ body, cs = body ++ ['*', '/'] ∧ ¬ ['*', '/'] <:+: body ++ ['*'] := by
  induction h with
  | close => exact ⟨rfl, [], rfl, by simp [List.infix_cons_iff]⟩
  | @char depth c cs hClose _ _ ih =>
    obtain ⟨hDepth, body, rfl, hBody⟩ := ih
    refine ⟨hDepth, c :: body, rfl, ?_⟩
    intro hMark
    rcases List.infix_cons_iff.1 hMark with hFront | hLater
    · apply hClose
      exact hFront.trans ⟨['/'], by simp⟩
    · exact hBody hLater
  | nest hNests => cases hNests

/-- Block comments are opening marks with a tail. -/
theorem isBlock_iff {nesting : Option UInt32} {comment : List Char} :
    IsBlock nesting comment ↔
      ∃ depth cs, comment = '/' :: '*' :: cs ∧ Tail nesting.isSome depth cs ∧
        depth ≤ mostOpen nesting := by
  cases nesting with
  | some limit => exact Iff.rfl
  | none =>
    constructor
    · rintro ⟨body, rfl, hBody⟩
      exact ⟨1, body ++ ['*', '/'], rfl, tail_of_not_isInfix rfl hBody, Nat.le_refl 1⟩
    · rintro ⟨depth, cs, rfl, hTail, -⟩
      obtain ⟨-, body, rfl, hBody⟩ := hTail.exists_body
      exact ⟨body, rfl, hBody⟩

-- ---------------------------------------------------------------------------
-- Tails are passed over
-- ---------------------------------------------------------------------------

theorem Inside.behind_behind (xs ys : List Char) (found : Inside) :
    (found.behind ys).behind xs = found.behind (xs ++ ys) := by
  cases found <;> simp [Inside.behind]

/-- What stands inside `outer` further comments when one of them has just ended with `cs`. -/
def afterTail (nesting : Option UInt32) (cs ahead : List Char) : Nat → Inside
  | 0 => .closed cs
  | outer + 1 => (inside nesting outer ahead).behind cs

theorem behind_afterTail (nesting : Option UInt32) (xs cs ahead : List Char) (outer : Nat) :
    (afterTail nesting cs ahead outer).behind xs = afterTail nesting (xs ++ cs) ahead outer := by
  cases outer with
  | zero => rfl
  | succ outer => exact Inside.behind_behind xs cs _

theorem inside_close (nesting : Option UInt32) (outer : Nat) (cs : List Char) :
    inside nesting outer ('*' :: '/' :: cs) = afterTail nesting ['*', '/'] cs outer := by
  rw [inside.eq_def]
  cases outer <;> rfl

/-- An opening mark begins a further comment where the limit allows it. -/
theorem inside_open {limit : UInt32} {outer : Nat} (hLimit : ¬ limit.toNat ≤ outer + 1)
    (cs : List Char) : inside (some limit) outer ('/' :: '*' :: cs) =
      (inside (some limit) (outer + 1) cs).behind ['/', '*'] := by
  rw [inside.eq_def]
  simp [hLimit]

theorem inside_char {nesting : Option UInt32} {outer : Nat} {c d : Char} {cs : List Char}
    (hClose : ¬ ['*', '/'] <+: c :: d :: cs)
    (hOpen : nesting.isSome = true → ¬ ['/', '*'] <+: c :: d :: cs) :
    inside nesting outer (c :: d :: cs) = (inside nesting outer (d :: cs)).behind [c] := by
  have hNotClose : ¬ (c = '*' && d = '/') = true := by
    intro h
    simp only [Bool.and_eq_true, decide_eq_true_eq] at h
    obtain ⟨rfl, rfl⟩ := h
    exact hClose ⟨cs, rfl⟩
  by_cases hMark : (c = '/' && d = '*') = true
  · -- an opening mark means nothing where comments do not nest
    have hMark' := hMark
    simp only [Bool.and_eq_true, decide_eq_true_eq] at hMark'
    obtain ⟨rfl, rfl⟩ := hMark'
    cases nesting with
    | none =>
      rw [inside.eq_def]
      rfl
    | some limit => exact absurd ⟨cs, rfl⟩ (hOpen rfl)
  · rw [inside.eq_def]
    simp only [if_neg hNotClose, if_neg hMark]

/--
The scanner passes over a tail, whatever follows it. The induction is on the
tail; the number of comments around it grows at every inner opening mark.
-/
theorem inside_tail_append {nesting : Option UInt32} {depth : Nat} {cs : List Char}
    (h : Tail nesting.isSome depth cs) :
    ∀ (outer : Nat) (ahead : List Char), outer + depth ≤ mostOpen nesting →
      inside nesting outer (cs ++ ahead) = afterTail nesting cs ahead outer := by
  induction h with
  | close =>
    intro outer ahead _
    exact inside_close nesting outer ahead
  | @char depth c cs hClose hOpen hTail ih =>
    intro outer ahead hDepth
    obtain ⟨d, e, rest, rfl⟩ := hTail.exists_cons
    have hStep : inside nesting outer (c :: d :: (e :: rest ++ ahead)) =
        (inside nesting outer (d :: e :: rest ++ ahead)).behind [c] := by
      apply inside_char
      · intro hMark
        exact hClose (by simpa [List.cons_prefix_cons] using hMark)
      · intro hSome hMark
        exact hOpen hSome (by simpa [List.cons_prefix_cons] using hMark)
    show inside nesting outer (c :: d :: (e :: rest ++ ahead)) = _
    rw [hStep, ih outer ahead hDepth, behind_afterTail]
    rfl
  | @nest inner depth xs ys hSome hInner _ ihInner ihTail =>
    intro outer ahead hDepth
    cases nesting with
    | none => cases hSome
    | some limit =>
      have hPos := hInner.depth_pos
      have hLimit : ¬ limit.toNat ≤ outer + 1 := by
        simp only [mostOpen] at hDepth
        omega
      show inside (some limit) outer ('/' :: '*' :: (xs ++ ys ++ ahead)) = _
      -- the inner comment first, then the rest of the outer one
      have hIn := ihInner (outer + 1) (ys ++ ahead) (by omega)
      have hOut := ihTail outer ahead (by omega)
      rw [inside_open hLimit, List.append_assoc, hIn]
      show ((inside (some limit) outer (ys ++ ahead)).behind xs).behind ['/', '*'] = _
      rw [hOut, behind_afterTail, behind_afterTail]
      rfl

-- ---------------------------------------------------------------------------
-- What is passed over are tails
-- ---------------------------------------------------------------------------

/-- Tails that close so many open comments one after another, innermost first. -/
inductive Closes (nesting : Option UInt32) : Nat → List Char → Prop
  | none : Closes nesting 0 []
  | one {outer depth : Nat} {xs ys : List Char} :
      Tail nesting.isSome depth xs → outer + depth ≤ mostOpen nesting → Closes nesting outer ys →
      Closes nesting (outer + 1) (xs ++ ys)

theorem Closes.cons {nesting : Option UInt32} {outer : Nat} {c : Char} {cs : List Char}
    (h : Closes nesting (outer + 1) cs) (hClose : ¬ ['*', '/'] <+: c :: cs)
    (hOpen : nesting.isSome = true → ¬ ['/', '*'] <+: c :: cs) :
    Closes nesting (outer + 1) (c :: cs) := by
  cases h with
  | @one _ depth xs ys hTail hDepth hRest =>
    have hFront : c :: xs <+: c :: (xs ++ ys) := ⟨ys, rfl⟩
    have hTail' : Tail nesting.isSome depth (c :: xs) :=
      .char (fun hMark => hClose (hMark.trans hFront))
        (fun hSome hMark => hOpen hSome (hMark.trans hFront)) hTail
    exact .one hTail' hDepth hRest

theorem Closes.nest {nesting : Option UInt32} {outer : Nat} {cs : List Char}
    (hSome : nesting.isSome = true) (h : Closes nesting (outer + 2) cs) :
    Closes nesting (outer + 1) ('/' :: '*' :: cs) := by
  cases h with
  | @one _ inner xs ys hInner hInnerDepth hRest =>
    cases hRest with
    | @one _ depth ys zs hTail hDepth hRest =>
      have hTail' : Tail nesting.isSome (max (inner + 1) depth) ('/' :: '*' :: (xs ++ ys)) :=
        .nest hSome hInner hTail
      have hBoth : outer + max (inner + 1) depth ≤ mostOpen nesting := by omega
      have hCloses := Closes.one hTail' hBoth hRest
      simpa using hCloses

/-- What the scanner passes over closes the comments that are open. -/
theorem closes_of_inside {nesting : Option UInt32} {outer : Nat} {cs written : List Char}
    (hOpen : outer + 1 ≤ mostOpen nesting) (h : inside nesting outer cs = .closed written) :
    Closes nesting (outer + 1) written := by
  fun_induction inside nesting outer cs generalizing written with
  | case1 => cases h
  | case2 => cases h
  | case3 =>
    cases h
    exact .one .close hOpen .none
  | case4 c d cs _ outer ih =>
    obtain ⟨w, hFound, rfl⟩ := Inside.behind_eq_closed h
    exact .one .close hOpen (ih (by omega) hFound)
  | case5 outer c d cs hClose hMark flat ih =>
    subst flat
    obtain ⟨w, hFound, rfl⟩ := Inside.behind_eq_closed h
    obtain ⟨rfl, rfl⟩ : c = '/' ∧ d = '*' := by simpa using hMark
    refine (ih hOpen hFound).cons ?_ ?_
    · simp [List.cons_prefix_cons]
    · simp
  | case6 => cases h
  | case7 outer c d cs _ _ limit nested hLimit ih =>
    subst nested
    obtain ⟨w, hFound, rfl⟩ := Inside.behind_eq_closed h
    have hDeeper : outer + 1 + 1 ≤ mostOpen (some limit) := by
      simp only [mostOpen]
      omega
    exact Closes.nest rfl (ih hDeeper hFound)
  | case8 outer c d cs hNotClose hNotOpen ih =>
    obtain ⟨w, hFound, rfl⟩ := Inside.behind_eq_closed h
    -- a mark at the front of what is passed over would stand in the text
    have hFront : c :: w <+: c :: d :: cs :=
      (List.prefix_cons_inj c).2 (inside_closed_isPrefix hFound)
    refine (ih hOpen hFound).cons ?_ ?_
    · intro hMark
      apply hNotClose
      obtain ⟨rest, hText⟩ := hMark.trans hFront
      cases hText
      rfl
    · intro _ hMark
      apply hNotOpen
      obtain ⟨rest, hText⟩ := hMark.trans hFront
      cases hText
      rfl

-- ---------------------------------------------------------------------------
-- Block comments
-- ---------------------------------------------------------------------------

/-- A block comment is read, whatever follows it. -/
theorem block_append {nesting : Option UInt32} {cs : List Char}
    (h : IsBlock nesting ('/' :: '*' :: cs)) (ahead : List Char) :
    block nesting (cs ++ ahead) = .ok ('/' :: '*' :: cs) := by
  obtain ⟨depth, cs', hSame, hTail, hDepth⟩ := isBlock_iff.1 h
  obtain rfl : cs = cs' := by simpa using hSame
  unfold block
  rw [inside_tail_append hTail 0 ahead (by omega)]
  rfl

/-- What is read as a block comment is one. -/
theorem isBlock_of_block {nesting : Option UInt32} {cs comment : List Char}
    (h : block nesting cs = .ok comment) : IsBlock nesting comment := by
  unfold block at h
  split at h
  · next written hInside =>
    cases h
    have hOne : 0 + 1 ≤ mostOpen nesting := by
      cases nesting with
      | none => exact Nat.le_refl 1
      | some limit => exact Nat.le_max_right _ _
    have hCloses := closes_of_inside hOne hInside
    cases hCloses with
    | @one _ depth xs ys hTail hDepth hRest =>
      cases hRest
      refine isBlock_iff.2 ⟨depth, xs, by simp, hTail, by omega⟩
  · cases h
  · cases h

/-- What stands at the front of a text is a line comment or a block comment. -/
theorem front?_eq_some {nesting : Option UInt32} {cs : List Char}
    {found : Except Fault (List Char)} (h : front? nesting cs = some found) :
    (∃ body, cs = '/' :: '/' :: body ∧ found = .ok ('/' :: '/' :: body.takeWhile (· != '\n'))) ∨
      ∃ rest, cs = '/' :: '*' :: rest ∧ found = block nesting rest := by
  unfold front? at h
  split at h
  · exact Or.inl ⟨_, rfl, (Option.some.inj h).symm⟩
  · exact Or.inr ⟨_, rfl, (Option.some.inj h).symm⟩
  · cases h

end HdlLex.Comment
