import HdlLex.Config
import HdlLex.Lexeme

/-!
# Comment — line and block comments

A line comment ends before its line feed. A block comment ends with the
first closing mark; where block comments nest, each opening mark inside
demands a closing mark of its own, and only so many may be open at once.

* `Comment.Inside`, `Comment.inside` — what stands behind an opening mark.
* `Comment.block` — the block comment behind its opening mark.
* `Comment.front?` — the comment at the front of a text, if there is one.
-/

namespace HdlLex

/-- How many block comments may be open at once, where they nest. -/
def Config.nesting (config : Config) : Option UInt32 :=
  if config.nestedComments then some config.maxCommentDepth else none

namespace Comment

/-! ## Block comments -/

/-- What stands behind the opening mark of a block comment. -/
inductive Inside where
  /-- Characters through the closing mark. -/
  | closed (written : List Char)
  /-- The text ends before the closing mark. -/
  | unclosed
  /-- Characters up to an opening mark that would exceed the limit. -/
  | tooDeep (before : List Char) (limit : UInt32)
  deriving DecidableEq, Repr

/-- The same, behind further characters. -/
def Inside.behind (cs : List Char) : Inside → Inside
  | .closed written => .closed (cs ++ written)
  | .unclosed => .unclosed
  | .tooDeep before limit => .tooDeep (cs ++ before) limit

/-- What stands behind an opening mark, with `outer` more comments open around it. -/
def inside (nesting : Option UInt32) (outer : Nat) : List Char → Inside
  | [] => .unclosed
  | [_] => .unclosed
  | c :: d :: cs =>
    if c = '*' && d = '/' then
      match outer with
      | 0 => .closed ['*', '/']
      | outer + 1 => (inside nesting outer cs).behind ['*', '/']
    else if c = '/' && d = '*' then
      match nesting with
      -- only the slash is passed: the star may be the beginning of the closing mark
      | none => (inside nesting outer (d :: cs)).behind ['/']
      | some limit =>
        if limit.toNat ≤ outer + 1 then .tooDeep [] limit
        else (inside nesting (outer + 1) cs).behind ['/', '*']
    else (inside nesting outer (d :: cs)).behind [c]

/-- The block comment whose opening mark stands before `cs`. -/
def block (nesting : Option UInt32) (cs : List Char) : Except Fault (List Char) :=
  match inside nesting 0 cs with
  | .closed written => .ok ('/' :: '*' :: written)
  | .unclosed => .error ⟨.unclosedComment, [], '/' :: '*' :: cs⟩
  | .tooDeep before limit =>
    .error ⟨.commentTooDeep limit, '/' :: '*' :: before, '/' :: '*' :: before⟩

/-! ## Either kind -/

/-- The comment at the front of a text, if there is one. -/
def front? (nesting : Option UInt32) : List Char → Option (Except Fault (List Char))
  | '/' :: '/' :: cs => some (.ok ('/' :: '/' :: cs.takeWhile (· != '\n')))
  | '/' :: '*' :: cs => some (block nesting cs)
  | _ => none

theorem block_ne_nil {nesting : Option UInt32} {cs comment : List Char}
    (h : block nesting cs = .ok comment) : comment ≠ [] := by
  unfold block at h
  split at h <;> cases h
  simp

/-- A comment has at least its opening mark. -/
theorem front?_ne_nil {nesting : Option UInt32} {cs comment : List Char}
    (h : front? nesting cs = some (.ok comment)) : comment ≠ [] := by
  unfold front? at h
  split at h
  · cases h; simp
  · exact block_ne_nil (Option.some.inj h)
  · cases h

/-! ## What is read stands at the front -/

theorem Inside.behind_eq_closed {cs written : List Char} {found : Inside}
    (h : found.behind cs = .closed written) : ∃ w, found = .closed w ∧ written = cs ++ w := by
  cases found with
  | closed w =>
    cases h
    exact ⟨w, rfl, rfl⟩
  | unclosed => cases h
  | tooDeep before limit => cases h

theorem inside_closed_isPrefix {nesting : Option UInt32} {outer : Nat} {cs written : List Char}
    (h : inside nesting outer cs = .closed written) : written <+: cs := by
  fun_induction inside nesting outer cs generalizing written with
  | case1 => cases h
  | case2 => cases h
  | case3 c d cs hMarks =>
    cases h
    obtain ⟨rfl, rfl⟩ : c = '*' ∧ d = '/' := by simpa using hMarks
    exact ⟨cs, rfl⟩
  | case4 c d cs hMarks outer ih =>
    obtain ⟨w, hFound, rfl⟩ := Inside.behind_eq_closed h
    obtain ⟨rfl, rfl⟩ : c = '*' ∧ d = '/' := by simpa using hMarks
    exact (List.prefix_append_right_inj ['*', '/']).2 (ih hFound)
  | case5 outer c d cs _ hMarks hFlat ih =>
    rw [hFlat] at ih
    obtain ⟨w, hFound, rfl⟩ := Inside.behind_eq_closed h
    obtain ⟨rfl, rfl⟩ : c = '/' ∧ d = '*' := by simpa using hMarks
    exact (List.prefix_cons_inj '/').2 (ih hFound)
  | case6 => cases h
  | case7 outer c d cs _ hMarks limit hNested _ ih =>
    rw [hNested] at ih
    obtain ⟨w, hFound, rfl⟩ := Inside.behind_eq_closed h
    obtain ⟨rfl, rfl⟩ : c = '/' ∧ d = '*' := by simpa using hMarks
    exact (List.prefix_append_right_inj ['/', '*']).2 (ih hFound)
  | case8 outer c d cs _ _ ih =>
    obtain ⟨w, hFound, rfl⟩ := Inside.behind_eq_closed h
    exact (List.prefix_cons_inj c).2 (ih hFound)

theorem block_isPrefix {nesting : Option UInt32} {cs comment : List Char}
    (h : block nesting cs = .ok comment) : comment <+: '/' :: '*' :: cs := by
  unfold block at h
  split at h
  · next hClosed =>
    cases h
    exact (List.prefix_append_right_inj ['/', '*']).2 (inside_closed_isPrefix hClosed)
  · cases h
  · cases h

/-- A comment stands at the front of the text. -/
theorem front?_isPrefix {nesting : Option UInt32} {cs comment : List Char}
    (h : front? nesting cs = some (.ok comment)) : comment <+: cs := by
  unfold front? at h
  split at h
  · next rest =>
    cases h
    exact (List.prefix_append_right_inj ['/', '/']).2 (List.takeWhile_prefix _)
  · exact block_isPrefix (Option.some.inj h)
  · cases h

end Comment

end HdlLex
