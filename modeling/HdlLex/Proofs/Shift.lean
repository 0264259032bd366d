import HdlLex.Proofs.Places

/-!
# Shift — the same text at another place

What a lexer yields depends on the text ahead of it, and on what it has passed
only through the position at which it stands. A fresh lexer that is given the
rest of a text therefore yields the same, call by call, at places that count
from where the rest begins.

* `Shift` — how far the beginning of a text lies behind that of another one.
* `Span.IsShifted`, `Token.IsShifted`, `LexError.IsShifted` — the same at
  shifted places, with no counter overflowing.
* `Shift.Along` — two positions that count the same text.
* `Lexer.InStep` — two lexers with the same text ahead.

Main results:

* `Shift.along_of_isShort` — positions in a short text shift the counts of the
  text behind them.
* `Lexer.InStep.nextToken`, `Lexer.InStep.calls` — two lexers in step yield
  the same and stay in step.
* `results_shifted` — what a lexer yields after any number of calls is what a
  fresh one yields on the rest of the text.
-/

namespace HdlLex

-- ---------------------------------------------------------------------------
-- Shifted places
-- ---------------------------------------------------------------------------

/-- How far the beginning of a text lies behind the beginning of another one. -/
structure Shift where
  bytes : Nat
  lines : Nat
  /-- The columns before the text, which only its first line is behind. -/
  columns : Nat

/-- How far a place lies behind the beginning of its text. -/
def Position.shift (position : Position) : Shift :=
  ⟨position.offset, position.line.toNat - 1, position.column.toNat - 1⟩

/-- The shift takes the first line and column to the second ones. -/
structure Shift.Takes (shift : Shift) (line column line' column' : UInt32) : Prop where
  line_eq : line'.toNat = line.toNat + shift.lines
  column_eq : column'.toNat = column.toNat + if line = 1 then shift.columns else 0

structure Position.IsShifted (shift : Shift) (position moved : Position) : Prop where
  offset_eq : moved.offset = position.offset + shift.bytes
  place : shift.Takes position.line position.column moved.line moved.column

structure Span.IsShifted (shift : Shift) (span moved : Span) : Prop where
  start_eq : moved.start = span.start + shift.bytes
  stop_eq : moved.stop = span.stop + shift.bytes
  place : shift.Takes span.line span.column moved.line moved.column

/-- The same token at a shifted place. -/
structure Token.IsShifted (shift : Shift) (token moved : Token) : Prop where
  kind_eq : moved.kind = token.kind
  text_eq : moved.text = token.text
  span : token.span.IsShifted shift moved.span

/-- The same error at a shifted place. -/
structure LexError.IsShifted (shift : Shift) (error moved : LexError) : Prop where
  cause_eq : moved.cause = error.cause
  place : shift.Takes error.line error.column moved.line moved.column

/-- Results that are related as `R` says, or the same error at a shifted place. -/
inductive Shift.Results {α : Type} (shift : Shift) (R : α → α → Prop) :
    Except LexError α → Except LexError α → Prop
  | ok {found moved : α} (h : R found moved) : shift.Results R (.ok found) (.ok moved)
  | error {error moved : LexError} (h : error.IsShifted shift moved) :
      shift.Results R (.error error) (.error moved)

/-- The same token or the same error at a shifted place. -/
abbrev Shift.Result (shift : Shift) :
    Except LexError Token → Except LexError Token → Prop :=
  shift.Results (Token.IsShifted shift)

/-- The same tokens or the same error at shifted places. -/
abbrev Shift.Stream (shift : Shift) :
    Except LexError (List Token) → Except LexError (List Token) → Prop :=
  shift.Results (List.Forall₂ (Token.IsShifted shift))

-- ---------------------------------------------------------------------------
-- Shifted counts
-- ---------------------------------------------------------------------------

/-- Counting over `ahead` from `start` and from `moved` leads to shifted positions throughout. -/
def Shift.Along (shift : Shift) (start moved : Position) (ahead : List Char) : Prop :=
  ∀ cs, cs <+: ahead → (start.afterAll cs).IsShifted shift (moved.afterAll cs)

theorem Shift.Along.behind {shift : Shift} {start moved : Position} {cs ahead : List Char}
    (h : shift.Along start moved (cs ++ ahead)) :
    shift.Along (start.afterAll cs) (moved.afterAll cs) ahead := by
  intro ds hFront
  rw [← Position.afterAll_append, ← Position.afterAll_append]
  exact h (cs ++ ds) ((List.prefix_append_right_inj cs).2 hFront)

/-- A token is shifted as the positions between which it stands. -/
theorem Lexeme.toToken_isShifted {shift : Shift} {start stop start' stop' : Position}
    (lexeme : Lexeme) (hStart : start.IsShifted shift start') (hStop : stop.IsShifted shift stop') :
    (lexeme.toToken start stop).IsShifted shift (lexeme.toToken start' stop') where
  kind_eq := rfl
  text_eq := rfl
  span := ⟨hStart.offset_eq, hStop.offset_eq, hStart.place⟩

/-- An error is shifted as the position at which its construct begins. -/
theorem Fault.errorAt_isShifted {shift : Shift} {start moved : Position} {ahead : List Char}
    {fault : Fault} (h : shift.Along start moved ahead) (hLead : fault.lead <+: ahead) :
    (fault.errorAt start).IsShifted shift (fault.errorAt moved) where
  cause_eq := rfl
  place := (h fault.lead hLead).place

namespace Text

theorem one_le_lineOf (cs : List Char) : 1 ≤ lineOf cs := by
  unfold lineOf
  omega

theorem lineOf_eq_one_iff {cs : List Char} : lineOf cs = 1 ↔ '\n' ∉ cs := by
  unfold lineOf
  rw [← List.count_eq_zero]
  omega

/-- Only on the first line do the characters before a text count for its columns. -/
theorem sinceFeed_append (xs ys : List Char) :
    sinceFeed (xs ++ ys) = sinceFeed ys + if lineOf ys = 1 then sinceFeed xs else 0 := by
  by_cases hFeed : '\n' ∈ ys
  · rw [sinceFeed_append_of_mem xs hFeed, if_neg (by simpa [lineOf_eq_one_iff] using hFeed),
      Nat.add_zero]
  · have hAlone := sinceFeed_append_of_not_mem [] hFeed
    have hNone : sinceFeed [] = 0 := rfl
    rw [List.nil_append, hNone, Nat.zero_add] at hAlone
    rw [sinceFeed_append_of_not_mem xs hFeed, if_pos (lineOf_eq_one_iff.2 hFeed), hAlone,
      Nat.add_comm]

end Text

/-- In a short text the counts of what lies behind a place are shifted by that place. -/
theorem Shift.along_of_isShort (offset : Nat) {passed ahead : List Char}
    (h : Position.IsShort (passed ++ ahead)) :
    let place := (⟨offset, 1, 1⟩ : Position).afterAll passed
    place.shift.Along Position.origin place ahead := by
  intro place cs hFront
  obtain ⟨rest, rfl⟩ := hFront
  have hBefore : Position.IsShort passed := h.of_append (List.nil_append _).symm
  have hAlone : Position.IsShort cs := h.of_append rfl
  have hBoth : Position.IsShort (passed ++ cs) := by
    have hText : passed ++ (cs ++ rest) = [] ++ ((passed ++ cs) ++ rest) := by simp
    exact h.of_append hText
  obtain ⟨hPlaceLine, hPlaceColumn⟩ := Position.toNat_afterAll offset hBefore
  obtain ⟨hLine, hColumn⟩ := Position.toNat_afterAll 0 hAlone
  obtain ⟨hMovedLine, hMovedColumn⟩ := Position.toNat_afterAll offset hBoth
  rw [Position.afterAll_append] at hMovedLine hMovedColumn
  refine ⟨?_, ?_, ?_⟩
  · simp only [Position.shift, Position.offset_afterAll, Position.origin]
    omega
  · have hPos := Text.one_le_lineOf passed
    have hCount : Text.lineOf cs = 1 + cs.count '\n' := rfl
    show (place.afterAll cs).line.toNat = _ + (place.line.toNat - 1)
    rw [hMovedLine, hPlaceLine, Position.origin, hLine, Text.lineOf_append]
    omega
  · have hFirst : (Position.origin.afterAll cs).line = 1 ↔ Text.lineOf cs = 1 := by
      rw [← hLine, ← UInt32.toNat_inj]
      rfl
    show (place.afterAll cs).column.toNat =
      _ + if (Position.origin.afterAll cs).line = 1 then place.column.toNat - 1 else 0
    rw [if_congr hFirst rfl rfl, hMovedColumn, hPlaceColumn, Text.sinceFeed_append,
      Position.origin, hColumn]
    split
    · omega
    · omega

/-- Bytes before the beginning of a count are counted to its end, and change nothing else. -/
theorem Position.afterAll_add_offset (bytes : Nat) (position : Position) (cs : List Char) :
    ({ position with offset := position.offset + bytes } : Position).afterAll cs =
      { position.afterAll cs with offset := (position.afterAll cs).offset + bytes } := by
  induction cs generalizing position with
  | nil => rfl
  | cons c cs ih =>
    have hStep : ({ position with offset := position.offset + bytes } : Position).after c =
        { position.after c with offset := (position.after c).offset + bytes } := by
      unfold Position.after
      split
      · simp [Nat.add_right_comm]
      · simp [Nat.add_right_comm]
    rw [Position.afterAll_cons, Position.afterAll_cons, hStep]
    exact ih (position.after c)

theorem Shift.along_of_offset (bytes : Nat) (start : Position) (ahead : List Char) :
    Shift.Along ⟨bytes, 0, 0⟩ start { start with offset := start.offset + bytes } ahead := by
  intro cs _
  rw [Position.afterAll_add_offset]
  exact ⟨rfl, rfl, by simp⟩

-- ---------------------------------------------------------------------------
-- Two lexers
-- ---------------------------------------------------------------------------

namespace Lexer

/-- Whether a mark at the beginning is skipped does not matter to what is read from there on. -/
theorem read_skipMark (config : Config) (on : Bool) (cs : List Char) :
    read { config with skipMark := on } cs = read config cs := by
  have hFront : ∀ ds, Lexeme.front { config with skipMark := on } ds = Lexeme.front config ds := by
    intro ds
    cases ds with
    | nil => rfl
    | cons c ds => rfl
  unfold read
  simp only [hFront]
  rfl

/--
A lexer at the beginning of a text and one that has the same text ahead of it
further on in another one. They may differ in the mark that they skip, which
both have passed.
-/
structure InStep (shift : Shift) (fresh lexer : Lexer) : Prop where
  config_eq : fresh.config = { lexer.config with skipMark := fresh.config.skipMark }
  rest_eq : fresh.cursor.rest = lexer.cursor.rest
  along : shift.Along fresh.cursor.position lexer.cursor.position lexer.cursor.rest

variable {shift : Shift} {fresh lexer : Lexer}

theorem InStep.read_eq (h : InStep shift fresh lexer) :
    read fresh.config fresh.cursor.rest = read lexer.config lexer.cursor.rest := by
  rw [h.rest_eq, h.config_eq]
  exact read_skipMark _ _ _

/-- Two lexers that pass over the same characters stay in step. -/
theorem InStep.record_behind {cs ahead : List Char} (h : InStep shift fresh lexer)
    (hRest : lexer.cursor.rest = cs ++ ahead) (result result' : Except LexError Token) :
    InStep shift (fresh.record (.ofResult result (fresh.cursor.behind cs ahead)))
      (lexer.record (.ofResult result' (lexer.cursor.behind cs ahead))) where
  config_eq := h.config_eq
  rest_eq := rfl
  along := by
    have hAlong := h.along
    rw [hRest] at hAlong
    exact hAlong.behind

/-- Two lexers in step yield the same at shifted places, and stay in step. -/
theorem InStep.nextToken (h : InStep shift fresh lexer) :
    shift.Result fresh.nextToken.1 lexer.nextToken.1 ∧
      InStep shift fresh.nextToken.2 lexer.nextToken.2 := by
  rcases read_cases lexer.config lexer.cursor.rest with
    ⟨gap, lexeme, ahead, hRead, hRest⟩ | ⟨fault, ahead, hRead, hRest⟩
  · -- both read the same lexeme behind the same gap
    have hTaken : lexer.cursor.rest = (gap ++ lexeme.written) ++ ahead := by
      rw [hRest, List.append_assoc]
    rw [nextToken_of_read_ok hRead hRest,
      nextToken_of_read_ok (h.read_eq.trans hRead) (h.rest_eq.trans hRest)]
    refine ⟨.ok (lexeme.toToken_isShifted (h.along gap ⟨_, hRest.symm⟩) ?_),
      h.record_behind hTaken _ _⟩
    exact h.along (gap ++ lexeme.written) ⟨_, hTaken.symm⟩
  · -- both meet the same fault
    have hLead := (read_fits hRead).lead_isPrefix_text
    rw [nextToken_of_read_error hRead hRest,
      nextToken_of_read_error (h.read_eq.trans hRead) (h.rest_eq.trans hRest)]
    exact ⟨.error (Fault.errorAt_isShifted h.along hLead), h.record_behind hRest _ _⟩

theorem InStep.calls (h : InStep shift fresh lexer) (n : Nat) :
    InStep shift (fresh.calls n) (lexer.calls n) := by
  induction n with
  | zero => exact h
  | succ n ih => exact ih.nextToken.2

/-- Call by call, two lexers in step yield the same at shifted places. -/
theorem InStep.result (h : InStep shift fresh lexer) (n : Nat) :
    shift.Result (fresh.result n) (lexer.result n) :=
  (h.calls n).nextToken.1

/-- A lexer somewhere in a short text is in step with a fresh one on the rest of the text. -/
theorem Stands.inStep {config : Config} {source : String} {passed : List Char} {lexer : Lexer}
    (h : lexer.Stands config source passed) (hShort : Position.IsShort source.toList) :
    InStep lexer.cursor.position.shift
      (ofText { config with skipMark := false } (String.ofList lexer.cursor.rest)) lexer where
  config_eq := by
    rw [h.config_eq]
    rfl
  rest_eq := by
    show (String.ofList lexer.cursor.rest).toList = _
    exact String.toList_ofList
  along := by
    rw [h.position_eq]
    have hText : source.toList = config.passedMark source.toList ++
        ((passed ++ lexer.cursor.rest) ++ []) := by
      rw [List.append_nil]
      exact h.source_eq
    exact Shift.along_of_isShort _ (hShort.of_append hText)

/-- A lexer that has skipped a mark is in step with one that is given the text without it. -/
theorem inStep_mark (config : Config) (source : String) :
    InStep ⟨3, 0, 0⟩ (ofText { config with skipMark := false } source)
      (ofText { config with skipMark := true }
        (String.ofList (byteOrderMark :: source.toList))) := by
  have hText : (String.ofList (byteOrderMark :: source.toList)).toList =
      byteOrderMark :: source.toList := String.toList_ofList
  have hMark : ({ config with skipMark := true } : Config).passedMark
      (byteOrderMark :: source.toList) = [byteOrderMark] := by
    simp [Config.passedMark]
  have hStands := stands_ofText { config with skipMark := true }
    (String.ofList (byteOrderMark :: source.toList))
  have hRest := hStands.source_eq
  have hPosition := hStands.position_eq
  rw [hText, hMark, List.nil_append, List.singleton_append, List.cons.injEq] at hRest
  rw [hText, Config.startPosition, hMark, Position.afterAll_nil] at hPosition
  refine ⟨rfl, hRest.2, ?_⟩
  rw [hPosition]
  exact Shift.along_of_offset 3 Position.origin _

end Lexer

/--
In every run on a short text, what the lexer yields from some call on is what a
fresh lexer that skips no mark yields on the rest of the text, shifted by the
place that the first one has reached. A skipped mark in particular shifts
everything by its three bytes.
-/
theorem results_shifted {config : Config} {source : String}
    (hShort : Position.IsShort source.toList) :
    let plain : Config := { config with skipMark := false }
    let marked : Config := { config with skipMark := true }
    (∀ n, let lexer := (Lexer.ofText config source).calls n
      ∃ ahead, Text.dropBytes? source.toList lexer.cursor.position.offset = some ahead ∧
        ∀ m, lexer.cursor.position.shift.Result
          ((Lexer.ofText plain (String.ofList ahead)).result m) (lexer.result m)) ∧
    ∀ m, Shift.Result ⟨3, 0, 0⟩ ((Lexer.ofText plain source).result m)
      ((Lexer.ofText marked (String.ofList (byteOrderMark :: source.toList))).result m) := by
  intro plain marked
  refine ⟨?_, ?_⟩
  · intro n lexer
    obtain ⟨passed, hStands⟩ := Lexer.exists_stands_calls config source n
    refine ⟨lexer.cursor.rest, ?_, fun m => (hStands.inStep hShort).result m⟩
    have hText : source.toList =
        (config.passedMark source.toList ++ passed) ++ lexer.cursor.rest := by
      rw [List.append_assoc]
      exact hStands.source_eq
    have hDrop := Text.dropBytes?_append (config.passedMark source.toList ++ passed)
      lexer.cursor.rest
    rwa [← hText, ← hStands.offset_eq] at hDrop
  · intro m
    exact (Lexer.inStep_mark config source).result m

/-- Behind a skipped mark and a faulty literal, in the middle of the second line. -/
theorem results_shifted_behind_fault :
    let source := "\ufeffa\n'xy' b\nc"
    let lexer := (Lexer.ofText {} source).calls 2
    Position.IsShort source.toList ∧ lexer.cursor.position.shift = ⟨9, 1, 4⟩ ∧
      ∀ m, Shift.Result ⟨9, 1, 4⟩
        ((Lexer.ofText { skipMark := false } " b\nc").result m) (lexer.result m) := by
  intro source lexer
  have hShort : Position.IsShort source.toList := by
    unfold Position.IsShort
    decide
  have hPlace : lexer.cursor.position = ⟨9, 2, 5⟩ := by
    decide +kernel
  have hAhead : Text.dropBytes? source.toList 9 = some " b\nc".toList := by
    decide +kernel
  have hShift : lexer.cursor.position.shift = ⟨9, 1, 4⟩ := by
    rw [hPlace]
    rfl
  refine ⟨hShort, hShift, ?_⟩
  obtain ⟨ahead, hDrop, hSame⟩ := (results_shifted hShort).1 2
  have hOffset : ((Lexer.ofText {} source).calls 2).cursor.position.offset = 9 :=
    congrArg Position.offset hPlace
  rw [hOffset, hAhead] at hDrop
  cases hDrop
  rw [String.ofList_toList] at hSame
  rw [← hShift]
  exact hSame

end HdlLex
