import HdlLex.Proofs.Reports

/-!
# Agreement — one text under two configurations

A configuration acts on a text only through what is read at one place after
another. Two configurations that read the same wherever a text leads split it
into the same pieces, and yield the same tokens. They need to agree on this text
only: what its pieces and its fault are may be used to show that they do. The
fault at the end may be named differently by the two.

* `Fault.recast`, `LexError.recast` — the same with another cause.

Main results:

* `Lexer.Reads.recast` — configurations that agree along a text split it alike.
* `Lexer.items_ofText` — the items of a text, given how it splits.
* `Lexer.diagnostics_items` — the items of a stream determine what is collected.
* `tokenize_recast` — the tokens or the error of a text that is split alike.
-/

namespace HdlLex

/-- The same fault with another cause. -/
def Fault.recast (change : LexError.Cause → LexError.Cause) (fault : Fault) : Fault :=
  { fault with cause := change fault.cause }

/-- The same error with another cause. -/
def LexError.recast (change : LexError.Cause → LexError.Cause) (error : LexError) : LexError :=
  { error with cause := change error.cause }

theorem Fault.recast_id : Fault.recast id = id := rfl

theorem Fault.mapError_recast_id {α : Type} (found : Except Fault α) :
    found.mapError (Fault.recast id) = found := by
  cases found with
  | error fault => rfl
  | ok value => rfl

theorem LexError.mapError_recast_id {α : Type} (found : Except LexError α) :
    found.mapError (LexError.recast id) = found := by
  cases found with
  | error error => rfl
  | ok value => rfl

namespace Lexer

-- ---------------------------------------------------------------------------
-- Pieces
-- ---------------------------------------------------------------------------

/-- A lexeme that is read first in a text is that of a piece of it. -/
theorem Reads.exists_mem_of_read_ok {config : Config} {cs : List Char} {pieces : List Piece}
    {ending : Option Fault} (h : Reads config cs pieces ending) {gap : List Char} {lexeme : Lexeme}
    (hRead : read config cs = .ok (gap, lexeme)) : ∃ piece ∈ pieces, piece.lexeme = lexeme := by
  cases h with
  | last hFirst _ =>
    cases hFirst.symm.trans hRead
    exact ⟨_, List.mem_singleton_self _, rfl⟩
  | fault hFault => cases hFault.symm.trans hRead
  | more hFirst _ _ =>
    cases hFirst.symm.trans hRead
    exact ⟨_, List.mem_cons_self, rfl⟩

/-- A fault that is read first in a text is the one that it ends with. -/
theorem Reads.mem_ending_of_read_error {config : Config} {cs : List Char} {pieces : List Piece}
    {ending : Option Fault} (h : Reads config cs pieces ending) {fault : Fault}
    (hRead : read config cs = .error fault) : fault ∈ ending := by
  cases h with
  | last hFirst _ => cases hFirst.symm.trans hRead
  | fault hFault =>
    cases hFault.symm.trans hRead
    rfl
  | more hFirst _ _ => cases hFirst.symm.trans hRead

/--
A configuration that reads the same wherever a text leads splits it into the
same pieces. What is known of the lexemes and of the fault of the text, `P` and
`Q`, is known at each of these places as well.
-/
theorem Reads.recast {config other : Config} {change : LexError.Cause → LexError.Cause}
    {P : Lexeme → Prop} {Q : Fault → Prop}
    (hAgree : ∀ {cs : List Char} {pieces : List Piece} {ending : Option Fault},
      Reads config cs pieces ending → (∀ piece ∈ pieces, P piece.lexeme) →
      (∀ fault ∈ ending, Q fault) →
      read other cs = (read config cs).mapError (Fault.recast change))
    {cs : List Char} {pieces : List Piece} {ending : Option Fault}
    (h : Reads config cs pieces ending) (hPieces : ∀ piece ∈ pieces, P piece.lexeme)
    (hEnding : ∀ fault ∈ ending, Q fault) :
    Reads other cs pieces (ending.map (Fault.recast change)) := by
  have hSame := hAgree h hPieces hEnding
  induction h with
  | last hRead hEof =>
    rw [hRead] at hSame
    exact .last hSame hEof
  | fault hRead =>
    rw [hRead] at hSame
    exact .fault hSame
  | more hRead hMore hLater ih =>
    rw [hRead] at hSame
    have hPieces' := fun piece hMem => hPieces piece (List.mem_cons_of_mem _ hMem)
    exact .more hSame hMore (ih hPieces' hEnding (hAgree hLater hPieces' hEnding))

/-- In particular one that reads the very same there. -/
theorem Reads.congr {config other : Config} {P : Lexeme → Prop} {Q : Fault → Prop}
    (hAgree : ∀ {cs : List Char} {pieces : List Piece} {ending : Option Fault},
      Reads config cs pieces ending → (∀ piece ∈ pieces, P piece.lexeme) →
      (∀ fault ∈ ending, Q fault) → read other cs = read config cs)
    {cs : List Char} {pieces : List Piece} {ending : Option Fault}
    (h : Reads config cs pieces ending) (hPieces : ∀ piece ∈ pieces, P piece.lexeme)
    (hEnding : ∀ fault ∈ ending, Q fault) : Reads other cs pieces ending := by
  have hSame := h.recast (fun hReads hP hQ =>
    (hAgree hReads hP hQ).trans (Fault.mapError_recast_id _).symm) hPieces hEnding
  rwa [Fault.recast_id, Option.map_id] at hSame

theorem placed_append (start : Position) (before : List Char) (pieces more : List Piece) :
    placed start before (pieces ++ more) =
      placed start before pieces ++ placed start (before ++ pieces.flatMap Piece.written) more := by
  induction pieces generalizing before with
  | nil =>
    rw [List.nil_append, List.flatMap_nil, List.append_nil]
    rfl
  | cons piece pieces ih =>
    rw [List.cons_append, placed, placed, ih, List.cons_append, List.flatMap_cons,
      List.append_assoc]

-- ---------------------------------------------------------------------------
-- Items
-- ---------------------------------------------------------------------------

/-- The items of a text are the tokens of its pieces and the error of its fault. -/
theorem items_ofText {config : Config} {source : String} {pieces : List Piece}
    {ending : Option Fault} (h : Reads config (config.body source.toList) pieces ending) :
    let start := config.startPosition source.toList
    (ofText config source).items.1 =
      (placed start [] pieces).map .ok ++ faulty start (pieces.flatMap Piece.written) ending :=
  items_of_reads h (stands_ofText config source) rfl (rest_ofText config source)

/--
Whatever a lexer keeps of the results of its calls, one after another, it has
kept of the items of a stream behind them. Whether the stream has ended must
make no difference to it.
-/
theorem kept_items {α : Type} (kept : Lexer → List α)
    (made : SourceFile → Except LexError Token → List α)
    (hFinish : ∀ (lexer : Lexer) (finished : Bool), kept { lexer with finished } = kept lexer)
    (hNext : ∀ lexer : Lexer,
      kept lexer.nextToken.2 = kept lexer ++ made lexer.file lexer.nextToken.1)
    (lexer : Lexer) :
    kept lexer.items.2 = kept lexer ++ lexer.items.1.flatMap (made lexer.file) := by
  fun_induction items lexer with
  | case1 lexer after hNone =>
    cases hFinished : lexer.finished with
    | true =>
      rw [next?_of_finished hFinished] at hNone
      cases hNone
      simp
    | false =>
      rw [next?_of_running hFinished] at hNone
      cases hNone
  | case2 lexer result after hItem results last hItems ih =>
    cases hFinished : lexer.finished with
    | true =>
      rw [next?_of_finished hFinished] at hItem
      cases hItem
    | false =>
      rw [next?_of_running hFinished] at hItem
      cases hItem
      rw [hItems] at ih
      -- what is made of the first item is kept before the others
      have hFirst := (hFinish lexer.nextToken.2 (endsStream lexer.nextToken.1)).trans (hNext lexer)
      rw [List.flatMap_cons, ← List.append_assoc]
      exact ih.trans (congrArg (· ++ results.flatMap (made lexer.file)) hFirst)

/-- The collector behind the items of a stream holds what is reported about each of them. -/
theorem diagnostics_items (lexer : Lexer) :
    lexer.items.2.collector.diagnostics.toList = lexer.collector.diagnostics.toList ++
      lexer.items.1.flatMap (issuedBy lexer.file) :=
  kept_items (fun lexer => lexer.collector.diagnostics.toList) issuedBy (fun _ _ => rfl)
    (fun lexer => by
      rw [collector_nextToken, Diagnostic.Collector.toList_foldl_emit]) lexer

end Lexer

section Marks

variable {config other : Config}

theorem Config.passedMark_congr (h : other.skipMark = config.skipMark) (cs : List Char) :
    other.passedMark cs = config.passedMark cs := by
  unfold passedMark
  rw [h]

theorem Config.startPosition_congr (h : other.skipMark = config.skipMark) (cs : List Char) :
    other.startPosition cs = config.startPosition cs := by
  unfold startPosition
  rw [passedMark_congr h]

theorem Config.body_congr (h : other.skipMark = config.skipMark) (cs : List Char) :
    other.body cs = config.body cs := by
  unfold body
  rw [passedMark_congr h]

variable {source : String} {pieces : List Lexer.Piece} {ending : Option Fault}

/-- A text that two configurations split alike has the same items. -/
theorem Lexer.items_congr (hMark : other.skipMark = config.skipMark)
    (h : Reads config (config.body source.toList) pieces ending)
    (hOther : Reads other (config.body source.toList) pieces ending) :
    (ofText other source).items.1 = (ofText config source).items.1 := by
  rw [← Config.body_congr hMark] at hOther
  rw [items_ofText h, items_ofText hOther, Config.startPosition_congr hMark]

/-- And the same tokens, or an error in the same place. -/
theorem tokenize_recast {change : LexError.Cause → LexError.Cause}
    (hMark : other.skipMark = config.skipMark)
    (h : Lexer.Reads config (config.body source.toList) pieces ending)
    (hOther : Lexer.Reads other (config.body source.toList) pieces
      (ending.map (Fault.recast change))) :
    tokenize other source = (tokenize config source).mapError (LexError.recast change) := by
  rw [← Config.body_congr hMark] at hOther
  rw [tokenize_of_reads h, tokenize_of_reads hOther, Config.startPosition_congr hMark]
  cases ending with
  | none => rfl
  | some fault => rfl

theorem tokenize_congr (hMark : other.skipMark = config.skipMark)
    (h : Lexer.Reads config (config.body source.toList) pieces ending)
    (hOther : Lexer.Reads other (config.body source.toList) pieces ending) :
    tokenize other source = tokenize config source := by
  have hEnding : ending = ending.map (Fault.recast id) := (congrFun Option.map_id ending).symm
  rw [hEnding] at hOther
  rw [tokenize_recast hMark h hOther, LexError.mapError_recast_id]

end Marks

end HdlLex
