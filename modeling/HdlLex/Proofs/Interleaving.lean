import HdlLex.Proofs.Progress

/-!
# Interleaving — one stream behind every interface

A lexer can be asked for its next token, for the next item of a stream that
ends, or for all that is left. These ways of reading share one cursor, so they
all draw on one sequence of results. Only the calls for an item set and heed
the mark that the stream has ended: what a call for a token meets does not end
the stream, and the end of the stream does not keep such calls from reading on.

* `Lexer.Call`, `Lexer.make` — a call of either kind.
* `Lexer.drive` — a run of calls in any order, with its history.
* `Lexer.ended`, `Lexer.scanned` — whether the stream has ended in a history,
  and how many of its calls have read on.

Main results:

* `Lexer.drive_eq` — where a run of calls leads.
* `Lexer.exists_items` — a stream goes on up to the first result that ends it.
* `Lexer.exists_drive_tokenize` — reading to the end reports what calls report.
* `calls_share_stream` — what every call of a run yields, and what is left to
  read at its end.
-/

namespace HdlLex

namespace Lexer

-- ---------------------------------------------------------------------------
-- Calls
-- ---------------------------------------------------------------------------

/-- The two ways to ask a lexer to read on. -/
inductive Call where
  /-- For the next token, whatever came before. -/
  | token
  /-- For the next item of the stream, which ends after the end token or an error. -/
  | item
  deriving DecidableEq

/-- What a call yields, which is nothing behind the end of the stream, and the lexer after it. -/
def make (lexer : Lexer) : Call → Option (Except LexError Token) × Lexer
  | .token => (some lexer.nextToken.1, lexer.nextToken.2)
  | .item => lexer.next?

/-- A call that was made, and what it yielded. -/
structure Entry where
  call : Call
  answer : Option (Except LexError Token)

/-- Makes calls in any order, given with the latest first: their history, and the lexer after them. -/
def drive (lexer : Lexer) : List Call → List Entry × Lexer
  | [] => ([], lexer)
  | call :: earlier =>
    let (history, reached) := lexer.drive earlier
    let (answer, after) := reached.make call
    (⟨call, answer⟩ :: history, after)

/-- Whether a call for an item has yielded the end token or an error. -/
def ended (history : List Entry) : Bool :=
  history.any fun entry => entry.call == .item && entry.answer.any endsStream

/-- How many calls have read on: all but those for an item behind the end of the stream. -/
def scanned : List Entry → Nat
  | [] => 0
  | entry :: earlier =>
    if entry.call = .item ∧ ended earlier = true then scanned earlier else scanned earlier + 1

-- ---------------------------------------------------------------------------
-- Where calls lead
-- ---------------------------------------------------------------------------

theorem next?_of_finished {lexer : Lexer} (h : lexer.finished = true) :
    lexer.next? = (none, lexer) := by
  unfold next?
  rw [if_pos h]

theorem next?_of_running {lexer : Lexer} (h : lexer.finished = false) :
    lexer.next? = (some lexer.nextToken.1,
      { lexer.nextToken.2 with finished := endsStream lexer.nextToken.1 }) := by
  unfold next?
  rw [if_neg (by simp [h])]

theorem drive_cons (lexer : Lexer) (call : Call) (earlier : List Call) :
    lexer.drive (call :: earlier) =
      (⟨call, ((lexer.drive earlier).2.make call).1⟩ :: (lexer.drive earlier).1,
        ((lexer.drive earlier).2.make call).2) :=
  rfl

theorem ended_cons_item (answer : Option (Except LexError Token)) (history : List Entry) :
    ended (⟨.item, answer⟩ :: history) = (answer.any endsStream || ended history) :=
  rfl

theorem scanned_cons_token (answer : Option (Except LexError Token)) (history : List Entry) :
    scanned (⟨.token, answer⟩ :: history) = scanned history + 1 :=
  rfl

theorem scanned_cons_item (answer : Option (Except LexError Token)) (history : List Entry) :
    scanned (⟨.item, answer⟩ :: history) =
      if ended history = true then scanned history else scanned history + 1 := by
  simp only [scanned, true_and]

/--
Calls lead where as many calls for a token lead as have read on; only the mark
of the end of the stream is set by calls for an item alone.
-/
theorem drive_eq {start : Lexer} (h : start.finished = false) (calls : List Call) :
    (start.drive calls).2 =
      { start.calls (scanned (start.drive calls).1) with
        finished := ended (start.drive calls).1 } := by
  induction calls with
  | nil =>
    show start = { start with finished := false }
    rw [← h]
  | cons call earlier ih =>
    rw [drive_cons]
    generalize start.drive earlier = run at ih ⊢
    obtain ⟨history, reached⟩ := run
    simp only at ih ⊢
    subst ih
    cases call with
    | token => rfl
    | item =>
      cases hEnded : ended history with
      | true =>
        -- the stream has ended, and the lexer stays as it is
        have hNext := @next?_of_finished { start.calls (scanned history) with
          finished := true } rfl
        rw [make, hNext, scanned_cons_item, if_pos hEnded, ended_cons_item, hEnded, Bool.or_true]
      | false =>
        have hNext := @next?_of_running { start.calls (scanned history) with
          finished := false } rfl
        rw [make, hNext, scanned_cons_item, if_neg (by simp [hEnded]), ended_cons_item, hEnded,
          Bool.or_false]
        rfl

section Answers

variable {start : Lexer} (calls : List Call)

/-- A call for a token yields the next result, whether or not the stream has ended. -/
theorem make_token_drive (h : start.finished = false) :
    ((start.drive calls).2.make .token).1 =
      some (start.result (scanned (start.drive calls).1)) := by
  rw [drive_eq h]
  rfl

/-- So does a call for an item, as long as the stream has not ended. -/
theorem make_item_drive (h : start.finished = false)
    (hRunning : ended (start.drive calls).1 = false) :
    ((start.drive calls).2.make .item).1 =
      some (start.result (scanned (start.drive calls).1)) := by
  rw [drive_eq h, make, next?_of_running hRunning]
  rfl

/-- Behind the end of the stream a call for an item yields nothing and changes nothing. -/
theorem make_item_drive_of_ended (h : start.finished = false)
    (hEnded : ended (start.drive calls).1 = true) :
    (start.drive calls).2.make .item = (none, (start.drive calls).2) := by
  have hFinished : (start.drive calls).2.finished = true := by
    rw [drive_eq h]
    exact hEnded
  exact next?_of_finished hFinished

end Answers

-- ---------------------------------------------------------------------------
-- What is left of a stream
-- ---------------------------------------------------------------------------

/-- What the calls of a lexer yield depends on the configuration and the cursor alone. -/
theorem result_congr (lexer other : Lexer) (hConfig : other.config = lexer.config)
    (hCursor : other.cursor = lexer.cursor) (n : Nat) : other.result n = lexer.result n := by
  have hCalls : (other.calls n).cursor = (lexer.calls n).cursor := by
    induction n with
    | zero => exact hCursor
    | succ n ih =>
      have hSame := (config_calls other n).trans (hConfig.trans (config_calls lexer n).symm)
      exact (nextToken_congr hSame ih).2
  have hSame := (config_calls other n).trans (hConfig.trans (config_calls lexer n).symm)
  exact (nextToken_congr hSame hCalls).1

theorem result_add (lexer : Lexer) (m n : Nat) :
    lexer.result (m + n) = (lexer.calls m).result n := by
  unfold result
  rw [calls_add]

theorem result_succ (lexer : Lexer) (n : Nat) :
    lexer.result (n + 1) = lexer.nextToken.2.result n := by
  rw [Nat.add_comm n 1]
  exact lexer.result_add 1 n

theorem length_rest_nextToken_lt {lexer : Lexer} (h : endsStream lexer.nextToken.1 = false) :
    lexer.nextToken.2.cursor.rest.length < lexer.cursor.rest.length := by
  cases hResult : lexer.nextToken.1 with
  | error error =>
    rw [hResult] at h
    cases h
  | ok token =>
    rw [hResult] at h
    exact length_rest_step_lt hResult h

/-- The result with number `k` is the first one that ends a stream. -/
structure EndsAt (results : Nat → Except LexError Token) (k : Nat) : Prop where
  goesOn : ∀ j, j < k → endsStream (results j) = false
  ends : endsStream (results k) = true

/--
A stream goes on up to the first result that ends it. The induction is on the
characters ahead, of which every token but the end leaves fewer.
-/
theorem exists_items {lexer : Lexer} (h : lexer.finished = false) :
    ∃ k, EndsAt lexer.result k ∧ lexer.items.1 = (List.range (k + 1)).map lexer.result := by
  induction hLength : lexer.cursor.rest.length using Nat.strong_induction_on
    generalizing lexer with
  | _ length ih =>
    have hNext : lexer.nextToken = (lexer.nextToken.1, lexer.nextToken.2) := rfl
    have hItems := items_of_running h hNext
    cases hEnds : endsStream lexer.nextToken.1 with
    | true =>
      refine ⟨0, ⟨fun j hLess => absurd hLess (Nat.not_lt_zero j), hEnds⟩, ?_⟩
      rw [hItems, items_of_finished hEnds]
      rfl
    | false =>
      rw [hEnds] at hItems
      have hLess := length_rest_nextToken_lt hEnds
      rw [hLength] at hLess
      obtain ⟨k, hEndsAt, hLater⟩ :=
        @ih _ hLess { lexer.nextToken.2 with finished := false } rfl rfl
      -- what comes later is what the later calls of the lexer itself yield
      have hShift : result { lexer.nextToken.2 with finished := false } =
          lexer.result ∘ Nat.succ := by
        funext n
        rw [Function.comp, result_succ]
        exact result_congr lexer.nextToken.2 { lexer.nextToken.2 with finished := false } rfl rfl n
      rw [hShift] at hEndsAt hLater
      refine ⟨k + 1, ⟨?_, hEndsAt.ends⟩, ?_⟩
      · intro j hLess
        cases j with
        | zero => exact hEnds
        | succ j => exact hEndsAt.goesOn j (by omega)
      · have hRange : (List.range (k + 1 + 1)).map lexer.result =
            lexer.result 0 :: (List.range (k + 1)).map (lexer.result ∘ Nat.succ) := by
          rw [List.range_succ_eq_map, List.map_cons, List.map_map]
        rw [hItems, hLater, hRange]
        rfl

theorem EndsAt.unique {results : Nat → Except LexError Token} {k l : Nat}
    (h : EndsAt results k) (h' : EndsAt results l) : k = l := by
  by_contra hNe
  rcases Nat.lt_or_gt_of_ne hNe with hLess | hLess
  · have hGoesOn := h'.goesOn k hLess
    rw [h.ends] at hGoesOn
    cases hGoesOn
  · have hGoesOn := h.goesOn l hLess
    rw [h'.ends] at hGoesOn
    cases hGoesOn

/-- The events recorded so far make no difference to the items that are left. -/
theorem items_log (lexer : Lexer) (event : Event) :
    (lexer.log event).items.1 = lexer.items.1 := by
  cases hFinished : lexer.finished with
  | true =>
    have hLog : (lexer.log event).finished = true := hFinished
    rw [items_of_finished hFinished, items_of_finished hLog]
  | false =>
    have hLog : (lexer.log event).finished = false := hFinished
    obtain ⟨k, hEndsAt, hItems⟩ := exists_items hFinished
    obtain ⟨l, hEndsAt', hItems'⟩ := exists_items hLog
    have hSame : (lexer.log event).result = lexer.result := by
      funext n
      exact result_congr lexer (lexer.log event) rfl rfl n
    rw [hSame] at hEndsAt' hItems'
    rw [hItems, hItems', hEndsAt.unique hEndsAt']

/-- Reading to the end gathers the items that are left. -/
theorem tokenize_eq (lexer : Lexer) : lexer.tokenize.1 = lexer.items.1.mapM id := by
  rw [← lexer.items_log (.started (Text.byteLength lexer.cursor.source))]
  unfold tokenize
  simp only
  split
  · next hTokens => exact hTokens.symm
  · next hError => exact hError.symm

theorem exists_tokens {results : List (Except LexError Token)}
    (h : ∀ result ∈ results, endsStream result = false) :
    ∃ tokens : List Token, results = tokens.map .ok := by
  induction results with
  | nil => exact ⟨[], rfl⟩
  | cons result results ih =>
    obtain ⟨tokens, rfl⟩ := ih fun later hMem => h later (List.mem_cons_of_mem _ hMem)
    have hFirst := h result List.mem_cons_self
    cases result with
    | error error => cases hFirst
    | ok token => exact ⟨token :: tokens, rfl⟩

theorem drive_append (lexer : Lexer) (later earlier : List Call) :
    (lexer.drive (later ++ earlier)).2 = ((lexer.drive earlier).2.drive later).2 := by
  induction later with
  | nil => rfl
  | cons call later ih =>
    rw [List.cons_append, drive_cons, drive_cons, ih]

/-- Going through the items that are left is calling for an item until nothing is yielded. -/
theorem exists_drive_items (lexer : Lexer) :
    ∃ n, (lexer.drive (List.replicate n .item)).2 = lexer.items.2 := by
  fun_induction items lexer with
  | case1 lexer after hNone =>
    refine ⟨1, ?_⟩
    show lexer.next?.2 = after
    rw [hNone]
  | case2 lexer result after hItem results last hItems ih =>
    obtain ⟨n, hDrive⟩ := ih
    refine ⟨n + 1, ?_⟩
    have hFirst : (lexer.drive [.item]).2 = after := by
      show lexer.next?.2 = after
      rw [hItem]
    rw [List.replicate_succ', drive_append, hFirst, hDrive, hItems]

/-- The events recorded so far make no difference to a run but for the events after it. -/
theorem exists_drive_events (lexer : Lexer) (events : Array Event) (calls : List Call) :
    ∃ events', drive { lexer with events } calls =
      ((lexer.drive calls).1, { (lexer.drive calls).2 with events := events' }) := by
  induction calls with
  | nil => exact ⟨events, rfl⟩
  | cons call earlier ih =>
    obtain ⟨events', hEarlier⟩ := ih
    rw [drive_cons, drive_cons, hEarlier]
    generalize (lexer.drive earlier).2 = reached
    cases call with
    | token => exact ⟨_, rfl⟩
    | item =>
      cases hFinished : reached.finished with
      | true =>
        rw [make, make, next?_of_finished hFinished,
          @next?_of_finished { reached with events := events' } hFinished]
        exact ⟨events', rfl⟩
      | false =>
        rw [make, make, next?_of_running hFinished,
          @next?_of_running { reached with events := events' } hFinished]
        exact ⟨_, rfl⟩

/-- Reading to the end reports what calls for items report. -/
theorem exists_drive_tokenize (lexer : Lexer) :
    ∃ n, (lexer.drive (List.replicate n .item)).2.collector = lexer.tokenize.2.collector := by
  obtain ⟨event, hLast⟩ : ∃ event,
      lexer.tokenize.2.collector = (lexer.log event).items.2.collector := by
    refine ⟨.started (Text.byteLength lexer.cursor.source), ?_⟩
    unfold tokenize
    simp only
    split
    · rfl
    · rfl
  obtain ⟨n, hDrive⟩ := (lexer.log event).exists_drive_items
  obtain ⟨events, hEvents⟩ :=
    lexer.exists_drive_events (lexer.events.push event) (List.replicate n .item)
  refine ⟨n, ?_⟩
  rw [hLast, ← hDrive]
  exact congrArg (fun run => run.2.collector) hEvents.symm

/-- What is left of a stream: its tokens up to the end, or the error that comes first. -/
structure Gathers (results : Nat → Except LexError Token) (k : Nat)
    (gathered : Except LexError (List Token)) : Prop where
  endsAt : EndsAt results k
  ok : ∀ last, results k = .ok last →
    ∃ tokens, gathered = .ok tokens ∧ tokens.map .ok = (List.range (k + 1)).map results
  error : ∀ error, results k = .error error → gathered = .error error

theorem gathers_mapM {results : Nat → Except LexError Token} {k : Nat} (h : EndsAt results k) :
    Gathers results k (((List.range (k + 1)).map results).mapM id) := by
  obtain ⟨tokens, hTokens⟩ : ∃ tokens : List Token, (List.range k).map results = tokens.map .ok := by
    apply exists_tokens
    intro result hMem
    obtain ⟨j, hLess, rfl⟩ := List.mem_map.1 hMem
    exact h.goesOn j (List.mem_range.1 hLess)
  have hAll : (List.range (k + 1)).map results = tokens.map .ok ++ [results k] := by
    rw [List.range_succ, List.map_append, hTokens, List.map_singleton]
  refine ⟨h, ?_, ?_⟩
  · intro last hLast
    rw [hAll, hLast]
    refine ⟨tokens ++ [last], ?_, by simp⟩
    have hMap : tokens.map .ok ++ [.ok last] =
        ((tokens ++ [last]).map .ok : List (Except LexError Token)) := by simp
    rw [hMap, mapM_id_map_ok]
  · intro error hError
    rw [hAll, hError, List.mapM_append, mapM_id_map_ok]
    rfl

/-- A running lexer gathers what its calls yield up to the first result that ends the stream. -/
theorem exists_gathers {lexer : Lexer} (h : lexer.finished = false) :
    ∃ k, Gathers lexer.result k lexer.tokenize.1 := by
  obtain ⟨k, hEndsAt, hItems⟩ := exists_items h
  rw [tokenize_eq, hItems]
  exact ⟨k, gathers_mapM hEndsAt⟩

end Lexer

/--
All calls of a run, whatever their order, draw on the results of one sequence
of calls for a token. A call for a token yields the next result, and so does a
call for an item until such a call has yielded the end token or an error.
Behind that, calls for an item yield nothing and change nothing, and nothing is
left to read. Before that, what is left to read are the further results up to
the first end token or error.
-/
theorem calls_share_stream (config : Config) (source : String) (calls : List Lexer.Call) :
    let start := Lexer.ofText config source
    let history := (start.drive calls).1
    let lexer := (start.drive calls).2
    let n := Lexer.scanned history
    (lexer.make .token).1 = some (start.result n) ∧
    (Lexer.ended history = false →
      (lexer.make .item).1 = some (start.result n) ∧
      ∃ k, Lexer.Gathers (fun j => start.result (n + j)) k lexer.tokenize.1) ∧
    (Lexer.ended history = true →
      lexer.make .item = (none, lexer) ∧ lexer.tokenize.1 = .ok []) ∧
    tokenize config source = start.tokenize.1 ∧ start.tokenize.1 = start.items.1.mapM id := by
  intro start history lexer n
  have hStart : start.finished = false := rfl
  have hLexer : lexer = { start.calls n with finished := Lexer.ended history } :=
    Lexer.drive_eq hStart calls
  refine ⟨Lexer.make_token_drive calls hStart, ?_, ?_, rfl, ?_⟩
  · intro hRunning
    refine ⟨Lexer.make_item_drive calls hStart hRunning, ?_⟩
    have hFinished : lexer.finished = false := by
      rw [hLexer]
      exact hRunning
    obtain ⟨k, hGathers⟩ := Lexer.exists_gathers hFinished
    have hConfig : lexer.config = (start.calls n).config := by
      rw [hLexer]
    have hCursor : lexer.cursor = (start.calls n).cursor := by
      rw [hLexer]
    have hSame : lexer.result = fun j => start.result (n + j) := by
      funext j
      rw [Lexer.result_add]
      exact Lexer.result_congr (start.calls n) lexer hConfig hCursor j
    rw [hSame] at hGathers
    exact ⟨k, hGathers⟩
  · intro hEnded
    refine ⟨Lexer.make_item_drive_of_ended calls hStart hEnded, ?_⟩
    have hFinished : lexer.finished = true := by
      rw [hLexer]
      exact hEnded
    rw [Lexer.tokenize_eq, Lexer.items_of_finished hFinished]
    rfl
  · exact start.tokenize_eq

/-- An error that a call for a token meets does not end the stream of items; the end token does. -/
example :
    ((Lexer.ofText {} "0x a").drive [.item, .token, .item, .item, .token]).1.map
        Lexer.Entry.answer =
      [none, some (.ok ⟨.eof, "", ⟨4, 4, 1, 5⟩⟩), some (.ok ⟨.eof, "", ⟨4, 4, 1, 5⟩⟩),
        some (.ok ⟨.identifier, "a", ⟨3, 4, 1, 4⟩⟩), some (.error ⟨.noDigits "0x", 1, 1⟩)] := by
  decide +kernel

end HdlLex
