import HdlLex.Proofs.Agreement

/-!
# EventLog — what a run leaves in the log

A lexer records an event when it is made and passes over a mark, when reading
to the end begins and when it succeeds, and one or two for every item between.
So the log of a run is read off its items, and its warnings and its tokens are
as many as those of the run.

* `Event.Record` — an event as the log shows it.
* `Lexer.IsLogged` — the records of an item.
* `Lexer.markRecords`, `Lexer.endRecords` — what stands before and behind them.

Main results:

* `Lexer.events_items` — the events of the items of a stream.
* `Lexer.tokenize_snd` — the lexer behind a text that was read to its end.
* `log_mirrors_run` — the whole log, and what it counts.
-/

namespace HdlLex

-- ---------------------------------------------------------------------------
-- Records
-- ---------------------------------------------------------------------------

/-- An event as the log shows it. -/
structure Event.Record where
  severity : Severity
  message : String
  fields : List (String × Event.Field)
  deriving DecidableEq, Repr

/-- The record of an event. -/
def Event.record (event : Event) : Event.Record :=
  ⟨event.severity, event.message, event.fields⟩

/-- The record of a token: its kind, its text and its place. -/
def Event.Record.ofToken (token : Token) : Event.Record :=
  ⟨.trace, "token", [("kind", .text token.kind.name), ("text", .text token.text),
    ("line", .number token.span.line.toNat), ("column", .number token.span.column.toNat)]⟩

/-- Whether a record is that of a token. -/
def Event.Record.isToken (record : Event.Record) : Bool :=
  record.severity == .trace && record.message == "token"

namespace Lexer

/-- The records of an item of a stream. -/
inductive IsLogged : Except LexError Token → List Event.Record → Prop
  /-- A token of the language is recorded as such. -/
  | token {token : Token} (hKind : token.kind ≠ .unknown) :
      IsLogged (.ok token) [.ofToken token]
  /-- A warning stands directly before the token of a character that is passed through. -/
  | unknown {token : Token} {c : Char} (hKind : token.kind = .unknown)
      (hText : token.text = String.ofList [c]) :
      IsLogged (.ok token)
        [⟨.warn, "passing unknown character through", [("character", .text (Text.quoteChar c)),
          ("line", .number token.span.line.toNat), ("column", .number token.span.column.toNat)]⟩,
        .ofToken token]
  /-- An error is recorded with its code and its message. -/
  | failure {error : LexError} :
      IsLogged (.error error) [⟨.debug, error.message, [("code", .text error.code.text)]⟩]

/-- The record of a mark, if the configuration skips one at the beginning of the text. -/
def markRecords (config : Config) (cs : List Char) : List Event.Record :=
  if config.skipMark = true ∧ cs.head? = some byteOrderMark then
    [⟨.trace, "skipped byte-order mark", []⟩]
  else []

/-- The record of the end, if it is reached: how many tokens there are. -/
def endRecords : Except LexError (List Token) → List Event.Record
  | .ok tokens => [⟨.debug, "lexing finished", [("tokens", .number tokens.length)]⟩]
  | .error _ => []

-- ---------------------------------------------------------------------------
-- Items
-- ---------------------------------------------------------------------------

/-- The text of an unknown character is that character. -/
theorem exists_text_of_unknown {lexer : Lexer} {token : Token}
    (hToken : lexer.nextToken.1 = .ok token) (hKind : token.kind = .unknown) :
    ∃ c, token.text = String.ofList [c] := by
  rcases read_cases lexer.config lexer.cursor.rest with
    ⟨gap, lexeme, ahead, hRead, hRest⟩ | ⟨fault, ahead, hRead, hRest⟩
  · obtain rfl := Except.ok.inj
      (hToken.symm.trans (congrArg Step.result (step_of_read_ok hRead hRest)))
    obtain ⟨c, rfl, -⟩ := read_unknown hRead hKind
    exact ⟨c, rfl⟩
  · have hError : lexer.nextToken.1 = .error _ :=
      congrArg Step.result (step_of_read_error hRead hRest)
    cases hToken.symm.trans hError

/-- What a call adds to the log are the records of its result. -/
theorem isLogged_nextToken (lexer : Lexer) :
    IsLogged lexer.nextToken.1 ((loggedBy lexer.nextToken.1).map Event.record) := by
  cases hResult : lexer.nextToken.1 with
  | error error => exact .failure
  | ok token =>
    by_cases hKind : token.kind = .unknown
    · obtain ⟨c, hText⟩ := exists_text_of_unknown hResult hKind
      rw [loggedBy_unknown hKind hText]
      exact .unknown hKind hText
    · rw [loggedBy_of_kind_ne hKind]
      exact .token hKind

/-- What a call hands to the collector holds a warning about an unknown character, and no other. -/
theorem countP_issuedBy_nextToken (lexer : Lexer) (file : SourceFile) :
    (issuedBy file lexer.nextToken.1).countP (·.level == .warning) =
      if isUnknown lexer.nextToken.1 then 1 else 0 := by
  cases hResult : lexer.nextToken.1 with
  | error error =>
    rw [issuedBy, diagnosticsOf, List.countP_singleton, LexError.level_toDiagnostic]
    rfl
  | ok token =>
    by_cases hKind : token.kind = .unknown
    · obtain ⟨c, hText⟩ := exists_text_of_unknown hResult hKind
      have hLevel : (unknownWarning file c token).level = .warning :=
        Diagnostic.level_withSnippetFrom file _
      rw [issuedBy_unknown _ hKind hText, List.countP_singleton, hLevel]
      simp [isUnknown, hKind]
    · rw [issuedBy_of_kind_ne _ hKind]
      simp [isUnknown, hKind]

/-- Every item of a stream is what some call yields. -/
theorem exists_nextToken_of_mem_items {lexer : Lexer} (h : lexer.finished = false)
    {result : Except LexError Token} (hMem : result ∈ lexer.items.1) :
    ∃ reached : Lexer, reached.nextToken.1 = result := by
  obtain ⟨k, -, hItems⟩ := exists_items h
  rw [hItems] at hMem
  obtain ⟨n, -, rfl⟩ := List.mem_map.1 hMem
  exact ⟨lexer.calls n, rfl⟩

theorem IsLogged.countP_warn {result : Except LexError Token} {records : List Event.Record}
    (h : IsLogged result records) :
    records.countP (·.severity == .warn) = if isUnknown result then 1 else 0 := by
  cases h with
  | token hKind => simp [isUnknown, hKind, Event.Record.ofToken]
  | unknown hKind => simp [isUnknown, hKind, Event.Record.ofToken]
  | failure => rfl

theorem IsLogged.countP_isToken {result : Except LexError Token} {records : List Event.Record}
    (h : IsLogged result records) :
    records.countP Event.Record.isToken = if !isFailure result then 1 else 0 := by
  cases h <;> rfl

-- ---------------------------------------------------------------------------
-- Runs
-- ---------------------------------------------------------------------------

/-- The events of the items of a stream follow one another in their order. -/
theorem events_items (lexer : Lexer) :
    lexer.items.2.events.toList = lexer.events.toList ++ lexer.items.1.flatMap loggedBy :=
  kept_items (fun lexer => lexer.events.toList) (fun _ => loggedBy) (fun _ _ => rfl)
    (fun lexer => by rw [events_nextToken, Array.toList_appendList]) lexer

/-- Reading to the end goes through the items that are left, and records whether it succeeds. -/
theorem tokenize_snd (lexer : Lexer) :
    let last := (lexer.log (.started (Text.byteLength lexer.cursor.source))).items.2
    lexer.tokenize.2 =
      match lexer.tokenize.1 with
      | .ok tokens => last.log (.finished tokens.length)
      | .error _ => last := by
  intro last
  unfold tokenize
  simp only
  split
  · rfl
  · rfl

/-- The log behind a text that was read to its end. -/
theorem log_tokenize (lexer : Lexer) :
    lexer.tokenize.2.events.toList.map Event.record =
      lexer.events.toList.map Event.record ++
        ⟨.debug, "lexing started", [("bytes", .number (Text.byteLength lexer.cursor.source))]⟩ ::
          ((lexer.items.1.map fun result => (loggedBy result).map Event.record).flatten ++
            endRecords lexer.tokenize.1) := by
  have hItems := (lexer.log (.started (Text.byteLength lexer.cursor.source))).events_items
  rw [items_log] at hItems
  rw [tokenize_snd]
  generalize (lexer.log (.started (Text.byteLength lexer.cursor.source))).items.2 = last at hItems ⊢
  have hRecords := congrArg (List.map Event.record) hItems
  have hStart : (lexer.log (.started (Text.byteLength lexer.cursor.source))).events.toList =
      lexer.events.toList ++ [.started (Text.byteLength lexer.cursor.source)] :=
    Array.toList_push
  rw [hStart, List.map_append, List.map_append, List.map_flatMap, List.append_assoc,
    List.flatMap_def] at hRecords
  cases lexer.tokenize.1 with
  | error error =>
    rw [endRecords, List.append_nil]
    exact hRecords
  | ok tokens =>
    have hEnd : (last.log (.finished tokens.length)).events.toList =
        last.events.toList ++ [.finished tokens.length] :=
      Array.toList_push
    show List.map Event.record (last.log (.finished tokens.length)).events.toList = _
    rw [hEnd, List.map_append, hRecords, List.append_assoc]
    rfl

/-- The collector behind a text that was read to its end. -/
theorem diagnostics_tokenize (lexer : Lexer) :
    lexer.tokenize.2.collector.diagnostics.toList = lexer.collector.diagnostics.toList ++
      lexer.items.1.flatMap (issuedBy lexer.file) := by
  have hItems := (lexer.log (.started (Text.byteLength lexer.cursor.source))).diagnostics_items
  rw [items_log] at hItems
  rw [tokenize_snd]
  cases lexer.tokenize.1 with
  | error error => exact hItems
  | ok tokens => exact hItems

theorem utf8ByteSize_ofList (cs : List Char) :
    (String.ofList cs).utf8ByteSize = Text.byteLength cs := by
  induction cs with
  | nil => rfl
  | cons c cs ih =>
    rw [← List.singleton_append, String.ofList_append, String.utf8ByteSize_append, ih,
      ← String.singleton_eq_ofList, String.utf8ByteSize_singleton]
    rfl

/-- What stands around the records of the items makes no difference to what is not counted in it. -/
theorem countP_framed {counted : Event.Record → Bool} (config : Config) (cs : List Char)
    {start : Event.Record} (records : List Event.Record)
    (gathered : Except LexError (List Token))
    (hMark : counted ⟨.trace, "skipped byte-order mark", []⟩ = false)
    (hStart : counted start = false)
    (hEnd : ∀ n, counted ⟨.debug, "lexing finished", [("tokens", .number n)]⟩ = false) :
    (markRecords config cs ++ start :: (records ++ endRecords gathered)).countP counted =
      records.countP counted := by
  have hMarks : (markRecords config cs).countP counted = 0 := by
    unfold markRecords
    split
    · simp [hMark]
    · rfl
  have hEnds : (endRecords gathered).countP counted = 0 := by
    cases gathered with
    | error error => rfl
    | ok tokens => simp [endRecords, hEnd]
  rw [List.countP_append, hMarks, List.countP_cons_of_neg (by simp [hStart]), List.countP_append,
    hEnds, Nat.zero_add, Nat.add_zero]

/-- A lexer that was just made has recorded the mark that it passed over. -/
theorem log_ofText (config : Config) (source : String) :
    (ofText config source).events.toList.map Event.record =
      markRecords config source.toList := by
  unfold ofText markRecords
  cases hSkip : config.skipMark with
  | false => simp
  | true =>
    by_cases hHead : source.toList.head? = some byteOrderMark
    · have hMark : (Cursor.start source.toList).skipMark.1 = true := by
        simp [Cursor.skipMark, Cursor.start, Position.origin, hHead]
      simp [hMark, hHead]
      rfl
    · have hMark : (Cursor.start source.toList).skipMark.1 = false := by
        simp [Cursor.skipMark, Cursor.start, Position.origin, hHead]
      simp [hMark, hHead]

end Lexer

/--
The log of a text that is read to its end holds the mark, if one is skipped,
then the beginning with the length of the text, then the records of the items
of the stream in their order, and the number of tokens if they come to the end.
So it warns as often as the collector, and shows as many tokens as the stream
yields.
-/
theorem log_mirrors_run (config : Config) (source : String) :
    let start := Lexer.ofText config source
    let items := start.items.1
    let log := start.tokenize.2.events.toList.map Event.record
    (∃ records : List (List Event.Record), List.Forall₂ Lexer.IsLogged items records ∧
      log = Lexer.markRecords config source.toList ++
        ⟨.debug, "lexing started", [("bytes", .number source.utf8ByteSize)]⟩ ::
          (records.flatten ++ Lexer.endRecords start.tokenize.1)) ∧
    log.countP (·.severity == .warn) = start.tokenize.2.collector.warningCount ∧
    log.countP Event.Record.isToken = items.countP fun result => !isFailure result := by
  intro start items log
  have hLogged : List.Forall₂ Lexer.IsLogged items
      (items.map fun result => (Lexer.loggedBy result).map Event.record) := by
    rw [List.forall₂_map_right_iff, List.forall₂_same]
    intro result hMem
    obtain ⟨reached, rfl⟩ := Lexer.exists_nextToken_of_mem_items rfl hMem
    exact reached.isLogged_nextToken
  have hLog : log = Lexer.markRecords config source.toList ++
      ⟨.debug, "lexing started", [("bytes", .number source.utf8ByteSize)]⟩ ::
        ((items.map fun result => (Lexer.loggedBy result).map Event.record).flatten ++
          Lexer.endRecords start.tokenize.1) := by
    have hBytes : Text.byteLength start.cursor.source = source.utf8ByteSize := by
      rw [(Lexer.stands_ofText config source).text_eq, ← Lexer.utf8ByteSize_ofList,
        String.ofList_toList]
    rw [← hBytes, ← Lexer.log_ofText]
    exact start.log_tokenize
  refine ⟨⟨_, hLogged, hLog⟩, ?_, ?_⟩
  · have hReports : List.Forall₂ (fun result reports =>
        reports.countP (·.level == .warning) = if isUnknown result then 1 else 0) items
          (items.map (Lexer.issuedBy start.file)) := by
      rw [List.forall₂_map_right_iff, List.forall₂_same]
      intro result hMem
      obtain ⟨reached, rfl⟩ := Lexer.exists_nextToken_of_mem_items rfl hMem
      exact reached.countP_issuedBy_nextToken start.file
    have hCollector : start.tokenize.2.collector.diagnostics.toList =
        (items.map (Lexer.issuedBy start.file)).flatten := by
      rw [Lexer.diagnostics_tokenize, List.flatMap_def]
      rfl
    rw [hLog, Lexer.countP_framed _ _ _ _ rfl rfl fun _ => rfl,
      Lexer.countP_flatten hLogged fun _ _ h => h.countP_warn,
      Diagnostic.Collector.warningCount, Diagnostic.Collector.count, ← Array.countP_toList,
      hCollector, Lexer.countP_flatten hReports fun _ _ h => h]
  · rw [hLog, Lexer.countP_framed _ _ _ _ rfl rfl fun _ => rfl,
      Lexer.countP_flatten hLogged fun _ _ h => h.countP_isToken]

/-- A mark, an unknown character with its warning, and a fault that ends the log. -/
example :
    (Lexer.ofText {} "\ufeffé 'b").tokenize.2.events.toList.map Event.record =
      [⟨.trace, "skipped byte-order mark", []⟩,
        ⟨.debug, "lexing started", [("bytes", .number 8)]⟩,
        ⟨.warn, "passing unknown character through",
          [("character", .text "'é'"), ("line", .number 1), ("column", .number 1)]⟩,
        ⟨.trace, "token",
          [("kind", .text "UNKNOWN"), ("text", .text "é"), ("line", .number 1),
            ("column", .number 1)]⟩,
        ⟨.debug, "unterminated character literal at line 1, column 3",
          [("code", .text "E0102")]⟩] := by
  decide +kernel

end HdlLex
