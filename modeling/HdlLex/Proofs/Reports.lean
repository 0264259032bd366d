import HdlLex.Proofs.Interleaving
import HdlLex.Proofs.Pointing

/-!
# Reports — what is collected in a run

Every call that reads on hands the reports about its result to the collector:
a warning about a character that is passed through as a token, an error about
a fault, and nothing about any other token. A snippet belongs to each of them,
since what is reported always points at a character on a line of the source.
So the collector holds what the answers of a run call for, in their order, no
matter how the calls for tokens and for items are mixed.

* `Lexer.answers` — what the calls of a history yielded, oldest first.
* `Lexer.IsReport` — the reports that a result calls for.

Main results:

* `Lexer.diagnostics_calls` — the collector after a number of calls.
* `Lexer.Stands.isReport` — what one call hands to the collector.
* `reports_agree` — the collector after any run of calls, and its counts.
-/

namespace HdlLex

-- ---------------------------------------------------------------------------
-- The collector
-- ---------------------------------------------------------------------------

theorem Diagnostic.Collector.toList_foldl_emit (collector : Collector) (reports : List Diagnostic) :
    (reports.foldl emit collector).diagnostics.toList =
      collector.diagnostics.toList ++ reports := by
  induction reports generalizing collector with
  | nil => simp
  | cons report reports ih =>
    rw [List.foldl_cons, ih, toList_emit, List.append_assoc]
    rfl

theorem Diagnostic.Collector.hasErrors_iff (collector : Collector) :
    collector.hasErrors = true ↔ 0 < collector.errorCount := by
  have hLevel : ∀ level : Level, level.isError = (level == .error) := by
    intro level
    cases level with
    | error => rfl
    | warning => rfl
  rw [hasErrors, errorCount, count, Array.countP_pos_iff, Array.any_eq_true']
  simp only [hLevel]

/-- A snippet makes no difference to how severe a report is. -/
theorem Diagnostic.level_withSnippetFrom (file : SourceFile) (diagnostic : Diagnostic) :
    (diagnostic.withSnippetFrom file).level = diagnostic.level := by
  unfold withSnippetFrom
  split
  · rfl
  · rfl

theorem LexError.level_toDiagnostic (error : LexError) (file : SourceFile) :
    (error.toDiagnostic file).level = .error :=
  Diagnostic.level_withSnippetFrom file _

/-- Whether a call met a fault. -/
def isFailure : Except LexError Token → Bool
  | .error _ => true
  | .ok _ => false

/-- Whether a call passed a character through as a token. -/
def isUnknown : Except LexError Token → Bool
  | .error _ => false
  | .ok token => token.kind == .unknown

namespace Lexer

/-- What the calls of a history yielded, oldest first; a call may have yielded nothing. -/
def answers (history : List Entry) : List (Except LexError Token) :=
  history.reverse.filterMap Entry.answer

theorem answers_cons (entry : Entry) (history : List Entry) :
    answers (entry :: history) = answers history ++ entry.answer.toList := by
  have hLast : [entry].filterMap Entry.answer = entry.answer.toList := by
    rw [List.filterMap_cons, List.filterMap_nil]
    cases entry.answer with
    | none => rfl
    | some _ => rfl
  rw [answers, List.reverse_cons, List.filterMap_append, hLast]
  rfl

/-- The answers of a run are the first results of the lexer, as many as calls have read on. -/
theorem answers_drive {start : Lexer} (h : start.finished = false) (calls : List Call) :
    answers (start.drive calls).1 =
      (List.range (scanned (start.drive calls).1)).map start.result := by
  induction calls with
  | nil => rfl
  | cons call earlier ih =>
    have hNext : (List.range (scanned (start.drive earlier).1 + 1)).map start.result =
        answers (start.drive earlier).1 ++ [start.result (scanned (start.drive earlier).1)] := by
      rw [List.range_succ, List.map_append, ih, List.map_singleton]
    rw [drive_cons, answers_cons]
    cases call with
    | token =>
      rw [make_token_drive earlier h, scanned_cons_token, hNext]
      rfl
    | item =>
      rw [scanned_cons_item]
      by_cases hEnded : ended (start.drive earlier).1 = true
      · rw [make_item_drive_of_ended earlier h hEnded, if_pos hEnded, ← ih]
        exact List.append_nil _
      · rw [make_item_drive earlier h (Bool.eq_false_iff.2 hEnded), if_neg hEnded, hNext]
        rfl

theorem file_calls (lexer : Lexer) (n : Nat) : (lexer.calls n).file = lexer.file := by
  induction n with
  | zero => rfl
  | succ n ih => exact ih

/-- The collector holds the reports about all results, in the order of the calls. -/
theorem diagnostics_calls (lexer : Lexer) (n : Nat) :
    (lexer.calls n).collector.diagnostics.toList = lexer.collector.diagnostics.toList ++
      ((List.range n).map fun i => issuedBy lexer.file (lexer.result i)).flatten := by
  induction n with
  | zero => simp [calls]
  | succ n ih =>
    have hEmit : (lexer.calls (n + 1)).collector =
        (issuedBy (lexer.calls n).file (lexer.result n)).foldl Diagnostic.Collector.emit
          (lexer.calls n).collector := collector_nextToken _
    rw [hEmit, Diagnostic.Collector.toList_foldl_emit, ih, file_calls, List.range_succ,
      List.map_append, List.flatten_append, List.append_assoc]
    simp

/-- So it does after any run of calls. -/
theorem diagnostics_drive {start : Lexer} (h : start.finished = false) (calls : List Call) :
    (start.drive calls).2.collector.diagnostics.toList = start.collector.diagnostics.toList ++
      ((List.range (scanned (start.drive calls).1)).map fun i =>
        issuedBy start.file (start.result i)).flatten := by
  rw [drive_eq h]
  exact start.diagnostics_calls _

-- ---------------------------------------------------------------------------
-- The reports about a result
-- ---------------------------------------------------------------------------

/-- The reports that a result calls for, with their snippets of the source file. -/
inductive IsReport (file : SourceFile) : Except LexError Token → List Diagnostic → Prop
  /-- Nothing is reported about a token of the language. -/
  | quiet {token : Token} (hKind : token.kind ≠ .unknown) : IsReport file (.ok token) []
  /-- The warning about a character that is passed through names the span of its token. -/
  | unknown {token : Token} {c : Char} {snippet : Diagnostic.Snippet}
      (hKind : token.kind = .unknown) (hText : token.text = String.ofList [c])
      (hSnippet : snippet.IsAt file token.span) :
      IsReport file (.ok token)
        [⟨.warning, "unknown character " ++ Text.quoteChar c, token.span, some ⟨"W", 101⟩, [],
          [snippet]⟩]
  /-- The report of an error names its place, which has no extent. -/
  | failure {error : LexError} {snippet : Diagnostic.Snippet}
      (hSnippet : snippet.IsAt file (Span.point error.line error.column)) :
      IsReport file (.error error)
        [⟨.error, error.message, Span.point error.line error.column, some error.code,
          [error.help], [snippet]⟩]

theorem IsReport.countP_error {file : SourceFile} {result : Except LexError Token}
    {reports : List Diagnostic} (h : IsReport file result reports) :
    reports.countP (·.level == .error) = if isFailure result then 1 else 0 := by
  cases h <;> rfl

theorem IsReport.countP_warning {file : SourceFile} {result : Except LexError Token}
    {reports : List Diagnostic} (h : IsReport file result reports) :
    reports.countP (·.level == .warning) = if isUnknown result then 1 else 0 := by
  cases h with
  | quiet hKind => simp [isUnknown, hKind]
  | unknown hKind => simp [isUnknown, hKind]
  | failure => rfl

/-- What is counted once for some results is counted as often as these occur in what goes with all. -/
theorem countP_flatten {α : Type} {R : Except LexError Token → List α → Prop}
    {results : List (Except LexError Token)} {parts : List (List α)} {counted : α → Bool}
    {test : Except LexError Token → Bool} (h : List.Forall₂ R results parts)
    (hCount : ∀ result part, R result part →
      part.countP counted = if test result then 1 else 0) :
    parts.flatten.countP counted = results.countP test := by
  induction h with
  | nil => rfl
  | cons hFirst _ ih =>
    rw [List.flatten_cons, List.countP_append, hCount _ _ hFirst, ih, List.countP_cons]
    omega

section Stands

variable {config : Config} {source : String} {passed : List Char} {lexer : Lexer}

/-- What a call hands to the collector is what its result calls for. -/
theorem Stands.isReport (h : lexer.Stands config source passed)
    (hShort : Position.IsShort source.toList) :
    IsReport lexer.file lexer.nextToken.1 (issuedBy lexer.file lexer.nextToken.1) := by
  have hContent : lexer.file.content = source := by
    rw [h.file_eq]
  cases hResult : lexer.nextToken.1 with
  | error error =>
    obtain ⟨hPoints, -⟩ := h.error_pointsAt hShort hResult
    rw [← hContent] at hPoints
    have hEmpty : error.span.isEmpty = true := rfl
    obtain ⟨snippet, hSnippet, hIsAt⟩ := Diagnostic.Snippet.exists_ofSpan hPoints
      ⟨0, Diagnostic.Snippet.widthOf_of_isEmpty lexer.file hEmpty, Nat.zero_le 1⟩
    have hReport : error.toDiagnostic lexer.file =
        ⟨.error, error.message, error.span, some error.code, [error.help], [snippet]⟩ := by
      show (Diagnostic.withSnippetFrom lexer.file ⟨_, _, error.span, _, _, _⟩).withHelp _ = _
      rw [Diagnostic.withSnippetFrom, hSnippet]
      rfl
    rw [issuedBy, diagnosticsOf, hReport]
    exact IsReport.failure hIsAt
  | ok token =>
    by_cases hKind : token.kind = .unknown
    · obtain ⟨c, before, ahead, hText, hCovers, hPoints, -⟩ :=
        h.unknown_pointsAt hShort hResult hKind
      rw [← hContent] at hPoints hCovers
      obtain ⟨snippet, hSnippet, hIsAt⟩ := Diagnostic.Snippet.exists_ofSpan hPoints
        (Diagnostic.Snippet.exists_widthOf_covers hCovers)
      have hReport : unknownWarning lexer.file c token =
          ⟨.warning, "unknown character " ++ Text.quoteChar c, token.span, some ⟨"W", 101⟩, [],
            [snippet]⟩ := by
        show Diagnostic.withSnippetFrom lexer.file ⟨_, _, token.span, _, _, _⟩ = _
        rw [Diagnostic.withSnippetFrom, hSnippet]
        rfl
      rw [issuedBy_unknown _ hKind hText, hReport]
      exact IsReport.unknown hKind hText hIsAt
    · rw [issuedBy_of_kind_ne _ hKind]
      exact IsReport.quiet hKind

end Stands

/-- The collector after a run of calls holds what its answers call for. -/
theorem exists_reports (config : Config) {source : String}
    (hShort : Position.IsShort source.toList) (calls : List Call) :
    let start := ofText config source
    ∃ reports, ((start.drive calls).2.collector.diagnostics.toList = reports.flatten) ∧
      List.Forall₂ (IsReport start.file) (answers (start.drive calls).1) reports := by
  intro start
  have hStart : start.finished = false := rfl
  refine ⟨(List.range (scanned (start.drive calls).1)).map fun i =>
    issuedBy start.file (start.result i), diagnostics_drive hStart calls, ?_⟩
  rw [answers_drive hStart, List.forall₂_map_left_iff, List.forall₂_map_right_iff,
    List.forall₂_same]
  intro i _
  obtain ⟨passed, hStands⟩ := exists_stands_calls config source i
  have hReport := hStands.isReport hShort
  rw [file_calls] at hReport
  exact hReport

end Lexer

/--
In every run over a text that is short enough, whatever the order of its calls,
the collector holds the reports that the answers call for, each with a snippet
of the line on which it lies. So it counts as many errors as calls met a fault
and as many warnings as characters were passed through.
-/
theorem reports_agree (config : Config) {source : String}
    (hShort : Position.IsShort source.toList) (calls : List Lexer.Call) :
    let start := Lexer.ofText config source
    let file : SourceFile := { name := Lexer.sourceName, content := source }
    let answers := Lexer.answers (start.drive calls).1
    let collector := (start.drive calls).2.collector
    (∃ reports, collector.diagnostics.toList = reports.flatten ∧
      List.Forall₂ (Lexer.IsReport file) answers reports) ∧
    collector.errorCount = answers.countP isFailure ∧
    collector.warningCount = answers.countP isUnknown ∧
    (collector.hasErrors = true ↔ ∃ error, .error error ∈ answers) := by
  intro start file answers collector
  obtain ⟨reports, hReports, hAll⟩ := Lexer.exists_reports config hShort calls
  have hErrors : collector.errorCount = answers.countP isFailure := by
    rw [Diagnostic.Collector.errorCount, Diagnostic.Collector.count, ← Array.countP_toList,
      hReports]
    exact Lexer.countP_flatten hAll fun _ _ h => h.countP_error
  have hWarnings : collector.warningCount = answers.countP isUnknown := by
    rw [Diagnostic.Collector.warningCount, Diagnostic.Collector.count, ← Array.countP_toList,
      hReports]
    exact Lexer.countP_flatten hAll fun _ _ h => h.countP_warning
  refine ⟨⟨reports, hReports, hAll⟩, hErrors, hWarnings, ?_⟩
  rw [Diagnostic.Collector.hasErrors_iff, hErrors, List.countP_pos_iff]
  constructor
  · rintro ⟨result, hMem, hFailure⟩
    cases result with
    | error error => exact ⟨error, hMem⟩
    | ok token => cases hFailure
  · rintro ⟨error, hMem⟩
    exact ⟨_, hMem, rfl⟩

/--
A character that is passed through ends no stream, and a faulty literal does.
Calls for tokens go on to the next fault and to the end, and a last call for an
item yields nothing and reports nothing.
-/
theorem reports_of_mixed_calls :
    let source := "\ufeff/*\n*/ é\r\n'ab' 0x"
    let last := (Lexer.ofText {} source).drive [.item, .token, .token, .item, .item]
    Position.IsShort source.toList ∧
      Lexer.answers last.1 = [.ok ⟨.unknown, "é", ⟨9, 11, 2, 4⟩⟩, .error ⟨.notOneChar "ab", 3, 1⟩,
        .error ⟨.noDigits "0x", 3, 6⟩, .ok ⟨.eof, "", ⟨20, 20, 3, 8⟩⟩] ∧
      last.2.collector.errorCount = 2 ∧ last.2.collector.warningCount = 1 ∧
      last.2.collector.hasErrors = true ∧
      ∃ reports, last.2.collector.diagnostics.toList = reports.flatten ∧
        List.Forall₂ (Lexer.IsReport { name := Lexer.sourceName, content := source })
          (Lexer.answers last.1) reports := by
  intro source last
  have hShort : Position.IsShort source.toList := by
    unfold Position.IsShort
    decide +kernel
  have hAnswers : Lexer.answers last.1 =
      [.ok ⟨.unknown, "é", ⟨9, 11, 2, 4⟩⟩, .error ⟨.notOneChar "ab", 3, 1⟩,
        .error ⟨.noDigits "0x", 3, 6⟩, .ok ⟨.eof, "", ⟨20, 20, 3, 8⟩⟩] := by
    decide +kernel
  obtain ⟨hReports, hErrors, hWarnings, hHasErrors⟩ :=
    reports_agree {} hShort [.item, .token, .token, .item, .item]
  refine ⟨hShort, hAnswers, ?_, ?_, ?_, hReports⟩
  · exact hErrors.trans (congrArg (List.countP isFailure) hAnswers)
  · exact hWarnings.trans (congrArg (List.countP isUnknown) hAnswers)
  · rw [hHasErrors]
    exact ⟨⟨.notOneChar "ab", 3, 1⟩, hAnswers ▸ by simp⟩

end HdlLex
