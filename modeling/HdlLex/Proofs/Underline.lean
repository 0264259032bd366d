import HdlLex.Proofs.Carets

/-!
# Underline — the first line of a span

A snippet of a span shows the line on which the span begins, with carets under
its first line. The line is cut out of the text by its line feeds and trimmed,
the width is that of the covered text up to its own first line end, and the
columns count characters. Where every carriage return belongs to a line feed,
the two notions of a line end agree: the carets stand below what the span
covers of its line.

* `Text.PairsReturns` — a text in which carriage returns stand before line feeds
  only.
* `Text.IsFirstLine`, `Text.IsLine` — a line, without its terminator.
* `Span.LiesAt` — a span that begins at its line and column.
* `Diagnostic.Snippet.PrintsCarets`, `Diagnostic.Snippet.Underlines` — how a
  snippet looks, and what its carets mark.

Main results:

* `Text.PairsReturns.isFirstLine_trimLineEnd`,
  `Text.PairsReturns.isFirstLine_firstLine` — both ways to end a line agree.
* `Text.take_drop_trimLineEnd` — what is covered of a line stands in its columns.
* `snippet_underlines` — the snippet of every span.
-/

namespace HdlLex

namespace Text

-- ---------------------------------------------------------------------------
-- Lines and their terminators
-- ---------------------------------------------------------------------------

/-- Every carriage return stands directly before a line feed. -/
def PairsReturns (cs : List Char) : Prop :=
  ∀ before ahead, cs = before ++ '\r' :: ahead → ahead.head? = some '\n'

/-- `line` is what `cs` begins with, up to the first terminator of a line or to the end. -/
def IsFirstLine (line cs : List Char) : Prop :=
  '\n' ∉ line ∧ '\r' ∉ line ∧
    ∃ behind, cs = line ++ behind ∧
      (behind = [] ∨ ['\n'] <+: behind ∨ ['\r', '\n'] <+: behind)

/-- `line` is the line of `cs` with that number, from one, without its terminator. -/
def IsLine (cs : List Char) (number : Nat) (line : List Char) : Prop :=
  ∃ before ahead, cs = before ++ ahead ∧ (before = [] ∨ ['\n'] <:+ before) ∧
    number = lineOf before ∧ IsFirstLine line ahead

theorem pairsReturns_nil : PairsReturns [] := by
  intro before ahead hText
  simp at hText

theorem pairsReturns_cons_iff {c : Char} {cs : List Char} :
    PairsReturns (c :: cs) ↔ (c = '\r' → cs.head? = some '\n') ∧ PairsReturns cs := by
  constructor
  · intro h
    refine ⟨fun hReturn => h [] cs (by rw [hReturn, List.nil_append]), fun before ahead hText => ?_⟩
    exact h (c :: before) ahead (by rw [hText, List.cons_append])
  · rintro ⟨hFirst, hLater⟩ before ahead hText
    cases before with
    | nil =>
      obtain ⟨rfl, rfl⟩ := List.cons.inj hText
      exact hFirst rfl
    | cons d before => exact hLater before ahead (List.cons.inj hText).2

instance decidablePairsReturns : (cs : List Char) → Decidable (PairsReturns cs)
  | [] => isTrue pairsReturns_nil
  | _ :: cs =>
    have := decidablePairsReturns cs
    decidable_of_iff _ pairsReturns_cons_iff.symm

theorem PairsReturns.of_append_right {xs ys : List Char} (h : PairsReturns (xs ++ ys)) :
    PairsReturns ys := by
  intro before ahead hText
  apply h (xs ++ before) ahead
  rw [hText, List.append_assoc]

/-- A stretch keeps its line feeds, unless its end parts one from a carriage return. -/
theorem PairsReturns.of_append_left {xs ys : List Char} (h : PairsReturns (xs ++ ys))
    (hEnd : ¬ (['\r'] <:+ xs ∧ ['\n'] <+: ys)) : PairsReturns xs := by
  intro before ahead hText
  have hNext := h before (ahead ++ ys) (by rw [hText, List.append_assoc, List.cons_append])
  cases ahead with
  | nil =>
    obtain ⟨rest, hRest⟩ := List.head?_eq_some_iff.1 hNext
    exact absurd ⟨⟨before, hText.symm⟩, ⟨rest, hRest.symm⟩⟩ hEnd
  | cons c ahead => exact hNext

/-- The first line is the run up to a line feed, less a carriage return that belongs to it. -/
theorem PairsReturns.exists_isFirstLine {cs : List Char} (h : PairsReturns cs) :
    ∃ line, IsFirstLine line cs ∧
      (cs.takeWhile (· != '\n') = line ∨
        cs.takeWhile (· != '\n') = line ++ ['\r'] ∧ '\n' ∈ cs) := by
  obtain ⟨body, behind, rfl, hFeed, hEnd⟩ := exists_line cs
  rw [takeWhile_line hFeed hEnd]
  have hBehind : behind = [] ∨ ['\n'] <+: behind :=
    hEnd.imp_right fun hHead => by
      obtain ⟨rest, rfl⟩ := List.head?_eq_some_iff.1 hHead
      exact ⟨rest, rfl⟩
  rcases body.eq_nil_or_concat' with rfl | ⟨body, c, rfl⟩
  · refine ⟨[], ⟨List.not_mem_nil, List.not_mem_nil, behind, rfl, ?_⟩, Or.inl rfl⟩
    exact hBehind.imp_right Or.inl
  · -- a carriage return within the line would stand before a line feed of the line
    have hNone : '\r' ∉ body := by
      intro hMem
      obtain ⟨xs, ys, rfl⟩ := List.append_of_mem hMem
      have hNext := h xs (ys ++ [c] ++ behind) (by simp)
      rw [List.head?_append_of_ne_nil _ (by simp)] at hNext
      apply hFeed
      rw [List.append_assoc, List.cons_append]
      exact List.mem_append_right _ (List.mem_cons_of_mem _ (List.mem_of_mem_head? hNext))
    by_cases hReturn : c = '\r'
    · subst hReturn
      have hNext := h body behind (by simp)
      obtain ⟨rest, rfl⟩ := List.head?_eq_some_iff.1 hNext
      refine ⟨body, ⟨fun hIn => hFeed (List.mem_append_left _ hIn), hNone, '\r' :: '\n' :: rest,
        by simp, Or.inr (Or.inr ⟨rest, rfl⟩)⟩, Or.inr ⟨rfl, by simp⟩⟩
    · have hNone' : '\r' ∉ body ++ [c] := by simp [hNone, Ne.symm hReturn]
      exact ⟨body ++ [c], ⟨hFeed, hNone', behind, rfl, hBehind.imp_right Or.inl⟩, Or.inl rfl⟩

theorem trimLineEnd_eq_self {line : List Char} (hFeed : '\n' ∉ line) (hReturn : '\r' ∉ line) :
    trimLineEnd line = line := by
  rw [trimLineEnd_eq, List.rdropWhile_eq_self_iff]
  intro hNonempty hEnd
  have hMem := List.getLast_mem hNonempty
  rw [isLineEnd, Bool.or_eq_true, beq_iff_eq, beq_iff_eq] at hEnd
  rcases hEnd with hLast | hLast
  · exact hFeed (hLast ▸ hMem)
  · exact hReturn (hLast ▸ hMem)

/-- Trimming what stands before a line feed leaves the first line. -/
theorem PairsReturns.isFirstLine_trimLineEnd {cs : List Char} (h : PairsReturns cs) :
    IsFirstLine (trimLineEnd (cs.takeWhile (· != '\n'))) cs := by
  obtain ⟨line, hLine, hRun⟩ := h.exists_isFirstLine
  have hSelf := trimLineEnd_eq_self hLine.1 hLine.2.1
  rcases hRun with hRun | ⟨hRun, -⟩
  · rw [hRun, hSelf]
    exact hLine
  · rw [hRun, trimLineEnd_eq, List.rdropWhile_concat_pos _ _ _ rfl, ← trimLineEnd_eq, hSelf]
    exact hLine

/-- So does dropping one carriage return before a line feed. -/
theorem PairsReturns.isFirstLine_firstLine {cs : List Char} (h : PairsReturns cs) :
    IsFirstLine (firstLine cs) cs := by
  obtain ⟨line, hLine, hRun⟩ := h.exists_isFirstLine
  have hFirst : firstLine cs = line := by
    simp only [firstLine]
    rcases hRun with hRun | ⟨hRun, hFeed⟩
    · have hLast : (line.getLast? == some '\r') = false := by
        rw [beq_eq_false_iff_ne]
        exact fun hLast => hLine.2.1 (List.mem_of_getLast? hLast)
      rw [hRun, hLast, Bool.and_false, if_neg Bool.false_ne_true]
    · have hShort : (line ++ ['\r']).length < cs.length := by
        rw [← hRun]
        refine lt_of_le_of_ne (List.takeWhile_prefix _).length_le fun hLength => ?_
        have hAll := (List.takeWhile_prefix _).eq_of_length hLength
        have hTest := List.takeWhile_eq_self_iff.1 hAll '\n' hFeed
        simp at hTest
      rw [hRun, decide_eq_true hShort, List.getLast?_concat, List.dropLast_concat]
      rfl
  rw [hFirst]
  exact hLine

-- ---------------------------------------------------------------------------
-- A place and what is covered behind it
-- ---------------------------------------------------------------------------

/-- The lines before that of a place, and what stands before the place on its line. -/
theorem exists_append_onLine (cs : List Char) :
    ∃ earlier, cs = earlier ++ onLine cs ∧ (earlier = [] ∨ ['\n'] <:+ earlier) ∧
      lineOf cs = lineOf earlier := by
  induction cs using List.reverseRecOn with
  | nil => exact ⟨[], rfl, Or.inl rfl, rfl⟩
  | append_singleton cs c ih =>
    by_cases hFeed : c = '\n'
    · subst hFeed
      have hNone : onLine (cs ++ ['\n']) = [] :=
        List.rtakeWhile_concat_neg (· != '\n') cs '\n' (by simp)
      exact ⟨cs ++ ['\n'], by rw [hNone, List.append_nil], Or.inr ⟨cs, rfl⟩, rfl⟩
    · obtain ⟨earlier, hSplit, hEnd, hNumber⟩ := ih
      have hMore : onLine (cs ++ [c]) = onLine cs ++ [c] :=
        List.rtakeWhile_concat_pos (· != '\n') cs c (by simpa using hFeed)
      refine ⟨earlier, ?_, hEnd, ?_⟩
      · rw [hMore, ← List.append_assoc, ← hSplit]
      · rw [lineOf_concat, if_neg hFeed, hNumber]

/-- The line of a place, without its terminator. -/
theorem PairsReturns.isLine {before ahead : List Char} (h : PairsReturns (before ++ ahead)) :
    IsLine (before ++ ahead) (lineOf before)
      (trimLineEnd (onLine before ++ ahead.takeWhile (· != '\n'))) := by
  obtain ⟨earlier, hBefore, hEnd, hNumber⟩ := exists_append_onLine before
  have hAll := all_bne_of_not_mem (lineFeed_not_mem_onLine before)
  have hText : before ++ ahead = earlier ++ (onLine before ++ ahead) := by
    rw [← List.append_assoc, ← hBefore]
  rw [← List.takeWhile_append_of_pos hAll]
  refine ⟨earlier, onLine before ++ ahead, hText, hEnd, hNumber, ?_⟩
  rw [hText] at h
  exact h.of_append_right.isFirstLine_trimLineEnd

/-- What is covered on the line of a place stands there behind what is before the place. -/
theorem take_drop_trimLineEnd (before : List Char) {covered shown : List Char}
    (h : IsFirstLine shown covered) (ahead : List Char) :
    ((trimLineEnd (onLine before ++ (covered ++ ahead).takeWhile (· != '\n'))).drop
      (sinceFeed before)).take shown.length = shown := by
  obtain ⟨hFeed, hReturn, behind, rfl, -⟩ := h
  rcases shown.eq_nil_or_concat' with rfl | ⟨shown, c, rfl⟩
  · rfl
  · -- behind its last character, which ends no line, nothing of it is trimmed
    have hAll := all_bne_of_not_mem hFeed
    have hEnd : isLineEnd c = false := by
      rw [List.mem_append, not_or, List.mem_singleton] at hFeed hReturn
      simp [isLineEnd, Ne.symm hFeed.2, Ne.symm hReturn.2]
    rw [List.append_assoc, List.takeWhile_append_of_pos hAll, ← length_onLine]
    generalize (behind ++ ahead).takeWhile (· != '\n') = rest
    have hText : onLine before ++ (shown ++ [c] ++ rest) =
        (onLine before ++ shown) ++ c :: rest := by
      simp
    obtain ⟨more, hMore⟩ := isPrefix_trimLineEnd (onLine before ++ shown) hEnd rest
    have hWhole : (onLine before ++ shown) ++ [c] ++ more =
        onLine before ++ ((shown ++ [c]) ++ more) := by
      simp
    rw [hText, ← hMore, hWhole, List.drop_left, List.take_left]

end Text

/--
The span covers `covered` behind `before`, and has the line and the column of
its start. Its end parts no carriage return from its line feed.
-/
structure Span.LiesAt (span : Span) (text before covered ahead : List Char) : Prop where
  text_eq : text = before ++ (covered ++ ahead)
  start_eq : span.start = Text.byteLength before
  stop_eq : span.stop = Text.byteLength (before ++ covered)
  line_eq : span.line.toNat = Text.lineOf before
  column_eq : span.column.toNat = 1 + Text.sinceFeed before
  not_parted : ¬ (['\r'] <:+ before ++ covered ∧ ['\n'] <+: ahead)

namespace Diagnostic.Snippet

/--
Two lines are printed: the line behind its number, and carets. There are as
many of them as there are columns, or one, and the first has the index of the
first column.
-/
structure PrintsCarets (snippet : Snippet) : Prop where
  lineFeed_not_mem : '\n' ∉ numberedLine snippet.lineNumber snippet.line
  exists_carets : ∃ carets,
    snippet.format.toList = numberedLine snippet.lineNumber snippet.line ++ '\n' :: carets ∧
      '\n' ∉ carets ∧
      ∀ i, carets[i]? = some '^' ↔
        columnIndex snippet.lineNumber snippet.startColumn ≤ i ∧
          i < columnIndex snippet.lineNumber snippet.startColumn +
            max 1 (snippet.endColumn - snippet.startColumn)
  /-- The first column stands as far behind the start of the line as its number says. -/
  exists_lead : ∃ lead,
    numberedLine snippet.lineNumber snippet.line = lead ++ snippet.line.toList ∧
      columnIndex snippet.lineNumber snippet.startColumn =
        lead.length + (snippet.startColumn - 1)

/-- The snippet shows the line of the span, and marks what is covered of it. -/
structure Underlines (snippet : Snippet) (file : SourceFile) (span : Span)
    (covered : List Char) : Prop where
  lineNumber_eq : snippet.lineNumber = span.line.toNat
  startColumn_eq : snippet.startColumn = span.column.toNat
  isLine : Text.IsLine file.content.toList snippet.lineNumber snippet.line.toList
  /-- The characters in the columns are the covered text up to its first line end. -/
  exists_shown : ∃ shown, Text.IsFirstLine shown covered ∧
    snippet.endColumn = snippet.startColumn + shown.length ∧
    (snippet.line.toList.drop (snippet.startColumn - 1)).take
      (snippet.endColumn - snippet.startColumn) = shown
  printsCarets : snippet.PrintsCarets

theorem printsCarets {snippet : Snippet} (h : '\n' ∉ snippet.line.toList) :
    snippet.PrintsCarets where
  lineFeed_not_mem := lineFeed_not_mem_numberedLine _ h
  exists_carets := by
    rw [max_comm]
    exact snippet.exists_carets_format
  exists_lead := by
    have hLength := length_margin (le_max_right 3 (Nat.toDigits 10 snippet.lineNumber).length)
    refine ⟨margin (numberWidth snippet.lineNumber) (Nat.toDigits 10 snippet.lineNumber), rfl, ?_⟩
    rw [numberWidth, hLength, columnIndex, numberWidth]

/-- The width of a span is that of the first line of what it covers. -/
theorem exists_widthOf_liesAt {file : SourceFile} {span : Span}
    {before covered ahead : List Char}
    (h : span.LiesAt file.content.toList before covered ahead)
    (hReturns : Text.PairsReturns file.content.toList) :
    ∃ shown, Text.IsFirstLine shown covered ∧ widthOf file span = .ok shown.length := by
  have hCovered : Text.PairsReturns covered := by
    have hBehind := h.text_eq ▸ hReturns
    refine hBehind.of_append_right.of_append_left fun hParted => ?_
    exact h.not_parted ⟨hParted.1.trans (List.suffix_append before covered), hParted.2⟩
  have hFirst := hCovered.isFirstLine_firstLine
  refine ⟨Text.firstLine covered, hFirst, ?_⟩
  by_cases hEmpty : span.isEmpty = true
  · have hNone : covered = [] := by
      rw [Span.isEmpty, beq_iff_eq, h.start_eq, h.stop_eq, Text.byteLength_append] at hEmpty
      exact Text.byteLength_eq_zero_iff.1 (by omega)
    rw [widthOf_of_isEmpty file hEmpty, hNone]
    rfl
  · have hText : file.textOf span = .ok (String.ofList covered) := by
      rw [SourceFile.textOf, h.start_eq, h.stop_eq]
      exact file.range_append h.text_eq
    rw [widthOf, if_neg hEmpty, hText]
    show Except.ok (Text.firstLine (String.ofList covered).toList).length = _
    rw [String.toList_ofList]

end Diagnostic.Snippet

open Diagnostic in
/--
In a text where every carriage return stands before a line feed, a snippet can
be made of every span that lies between two characters and has the line and
column of its start. It shows the line without its terminator, and its carets
stand below what the span covers of that line.
-/
theorem snippet_underlines (file : SourceFile) (span : Span) (before covered ahead : List Char)
    (hReturns : Text.PairsReturns file.content.toList)
    (hSpan : span.LiesAt file.content.toList before covered ahead) :
    ∃ snippet, Snippet.ofSpan file span = .ok snippet ∧
      snippet.Underlines file span covered := by
  obtain ⟨shown, hShown, hWidth⟩ := Snippet.exists_widthOf_liesAt hSpan hReturns
  have hFound := file.line?_lineOf hSpan.text_eq
  rw [← hSpan.line_eq] at hFound
  have hLine := (hSpan.text_eq ▸ hReturns).isLine
  rw [← hSpan.text_eq, ← hSpan.line_eq] at hLine
  have hMarked := Text.take_drop_trimLineEnd before hShown ahead
  set line := Text.trimLineEnd
    (Text.onLine before ++ (covered ++ ahead).takeWhile (· != '\n'))
  have hFirst : max span.column.toNat 1 = span.column.toNat := by
    have hColumn := hSpan.column_eq
    omega
  refine ⟨⟨String.ofList line, span.line.toNat, max span.column.toNat 1,
    max span.column.toNat 1 + shown.length⟩, ?_, rfl, hFirst, ?_, ⟨shown, hShown, rfl, ?_⟩, ?_⟩
  · rw [Snippet.ofSpan, SourceFile.lineText, hFound, hWidth]
    rfl
  · rw [String.toList_ofList]
    exact hLine
  · show ((String.ofList line).toList.drop (max span.column.toNat 1 - 1)).take
      (max span.column.toNat 1 + shown.length - max span.column.toNat 1) = shown
    rw [String.toList_ofList, hFirst, hSpan.column_eq, Nat.add_sub_cancel_left,
      Nat.add_sub_cancel_left]
    exact hMarked
  · obtain ⟨-, -, -, -, -, hFeed, -⟩ := hLine
    apply Snippet.printsCarets
    rw [String.toList_ofList]
    exact hFeed

/-- A span that goes on behind its line is underlined up to the carriage return. -/
theorem snippet_of_two_lines :
    let file : SourceFile := { name := "a", content := "é\r\nab cd\r\nx" }
    let span : Span := ⟨5, 12, 2, 2⟩
    let snippet : Diagnostic.Snippet := ⟨"ab cd", 2, 2, 6⟩
    let covered := "b cd\r\nx".toList
    Text.PairsReturns file.content.toList ∧
      span.LiesAt file.content.toList "é\r\na".toList covered [] ∧
      snippet.format = "  2 | ab cd\n    |  ^^^^" ∧
      Diagnostic.Snippet.ofSpan file span = .ok snippet ∧ snippet.Underlines file span covered := by
  intro file span snippet covered
  have hReturns : Text.PairsReturns file.content.toList := by
    decide +kernel
  have hSpan : span.LiesAt file.content.toList "é\r\na".toList covered [] :=
    { text_eq := by decide +kernel
      start_eq := by decide +kernel
      stop_eq := by decide +kernel
      line_eq := by decide +kernel
      column_eq := by decide +kernel
      not_parted := by decide +kernel }
  obtain ⟨found, hFound, hUnderlines⟩ := snippet_underlines file span _ _ _ hReturns hSpan
  have hSnippet : Diagnostic.Snippet.ofSpan file span = .ok snippet := by
    decide +kernel
  obtain rfl : snippet = found := Except.ok.inj (hSnippet.symm.trans hFound)
  have hFormat : snippet.format = "  2 | ab cd\n    |  ^^^^" := by
    decide +kernel
  exact ⟨hReturns, hSpan, hFormat, hSnippet, hUnderlines⟩

end HdlLex
