import HdlLex.Proofs.PlainValues
import HdlLex.Toml.Document

/-!
# Assignments — plain documents, read by the built-in library

A document whose lines each set a key of its own is read as the table of these
keys and values, in the order of the lines.

* `Toml.Assignment.entry` — what a line is read as.

Main results:

* `Toml.Assignment.line?_append` — such a line is read as an entry, whatever
  lines follow.
* `Toml.Table.insertAll?_entries` — distinct keys are all entered.
* `Toml.Table.ofDocument?_document` — the table of the whole document.
-/

namespace HdlLex.Toml

/-- What the line is read as. -/
def Assignment.entry (assignment : Assignment) : Entry :=
  ⟨[], String.ofList assignment.key, assignment.value.toValue⟩

/-- What the table of a document holds under the keys. -/
def toTable (pairs : List (String × Scalar)) : Table :=
  pairs.map fun (key, value) => (key, value.toValue)

-- ---------------------------------------------------------------------------
-- Blanks
-- ---------------------------------------------------------------------------

/-- What does not begin with a blank is passed over by none. -/
theorem skipBlanks_cons {c : Char} (h : isBlank c = false) (cs : List Char) :
    skipBlanks (c :: cs) = c :: cs := by
  rw [skipBlanks, List.dropWhile_cons_of_neg]
  rw [h]
  exact Bool.false_ne_true

/-- The end of a line leaves what follows it. -/
theorem AtLineEnd.lineEnd?_eq {ahead : List Char} (h : AtLineEnd ahead) :
    lineEnd? ahead = some ahead.tail := by
  cases h with
  | ofText => rfl
  | ofLine ahead => rfl

/-- Neither a comment nor a line feed begins with another character. -/
theorem lineEnd?_cons {c : Char} (hBlank : isBlank c = false) (hComment : c ≠ '#')
    (hFeed : c ≠ '\n') (hReturn : c ≠ '\r') (cs : List Char) : lineEnd? (c :: cs) = none := by
  have hSkip : skipComment (c :: cs) = c :: cs := by
    rw [skipComment]
    rintro rest ⟨⟩
    exact hComment rfl
  have hNewline : newline? (c :: cs) = none := by
    rw [newline?.eq_def]
    split
    · rename_i hNext
      exact absurd (List.cons.inj hNext).1 hFeed
    · rename_i hNext
      exact absurd (List.cons.inj hNext).1 hReturn
    · rfl
  rw [lineEnd?, skipBlanks_cons hBlank, hSkip]
  exact hNewline

-- ---------------------------------------------------------------------------
-- Keys
-- ---------------------------------------------------------------------------

section Keys

variable {key : List Char} (hNonempty : key ≠ []) (hBare : key.all isBareKeyChar = true)
include hNonempty hBare

/-- A key without quotes begins with no character that has a meaning of its own. -/
theorem exists_key_cons : ∃ c more, key = c :: more ∧ isBlank c = false ∧
    ∀ mark, isBareKeyChar mark = false → c ≠ mark := by
  obtain ⟨c, more, rfl⟩ := List.exists_cons_of_ne_nil hNonempty
  rw [List.all_cons, Bool.and_eq_true] at hBare
  have hFirst (mark : Char) : isBareKeyChar mark = false → c ≠ mark := ne_of_test hBare.1
  refine ⟨c, more, rfl, ?_, hFirst⟩
  simp [isBlank, hFirst ' ' (by decide), hFirst '\t' (by decide)]

theorem skipBlanks_key (ahead : List Char) : skipBlanks (key ++ ahead) = key ++ ahead := by
  obtain ⟨c, more, rfl, hBlank, -⟩ := exists_key_cons hNonempty hBare
  exact skipBlanks_cons hBlank _

theorem simpleKey?_append (ahead : List Char) :
    simpleKey? (key ++ ' ' :: ahead) = some (String.ofList key, ' ' :: ahead) := by
  have hRun : (key ++ ' ' :: ahead).takeWhile isBareKeyChar = key := by
    rw [List.takeWhile_append_of_pos (List.all_eq_true.1 hBare), List.takeWhile_cons_of_neg,
      List.append_nil]
    decide
  obtain ⟨c, more, rfl, -, hFirst⟩ := exists_key_cons hNonempty hBare
  rw [List.cons_append] at hRun ⊢
  rw [simpleKey?]
  · rw [hRun, ← List.cons_append, List.drop_left]
    rfl
  · rintro cs hNext
    exact hFirst _ (by decide) (List.cons.inj hNext).1
  · rintro cs hNext
    exact hFirst _ (by decide) (List.cons.inj hNext).1

/-- A key in front of an equals sign is a path of one part. -/
theorem keyPath?_append (ahead : List Char) :
    keyPath? (key ++ [' ', '='] ++ ahead) = some (([], String.ofList key), '=' :: ahead) := by
  have hKeys : keys? (key ++ ' ' :: '=' :: ahead) = some ([String.ofList key], '=' :: ahead) := by
    rw [keys?, skipBlanks_key hNonempty hBare, simpleKey?_append hNonempty hBare,
      Option.bind_eq_bind, Option.bind_some]
    rfl
  rw [List.append_assoc, List.cons_append, List.singleton_append, keyPath?, hKeys]
  rfl

end Keys

-- ---------------------------------------------------------------------------
-- Lines
-- ---------------------------------------------------------------------------

namespace Assignment

variable {assignment : Assignment} (h : assignment.IsPlain) {ahead : List Char}
  (hEnd : AtLineEnd ahead)
include h hEnd

theorem entry?_append (depth : Nat) :
    entry? (value? depth) (assignment.line ++ ahead) = some (assignment.entry, ahead) := by
  have hLine : assignment.line ++ ahead =
      assignment.key ++ [' ', '='] ++ ' ' :: (assignment.text ++ ahead) := by
    simp [line]
  have hBlanks : skipBlanks (' ' :: (assignment.text ++ ahead)) = assignment.text ++ ahead := by
    have hSpace (cs : List Char) : skipBlanks (' ' :: cs) = skipBlanks cs := rfl
    obtain ⟨c, more, hText, hBlank⟩ := h.notates.isWritten.head
    rw [hSpace, hText, List.cons_append, skipBlanks_cons hBlank]
  rw [hLine, entry?, keyPath?_append h.key_ne_nil h.isBareKeyChar, Option.bind_eq_bind,
    Option.bind_some]
  dsimp only [dropText?]
  rw [if_pos rfl, Option.bind_eq_bind, Option.bind_some, hBlanks,
    h.notates.isWritten.value?_append depth ahead hEnd]
  rfl

/-- The line is read as its entry, whatever lines follow. -/
theorem line?_append :
    line? (assignment.line ++ ahead) = some (.entry assignment.entry, ahead.tail) := by
  have hEntry : entryLine? (assignment.line ++ ahead) =
      some (.entry assignment.entry, ahead.tail) := by
    rw [entryLine?, entry?_append h hEnd, Option.bind_eq_bind, Option.bind_some]
    dsimp only
    rw [hEnd.lineEnd?_eq]
    rfl
  obtain ⟨c, more, hKey, hBlank, hFirst⟩ := exists_key_cons h.key_ne_nil h.isBareKeyChar
  have hLine : assignment.line ++ ahead =
      c :: (more ++ ([' ', '=', ' '] ++ assignment.text) ++ ahead) := by
    rw [line, hKey, List.cons_append, List.cons_append]
  rw [hLine] at hEntry ⊢
  have hNoEnd := lineEnd?_cons hBlank (hFirst '#' (by decide)) (hFirst '\n' (by decide))
    (hFirst '\r' (by decide))
  rw [line?, skipBlanks_cons hBlank]
  split
  · rename_i hNext
    exact absurd (List.cons.inj hNext).1 (hFirst '[' (by decide))
  · rw [hNoEnd]
    exact hEntry

omit h hEnd

/-- A document of further lines goes on behind the end of the first. -/
theorem exists_document_cons (closed : Bool) (first : Assignment) (later : List Assignment) :
    ∃ ahead, document closed (first :: later) = first.line ++ ahead ∧ AtLineEnd ahead ∧
      ahead.tail = document closed later := by
  cases later with
  | nil => cases closed with
    | false => exact ⟨[], rfl, .ofText, rfl⟩
    | true => exact ⟨['\n'], rfl, .ofLine [], rfl⟩
  | cons next later => exact ⟨_, rfl, .ofLine _, rfl⟩

end Assignment

/-- Plain lines are read as their entries. -/
theorem lines?_document (closed : Bool) {assignments : List Assignment}
    (h : ∀ a ∈ assignments, a.IsPlain) :
    lines? (Assignment.document closed assignments) =
      some (assignments.map fun a => .entry a.entry) := by
  induction assignments with
  | nil => rw [Assignment.document, lines?, List.isEmpty_nil, if_pos rfl, List.map_nil]
  | cons a assignments ih =>
    obtain ⟨hFirst, hLater⟩ := List.forall_mem_cons.1 h
    obtain ⟨ahead, hDocument, hEnd, hTail⟩ := a.exists_document_cons closed assignments
    have hFewer : ahead.tail.length < (a.line ++ ahead).length := by
      simp only [Assignment.line, List.length_append, List.length_cons, List.length_tail]
      omega
    have hSome : (a.line ++ ahead).isEmpty = false := by
      simp [Assignment.line]
    rw [hDocument, lines?, hSome, if_neg Bool.false_ne_true, Assignment.line?_append hFirst hEnd,
      Option.bind_eq_bind, Option.bind_some]
    dsimp only
    rw [if_pos hFewer, hTail, ih hLater]
    rfl

-- ---------------------------------------------------------------------------
-- Tables
-- ---------------------------------------------------------------------------

/-- Lines without headers form one section. -/
theorem sections_entries (header : Header) (entries : List Entry) :
    sections header (entries.map .entry) = [⟨header, entries⟩] := by
  induction entries with
  | nil => rfl
  | cons entry entries ih =>
    rw [List.map_cons, sections, ih]
    rfl

namespace Table

theorem skipMark_cons {c : Char} (h : c ≠ '\ufeff') (cs : List Char) :
    skipMark (c :: cs) = c :: cs := by
  rw [skipMark]
  rintro rest ⟨⟩
  exact h rfl

/-- Keys that are new and distinct are all entered, in their order. -/
theorem insertAll?_entries {assignments : List Assignment} {table : Table}
    (hNodup : (assignments.map Assignment.key).Nodup)
    (hNew : ∀ a ∈ assignments, table.get? (String.ofList a.key) = none) :
    table.insertAll? (assignments.map Assignment.entry) =
      some (table ++ toTable (assignments.map Assignment.pair)) := by
  induction assignments generalizing table with
  | nil =>
    rw [List.map_nil, List.map_nil, toTable, List.map_nil, List.append_nil]
    rfl
  | cons a assignments ih =>
    rw [List.map_cons, List.nodup_cons] at hNodup
    obtain ⟨hFirst, hLater⟩ := List.forall_mem_cons.1 hNew
    have hInsert : table.insert? a.entry.key a.entry.value a.entry.path =
        some (table ++ toTable [a.pair]) := by
      rw [Assignment.entry, insert?, hFirst]
      rfl
    have hStill : ∀ b ∈ assignments,
        Table.get? (table ++ toTable [a.pair]) (String.ofList b.key) = none := by
      intro b hMem
      have hOther : (String.ofList b.key == String.ofList a.key) = false := by
        rw [beq_eq_false_iff_ne]
        intro hSame
        rw [String.ofList_inj] at hSame
        exact hNodup.1 (hSame ▸ List.mem_map_of_mem hMem)
      have hBefore := hLater b hMem
      rw [get?] at hBefore ⊢
      rw [List.lookup_append, hBefore, toTable, List.map_singleton, Assignment.pair,
        List.lookup_cons, hOther]
      rfl
    have hTable : table ++ toTable ((a :: assignments).map Assignment.pair) =
        table ++ toTable [a.pair] ++ toTable (assignments.map Assignment.pair) :=
      List.append_cons table _ _
    rw [List.map_cons, insertAll?, List.foldlM_cons, hInsert, Option.bind_eq_bind, Option.bind_some,
      hTable]
    exact ih hNodup.2 hStill

/-- A document of plain lines with distinct keys is read as the table of them. -/
theorem ofDocument?_document (closed : Bool) {assignments : List Assignment}
    (h : ∀ a ∈ assignments, a.IsPlain) (hNodup : (assignments.map Assignment.key).Nodup) :
    ofDocument? (Assignment.document closed assignments) =
      some (toTable (assignments.map Assignment.pair)) := by
  have hMark : skipMark (Assignment.document closed assignments) =
      Assignment.document closed assignments := by
    cases assignments with
    | nil => rfl
    | cons a assignments =>
      have hFirst := h a List.mem_cons_self
      obtain ⟨c, more, hKey, -, hMark⟩ := exists_key_cons hFirst.key_ne_nil hFirst.isBareKeyChar
      obtain ⟨ahead, hDocument, -⟩ := a.exists_document_cons closed assignments
      rw [hDocument, Assignment.line, hKey]
      exact skipMark_cons (hMark '\ufeff' (by decide)) _
  have hSections : sections .root (assignments.map fun a => .entry a.entry) =
      [⟨.root, assignments.map Assignment.entry⟩] := by
    rw [← sections_entries, List.map_map]
    rfl
  rw [ofDocument?, hMark, lines?_document closed h, Option.bind_eq_bind, Option.bind_some,
    hSections, List.foldlM_cons, addSection?, insertAll?_entries hNodup fun _ _ => rfl]
  rfl

end Table

end HdlLex.Toml
