import HdlLex.Toml.Reader

/-!
# Toml — documents

A document is read line by line, where a value may take several lines. The
lines fall into sections, each under a header, and the sections are entered
into one table.

* `Line`, `lines?` — the lines of a document.
* `Section`, `sections` — entries under their header.
* `Table.ofDocument?` — the table that a text describes.
-/

namespace HdlLex.Toml

/-- What opens a section. -/
inductive Header where
  /-- The beginning of the document. -/
  | root
  /-- A table with its path. -/
  | table (path : List String) (key : String)
  /-- One more of repeated tables. -/
  | element (path : List String) (key : String)
  deriving DecidableEq, Repr

/-- A line of a document, together with those over which its value goes on. -/
inductive Line where
  | blank
  | header (header : Header)
  | entry (entry : Entry)

/-! ## Lines -/

/-- A line that begins with a bracket; `cs` follows the bracket. -/
def headerLine? (cs : List Char) : Option (Line × List Char) :=
  match cs with
  | '[' :: cs => do
    let ((path, key), cs) ← keyPath? cs
    let cs ← dropText? [']', ']'] cs
    let rest ← lineEnd? cs
    return (.header (.element path key), rest)
  | _ => do
    let ((path, key), cs) ← keyPath? cs
    let cs ← dropText? [']'] cs
    let rest ← lineEnd? cs
    return (.header (.table path key), rest)

/-- A line that assigns a value. -/
def entryLine? (cs : List Char) : Option (Line × List Char) := do
  let (entry, cs) ← entry? (value? (nestingLimit - 1)) cs
  let rest ← lineEnd? cs
  return (.entry entry, rest)

/-- The line at the front of a text, and the text behind its end. -/
def line? (cs : List Char) : Option (Line × List Char) :=
  match skipBlanks cs with
  | '[' :: rest => headerLine? rest
  | start =>
    match lineEnd? start with
    | some rest => some (.blank, rest)
    | none => entryLine? start

/-- The lines of a text. -/
def lines? (cs : List Char) : Option (List Line) :=
  if cs.isEmpty then some []
  else do
    let (line, rest) ← line? cs
    if rest.length < cs.length then do
      let lines ← lines? rest
      return line :: lines
    else none
termination_by cs.length

/-! ## Sections -/

/-- The entries under one header. -/
structure Section where
  header : Header
  entries : List Entry

/-- The section with one more entry at its front. -/
def Section.cons (entry : Entry) (part : Section) : Section :=
  { part with entries := entry :: part.entries }

/-- The sections of lines that stand under a header. -/
def sections (header : Header) : List Line → List Section
  | [] => [⟨header, []⟩]
  | .blank :: lines => sections header lines
  | .header next :: lines => ⟨header, []⟩ :: sections next lines
  | .entry entry :: lines =>
    match sections header lines with
    | [] => []
    | part :: parts => part.cons entry :: parts

/-! ## The table of a document -/

namespace Table

/-- The table with a section whose header is opened in its parent. -/
def addTable? (key : String) (entries : List Entry) (parent : Table) : Option Table := do
  let old ← match parent.get? key with
    | none => some []
    | some (.table .implied table) => some table
    | some _ => none
  let table ← insertAll? entries old
  return parent.put key (.table .header table)

/-- The table with one more of the repeated tables of a key. -/
def addElement? (key : String) (entries : List Entry) (parent : Table) : Option Table := do
  let earlier ← match parent.get? key with
    | none => some []
    | some (.tables elements) => some elements
    | some _ => none
  let table ← insertAll? entries []
  return parent.put key (.tables (table :: earlier))

/-- The table with one more section. -/
def addSection? (table : Table) (part : Section) : Option Table :=
  match part.header with
  | .root => table.insertAll? part.entries
  | .table path key => table.below? (addTable? key part.entries) path
  | .element path key => table.below? (addElement? key part.entries) path

/-- The text behind a byte-order mark, if it begins with one. -/
def skipMark : List Char → List Char
  | '\ufeff' :: cs => cs
  | cs => cs

/-- The table that a text describes, if it is a document. -/
def ofDocument? (cs : List Char) : Option Table := do
  let lines ← lines? (skipMark cs)
  (sections .root lines).foldlM addSection? []

end Table

end HdlLex.Toml
