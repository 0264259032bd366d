/-!
# Token — reserved words

The words that have a meaning of their own in the language. They are written
in lower case only.

* `Keyword`, `Keyword.spelling` — the reserved words, and how each is written.
* `Keyword.table`, `Keyword.ofWord?` — the texts to look for, and the reserved
  word for which one stands.
-/

namespace HdlLex

/-- The reserved words. -/
inductive Keyword where
  | ifWord | elseWord | elsif | forWord | fn | entity | bits | generic | always | pipeline
  | reg | sint | uint | signal
  deriving DecidableEq, Repr

namespace Keyword

/-- How the word is written. -/
def spelling : Keyword → List Char
  | .ifWord => ['i', 'f']
  | .elseWord => ['e', 'l', 's', 'e']
  | .elsif => ['e', 'l', 's', 'i', 'f']
  | .forWord => ['f', 'o', 'r']
  | .fn => ['f', 'n']
  | .entity => ['e', 'n', 't', 'i', 't', 'y']
  | .bits => ['b', 'i', 't', 's']
  | .generic => ['g', 'e', 'n', 'e', 'r', 'i', 'c']
  | .always => ['a', 'l', 'w', 'a', 'y', 's']
  | .pipeline => ['p', 'i', 'p', 'e', 'l', 'i', 'n', 'e']
  | .reg => ['r', 'e', 'g']
  | .sint => ['s', 'i', 'n', 't']
  | .uint => ['u', 'i', 'n', 't']
  | .signal => ['s', 'i', 'g', 'n', 'a', 'l']

/-- The reserved words under the texts that stand for them. -/
def table : List (List Char × Keyword) :=
  [(['i', 'f'], .ifWord), (['e', 'l', 's', 'e'], .elseWord), (['e', 'l', 's', 'i', 'f'], .elsif),
    (['f', 'o', 'r'], .forWord), (['f', 'n'], .fn), (['e', 'n', 't', 'i', 't', 'y'], .entity),
    (['b', 'i', 't', 's'], .bits), (['g', 'e', 'n', 'e', 'r', 'i', 'c'], .generic),
    (['a', 'l', 'w', 'a', 'y', 's'], .always),
    (['p', 'i', 'p', 'e', 'l', 'i', 'n', 'e'], .pipeline), (['r', 'e', 'g'], .reg),
    (['s', 'i', 'n', 't'], .sint), (['u', 'i', 'n', 't'], .uint),
    (['s', 'i', 'g', 'n', 'a', 'l'], .signal)]

/-- The reserved word for which this text stands. -/
def ofWord? (word : List Char) : Option Keyword := table.lookup word

/-- The name of a reserved word in listings. -/
def name : Keyword → String
  | .ifWord => "IF"
  | .elseWord => "ELSE"
  | .elsif => "ELSIF"
  | .forWord => "FOR"
  | .fn => "FN"
  | .entity => "ENTITY"
  | .bits => "BITS"
  | .generic => "GENERIC"
  | .always => "ALWAYS"
  | .pipeline => "PIPELINE"
  | .reg => "REG"
  | .sint => "SINT"
  | .uint => "UINT"
  | .signal => "SIGNAL"

/-! ## The table -/

/-- The table has every reserved word under its spelling. -/
theorem ofWord?_spelling (keyword : Keyword) : ofWord? keyword.spelling = some keyword := by
  cases keyword <;> decide

/-- It has no reserved word under another text. -/
theorem spelling_of_ofWord? {word : List Char} {keyword : Keyword}
    (h : ofWord? word = some keyword) : keyword.spelling = word := by
  have hAll : ∀ entry ∈ table, entry.2.spelling = entry.1 := by decide
  obtain ⟨before, after, hTable, -⟩ := List.lookup_eq_some_iff.1 h
  have hMem : (word, keyword) ∈ table := by
    rw [hTable]
    exact List.mem_append_right before List.mem_cons_self
  exact hAll (word, keyword) hMem

end Keyword

end HdlLex
