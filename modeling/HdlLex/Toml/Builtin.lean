import HdlLex.Toml.Document
import HdlLex.Toml.Laws

/-!
# Toml — the built-in library

Any library that keeps the laws will do, and nothing is stated of this one but
that it does. It is there to run with: it reads documents of all kinds and
writes plain ones. Its failures do not go into details.

* `Member.ofTable?`, `Record.ofTable?` — the record that the table of a
  document holds.
* `Record.text` — the plain document of a record.
* `builtin` — the library.
-/

namespace HdlLex.Toml

/-! ## Reading -/

/-- Whether a value holds parts, and none of them. -/
def isEmptyCollection : Value → Bool
  | .array items => items.isEmpty
  | .table _ entries => entries.isEmpty
  | .tables elements => elements.isEmpty
  | _ => false

/--
The alternative that a value names: as a text, or as the only key of a table,
with nothing under it.
-/
def choice? (names : List String) : Value → Option (Fin names.length)
  | .string name => names.finIdxOf? name
  | .table _ [(name, payload)] =>
    if isEmptyCollection payload then names.finIdxOf? name else none
  | _ => none

/-- The data of a value of the right form. -/
def Kind.ofValue? : (kind : Kind) → Value → Option kind.Data
  | .truth, .boolean b => some b
  | .word, .integer n =>
    if 0 ≤ n && n < Int.pow 2 32 then some (UInt32.ofNat n.toNat) else none
  | .choice names, value => choice? names value
  | _, _ => none

/-- The data of a member, or its default where the table does not have its key. -/
def Member.ofTable? (member : Member) (table : Table) : Option member.kind.Data :=
  match table.get? member.key with
  | none => some member.default
  | some value => member.kind.ofValue? value

/-- The record that a table holds. -/
def Record.ofTable? (table : Table) : (members : List Member) → Option (Record members)
  | [] => some ()
  | member :: members => do
    let data ← member.ofTable? table
    let later ← ofTable? table members
    return (data, later)

/-! ## Writing -/

/-- How data of a kind is written. -/
def Kind.text : (kind : Kind) → kind.Data → String
  | .truth, b => toString (show Bool from b)
  | .word, n => toString (UInt32.toNat n)
  | .choice names, index => "\"" ++ names.get index ++ "\""

/-- A document with a line for every member. -/
def Record.text : {members : List Member} → Record members → String
  | [], _ => ""
  | member :: _, (data, later) =>
    member.key ++ " = " ++ member.kind.text data ++ "\n" ++ later.text

/-! ## The library -/

/-- The built-in library. -/
def builtin : Library where
  read members text :=
    match (Table.ofDocument? text.toList).bind (Record.ofTable? · members) with
    | none => .error "the text does not describe such a record"
    | some record => .ok record
  write members record :=
    if arePlain members then .ok record.text
    else .error "a key or a name cannot be written plainly"

end HdlLex.Toml
