import HdlLex.Toml.Notation
import HdlLex.Toml.Record

/-!
# Toml — what a library can be relied on for

A library follows TOML 1.0, and keeps every member of a record under its key.
Only so much is asked of it as concerns plain documents: nothing is said of
other texts, nor of the wording of its failures.

* `Record.IsIn` — the record that a table holds, with defaults for the keys
  that it lacks.
* `Record.table` — the table with all members of a record.
* `Library.Conforms` — the two laws.
-/

namespace HdlLex.Toml

/-- The value under which a table keeps data of this kind. -/
def Kind.scalar : (kind : Kind) → kind.Data → Scalar
  | .truth, b => .boolean b
  | .word, n => .integer n.toNat
  | .choice names, index => .string (names.get index)

/-- Whether the alternatives can be told apart, and their names need no escapes. -/
def Kind.isPlain : Kind → Bool
  | .truth | .word => true
  | .choice names => decide names.Nodup && names.all (·.toList.all isBareKeyChar)

/-- Whether the key of a member needs no quotes and its kind no escapes. -/
def Member.isPlain (member : Member) : Bool :=
  member.key != "" && member.key.toList.all isBareKeyChar && member.kind.isPlain

/-- Whether members have distinct keys and can be written plainly. -/
def arePlain (members : List Member) : Bool :=
  members.all Member.isPlain && decide (members.map Member.key).Nodup

/-- The member has the value of its key, or its default where the table lacks the key. -/
def Member.IsIn (member : Member) (table : List (String × Scalar)) (data : member.kind.Data) :
    Prop :=
  match table.lookup member.key with
  | some value => value = member.kind.scalar data
  | none => data = member.default

/-- Every member of the record is in the table; the table may hold more. -/
def Record.IsIn (table : List (String × Scalar)) : {members : List Member} → Record members → Prop
  | [], _ => True
  | member :: _, (data, later) => member.IsIn table data ∧ later.IsIn table

/-- The table with all members of a record, in their order. -/
def Record.table : {members : List Member} → Record members → List (String × Scalar)
  | [], _ => []
  | member :: _, (data, later) => (member.key, member.kind.scalar data) :: later.table

/-- What a library can be relied on for. -/
structure Library.Conforms (library : Library) : Prop where
  /--
  A plain document is read, as TOML 1.0 says. Every member of the record has
  the value of its key, a member without one has its default, and keys that
  belong to no member are passed over.
  -/
  read_described : ∀ {members : List Member} {text : String} {table : List (String × Scalar)}
    {record : Record members}, arePlain members = true → Describes text table →
      record.IsIn table → library.read members text = .ok record
  /-- A record is written as a plain document, with all its members in their order. -/
  write_describes : ∀ {members : List Member} (record : Record members), arePlain members = true →
    ∃ text, library.write members record = .ok text ∧ Describes text record.table

end HdlLex.Toml
