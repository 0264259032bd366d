/-!
# Toml — records and the libraries that keep them

A record is kept in a TOML document by a library that is not part of this
development. The library is told the members of the record, and has two
functions: one reads a record from a text, the other one writes it.

* `Kind`, `Member` — what a member of a record holds, and what is said of one.
* `Record` — the data of all members.
* `Library` — the two functions, either of which may fail.
-/

namespace HdlLex.Toml

/-- What a member of a record holds. -/
inductive Kind where
  /-- A truth value. -/
  | truth
  /-- A number of thirty-two bits without sign. -/
  | word
  /-- One of several alternatives, which documents call by these names. -/
  | choice (names : List String)
  deriving DecidableEq, Repr

/-- The data of a member; alternatives are numbered in the order of their names. -/
def Kind.Data : Kind → Type
  | .truth => Bool
  | .word => UInt32
  | .choice names => Fin names.length

/-- A member of a record. -/
structure Member where
  key : String
  kind : Kind
  /-- What the member holds where a document does not mention its key. -/
  default : kind.Data

/-- The data of all members, in their order. -/
def Record : List Member → Type
  | [] => Unit
  | member :: members => member.kind.Data × Record members

/-- A library that keeps records in documents; a failure is a text that says why. -/
structure Library where
  /-- The record with these members that a text describes. -/
  read : (members : List Member) → String → Except String (Record members)
  /-- A text that describes the record with these members. -/
  write : (members : List Member) → Record members → Except String String

end HdlLex.Toml
