/-!
# Toml — values and tables

A document is a table of values. Tables remember how they came about, because
that decides who may add to them: a table written out in one place is closed,
and one that only dotted keys or the headers of its parts mention is open to
more of the same.

* `Origin`, `Value`, `Table` — the data.
* `Table.put` — a table with one key set.
* `Table.insert?` — a new value below dotted keys.
* `Table.below?` — a change below the path of a header.
-/

namespace HdlLex.Toml

/-- How a table came about. -/
inductive Origin where
  /-- Written between braces. -/
  | inline
  /-- Opened by a header of its own. -/
  | header
  /-- Named on the way to a table with a header. -/
  | implied
  /-- Named by dotted keys. -/
  | dotted
  deriving DecidableEq, Repr

/-- A value of a document. Nothing is kept of floats and dates but that they are. -/
inductive Value where
  | string (text : String)
  | integer (n : Int)
  | boolean (b : Bool)
  | float
  | dateTime
  | array (items : List Value)
  | table (origin : Origin) (entries : List (String × Value))
  /-- Tables under repeated headers, the latest first. -/
  | tables (elements : List (List (String × Value)))

/-- Keys with their values, in the order in which they were set. -/
abbrev Table := List (String × Value)

namespace Table

/-- The value of a key. -/
def get? (table : Table) (key : String) : Option Value := List.lookup key table

/-- The table with a key set, in its old place if it has one. -/
def put (key : String) (value : Value) : Table → Table
  | [] => [(key, value)]
  | (k, v) :: rest => if k = key then (k, value) :: rest else (k, v) :: put key value rest

/--
The table with a new value below dotted keys. Tables on the way must not be
closed, and the one that takes the value must be named by dotted keys alone.
-/
def insert? (key : String) (value : Value) : List String → Table → Option Table
  | [], table => if (table.get? key).isSome then none else some (table ++ [(key, value)])
  | step :: path, table =>
    match table.get? step with
    | none => do
      let inner ← insert? key value path []
      return table.put step (.table .dotted inner)
    | some (.table origin inner) =>
      if origin = .dotted || (origin = .implied && !path.isEmpty) then do
        let inner ← insert? key value path inner
        return table.put step (.table origin inner)
      else none
    | some (.tables (latest :: earlier)) =>
      -- a table under a repeated header takes no value by dotted keys
      if path.isEmpty then none
      else do
        let latest ← insert? key value path latest
        return table.put step (.tables (latest :: earlier))
    | some _ => none

/--
The table with a change made below the path of a header. What the path names
for the first time is a table implied by it; of repeated tables the latest is
meant.
-/
def below? (change : Table → Option Table) : List String → Table → Option Table
  | [], table => change table
  | step :: path, table =>
    match table.get? step with
    | none => do
      let inner ← below? change path []
      return table.put step (.table .implied inner)
    | some (.table .inline _) => none
    | some (.table origin inner) => do
      let inner ← below? change path inner
      return table.put step (.table origin inner)
    | some (.tables (latest :: earlier)) => do
      let latest ← below? change path latest
      return table.put step (.tables (latest :: earlier))
    | some _ => none

end Table

/-- An assignment to a key below other keys. -/
structure Entry where
  path : List String
  key : String
  value : Value

namespace Table

/-- The table with all entries made one after another. -/
def insertAll? (entries : List Entry) (table : Table) : Option Table :=
  entries.foldlM (fun table entry => table.insert? entry.key entry.value entry.path) table

end Table

end HdlLex.Toml
