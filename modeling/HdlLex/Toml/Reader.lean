import HdlLex.Toml.Date
import HdlLex.Toml.Notation
import HdlLex.Toml.Text
import HdlLex.Toml.Value

/-!
# Toml — reading keys and values

Arrays may go on over several lines and end with a comma; tables between
braces stay on one line and may not. Both may be nested in each other only so
deeply.

* `keyPath?` — dotted keys.
* `scalar?` — a value that holds no other.
* `value?` — any value, nested up to a given depth.
-/

namespace HdlLex.Toml

/-- Neither keys may have so many parts nor values lie in each other so deeply. -/
def nestingLimit : Nat := 80

/-! ## Keys -/

/-- One key: quoted on one line, or a run of letters, digits, underscores and hyphens. -/
def simpleKey? : List Char → Option (String × List Char)
  | '"' :: cs => (basic? cs).map fun (text, rest) => (String.ofList text, rest)
  | '\'' :: cs => (literal? cs).map fun (text, rest) => (String.ofList text, rest)
  | cs =>
    let run := cs.takeWhile isBareKeyChar
    if run.isEmpty then none else some (String.ofList run, cs.drop run.length)

/-- Keys joined by points, with blanks around each. -/
def keys? (cs : List Char) : Option (List String × List Char) := do
  let (key, behind) ← simpleKey? (skipBlanks cs)
  match skipBlanks behind with
  | '.' :: more =>
    if more.length < cs.length then do
      let (keys, rest) ← keys? more
      return (key :: keys, rest)
    else none
  | rest => return ([key], rest)
termination_by cs.length

/-- The path and the last key of dotted keys. -/
def keyPath? (cs : List Char) : Option ((List String × String) × List Char) := do
  let (keys, rest) ← keys? cs
  let key ← keys.getLast?
  if keys.length < nestingLimit then return ((keys.dropLast, key), rest) else none

/-- A path, an equals sign and a value, up to the end of the value. -/
def entry? (value? : List Char → Option (Value × List Char)) (cs : List Char) :
    Option (Entry × List Char) := do
  let ((path, key), cs) ← keyPath? cs
  let cs ← dropText? ['='] cs
  let (value, cs) ← value? (skipBlanks cs)
  return (⟨path, key, value⟩, cs)

/-! ## Values without parts -/

/-- A truth value. -/
def boolean? (cs : List Char) : Option (Bool × List Char) :=
  match dropText? ['t', 'r', 'u', 'e'] cs with
  | some rest => some (true, rest)
  | none => (dropText? ['f', 'a', 'l', 's', 'e'] cs).map fun rest => (false, rest)

/-- A number, a date or a time; where several fit, the one that says more. -/
def quantity? (cs : List Char) : Option (Value × List Char) :=
  match dateTime? cs with
  | some rest => some (.dateTime, rest)
  | none =>
    match float? cs with
    | some rest => some (.float, rest)
    | none => (integer? cs).map fun (n, rest) => (.integer n, rest)

/-- A value that holds no other. -/
def scalar? (cs : List Char) : Option (Value × List Char) :=
  match string? cs with
  | some (text, rest) => some (.string (String.ofList text), rest)
  | none =>
    match boolean? cs with
    | some (b, rest) => some (.boolean b, rest)
    | none => quantity? cs

/-! ## Values with parts -/

/-- The items of an array up to its closing bracket. -/
def items? (value? : List Char → Option (Value × List Char)) (cs : List Char) :
    Option (List Value × List Char) :=
  match skipGap false cs with
  | ']' :: rest => some ([], rest)
  | start => do
    let (item, behind) ← value? start
    match skipGap false behind with
    | ']' :: rest => return ([item], rest)
    | ',' :: more =>
      if more.length < cs.length then do
        let (items, rest) ← items? value? more
        return (item :: items, rest)
      else none
    | _ => none
termination_by cs.length

/-- The entries of a table between braces, at least one, up to the closing brace. -/
def entries? (value? : List Char → Option (Value × List Char)) (cs : List Char) :
    Option (List Entry × List Char) := do
  let (entry, behind) ← entry? value? cs
  match skipBlanks behind with
  | '\x7d' :: rest => return ([entry], rest)
  | ',' :: more =>
    if more.length < cs.length then do
      let (entries, rest) ← entries? value? more
      return (entry :: entries, rest)
    else none
  | _ => none
termination_by cs.length

/-- The table whose opening brace stands before `cs`. -/
def inlineTable? (value? : List Char → Option (Value × List Char)) (cs : List Char) :
    Option (Value × List Char) :=
  match skipBlanks cs with
  | '\x7d' :: rest => some (.table .inline [], rest)
  | start => do
    let (entries, rest) ← entries? value? start
    let table ← Table.insertAll? entries []
    return (.table .inline table, rest)

/-- A value in which others lie at most `depth` deep. -/
def value? : (depth : Nat) → List Char → Option (Value × List Char)
  | 0, cs => scalar? cs
  | depth + 1, cs =>
    match cs with
    | '[' :: rest => (items? (value? depth) rest).map fun (items, rest) => (.array items, rest)
    | '\x7b' :: rest => inlineTable? (value? depth) rest
    | _ => scalar? cs

end HdlLex.Toml
