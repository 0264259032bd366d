/-!
# Token — operators

Arithmetic, bitwise, shifting, comparing, logical and assigning operators.
Many begin with another one, so the order in which they are tried matters.

* `Operator`, `Operator.spelling` — the operators, and how each is written.
* `Operator.table`, `Operator.startOf?` — the texts to look for, and the longest
  of them with which a text begins.
-/

namespace HdlLex

/-- The operators. -/
inductive Operator where
  | add | sub | mul | div | mod
  | bitAnd | bitOr | bitXor | bitNot | shiftLeft | shiftRight
  | equal | notEqual | less | greater | lessEqual | greaterEqual
  | and | or | xor | not
  | assign | addAssign | subAssign | mulAssign | divAssign | modAssign
  | shiftLeftAssign | shiftRightAssign
  deriving DecidableEq, Repr

namespace Operator

/-- The operators under the texts that stand for them, longer texts before shorter ones. -/
def table : List (List Char × Operator) :=
  [(['<', '<', '='], .shiftLeftAssign), (['>', '>', '='], .shiftRightAssign),
    (['<', '<'], .shiftLeft), (['>', '>'], .shiftRight), (['<', '='], .lessEqual),
    (['>', '='], .greaterEqual), (['=', '='], .equal), (['!', '='], .notEqual), (['&', '&'], .and),
    (['|', '|'], .or), (['^', '^'], .xor), (['+', '='], .addAssign), (['-', '='], .subAssign),
    (['*', '='], .mulAssign), (['/', '='], .divAssign), (['%', '='], .modAssign), (['+'], .add),
    (['-'], .sub), (['*'], .mul), (['/'], .div), (['%'], .mod), (['&'], .bitAnd), (['|'], .bitOr),
    (['^'], .bitXor), (['~'], .bitNot), (['<'], .less), (['>'], .greater), (['!'], .not),
    (['='], .assign)]

/-- How the operator is written. -/
def spelling : Operator → List Char
  | .add => ['+']
  | .sub => ['-']
  | .mul => ['*']
  | .div => ['/']
  | .mod => ['%']
  | .bitAnd => ['&']
  | .bitOr => ['|']
  | .bitXor => ['^']
  | .bitNot => ['~']
  | .shiftLeft => ['<', '<']
  | .shiftRight => ['>', '>']
  | .equal => ['=', '=']
  | .notEqual => ['!', '=']
  | .less => ['<']
  | .greater => ['>']
  | .lessEqual => ['<', '=']
  | .greaterEqual => ['>', '=']
  | .and => ['&', '&']
  | .or => ['|', '|']
  | .xor => ['^', '^']
  | .not => ['!']
  | .assign => ['=']
  | .addAssign => ['+', '=']
  | .subAssign => ['-', '=']
  | .mulAssign => ['*', '=']
  | .divAssign => ['/', '=']
  | .modAssign => ['%', '=']
  | .shiftLeftAssign => ['<', '<', '=']
  | .shiftRightAssign => ['>', '>', '=']

/-- Whether the operator stores its result in its left operand. -/
def isAssignment : Operator → Bool
  | .assign | .addAssign | .subAssign | .mulAssign | .divAssign | .modAssign
  | .shiftLeftAssign | .shiftRightAssign => true
  | _ => false

/-- The entry of the longest operator with which the text begins. -/
def startOf? (cs : List Char) : Option (List Char × Operator) :=
  table.find? fun entry => entry.1.isPrefixOf cs

/-- The name of an operator in listings. -/
def name : Operator → String
  | .add => "OP_ADD"
  | .sub => "OP_SUB"
  | .mul => "OP_MUL"
  | .div => "OP_DIV"
  | .mod => "OP_MOD"
  | .bitAnd => "OP_BITAND"
  | .bitOr => "OP_BITOR"
  | .bitXor => "OP_BITXOR"
  | .bitNot => "OP_BITNOT"
  | .shiftLeft => "OP_LSHIFT"
  | .shiftRight => "OP_RSHIFT"
  | .equal => "OP_EQ"
  | .notEqual => "OP_NEQ"
  | .less => "OP_LT"
  | .greater => "OP_GT"
  | .lessEqual => "OP_LTE"
  | .greaterEqual => "OP_GTE"
  | .and => "OP_AND"
  | .or => "OP_OR"
  | .xor => "OP_XOR"
  | .not => "OP_NOT"
  | .assign => "OP_ASSIGN"
  | .addAssign => "OP_ADD_ASSIGN"
  | .subAssign => "OP_SUB_ASSIGN"
  | .mulAssign => "OP_MUL_ASSIGN"
  | .divAssign => "OP_DIV_ASSIGN"
  | .modAssign => "OP_MOD_ASSIGN"
  | .shiftLeftAssign => "OP_LSHIFT_ASSIGN"
  | .shiftRightAssign => "OP_RSHIFT_ASSIGN"

/-! ## The table -/

/-- The table has every operator under its spelling. -/
theorem mem_table (operator : Operator) : (operator.spelling, operator) ∈ table := by
  cases operator <;> decide

/-- It has no operator under another text. -/
theorem spelling_of_mem_table {text : List Char} {operator : Operator}
    (h : (text, operator) ∈ table) : operator.spelling = text := by
  have hAll : ∀ entry ∈ table, entry.2.spelling = entry.1 := by decide
  exact hAll (text, operator) h

theorem table_sorted : table.Pairwise fun a b => b.1.length ≤ a.1.length := by
  decide

theorem ne_nil_of_mem_table {entry : List Char × Operator} (h : entry ∈ table) :
    entry.1 ≠ [] := by
  have hAll : ∀ entry ∈ table, entry.1 ≠ [] := by decide
  exact hAll entry h

/-- What is found is an operator with which the text begins. -/
theorem mem_and_isPrefix_of_startOf? {cs : List Char} {entry : List Char × Operator}
    (h : startOf? cs = some entry) : entry ∈ table ∧ entry.1 <+: cs := by
  rw [startOf?] at h
  have hFront := List.find?_some h
  exact ⟨List.mem_of_find?_eq_some h, List.isPrefixOf_iff_prefix.1 hFront⟩

end Operator

end HdlLex
