import HdlLex.Lexeme.Front
import HdlLex.Proofs.Alphabet
import Mathlib.Data.List.Nodup

/-!
# Grammar — the lexemes of the language

Which texts are lexemes of which kind, and what they stand for, without a
word on how they are found in a longer text.

* `Lexeme.IsWord`, `IsWordKind` — words, and the kind of one.
* `Lexeme.IsDigits`, `IsFraction`, `IsExponent`, `IsNumber` — numbers.
* `Lexeme.escapes`, `Encodes` — what stands between two quotes.
* `Lexeme.Valid` — the lexemes; `InLanguage` — those of one kind.

Main results, on words and symbols:

* `Lexeme.ofWord_eq_iff` — the kind of a word is the one that the grammar gives it.
* `Lexeme.word_append`, `length_le_word` — the longest word is taken.
* `Lexeme.symbol?_operator_append`, `length_le_symbol?` — the longest symbol is
  taken.
-/

namespace HdlLex.Lexeme

-- ---------------------------------------------------------------------------
-- Words
-- ---------------------------------------------------------------------------

/-- A character that begins a word, and any number of characters that go on with it. -/
def IsWord (unicode : Bool) (cs : List Char) : Prop :=
  ∃ c rest, cs = c :: rest ∧ isWordStart unicode c = true ∧ ∀ d ∈ rest, isWordPart unicode d = true

/-- The kind of a word: a reserved word, a truth value, or a name if it is neither. -/
def IsWordKind : TokenKind → List Char → Prop
  | .keyword keyword, cs => cs = keyword.spelling
  | .boolean, cs => cs = ['t', 'r', 'u', 'e'] ∨ cs = ['f', 'a', 'l', 's', 'e']
  | .identifier, cs => (∀ keyword : Keyword, cs ≠ keyword.spelling) ∧
      cs ≠ ['t', 'r', 'u', 'e'] ∧ cs ≠ ['f', 'a', 'l', 's', 'e']
  | _, _ => False

-- ---------------------------------------------------------------------------
-- Numbers
-- ---------------------------------------------------------------------------

/-- One or more digits of a base. -/
def IsDigits (radix : Radix) (cs : List Char) : Prop :=
  cs ≠ [] ∧ ∀ c ∈ cs, c ∈ radix.numerals

/-- A point and one or more digits. -/
def IsFraction (cs : List Char) : Prop :=
  ∃ ds, cs = '.' :: ds ∧ IsDigits .decimal ds

/-- A letter `e` in either case, perhaps a sign, and one or more digits. -/
def IsExponent (cs : List Char) : Prop :=
  ∃ e sign ds, cs = e :: (sign ++ ds) ∧ e ∈ ['e', 'E'] ∧ sign ∈ [[], ['+'], ['-']] ∧
    IsDigits .decimal ds

/-- The numbers of each kind. -/
inductive IsNumber : TokenKind → List Char → Prop
  | binary {m : Char} {ds : List Char} :
      m ∈ ['b', 'B'] → IsDigits .binary ds → IsNumber .binary ('0' :: m :: ds)
  | hex {m : Char} {ds : List Char} :
      m ∈ ['x', 'X'] → IsDigits .hexadecimal ds → IsNumber .hex ('0' :: m :: ds)
  | number {ds : List Char} : IsDigits .decimal ds → IsNumber .number ds
  /-- Digits with a fraction, with an exponent or with both. -/
  | float {whole part power : List Char} :
      IsDigits .decimal whole → (part = [] ∨ IsFraction part) → (power = [] ∨ IsExponent power) →
      (part ≠ [] ∨ power ≠ []) → IsNumber .float (whole ++ (part ++ power))

-- ---------------------------------------------------------------------------
-- Literals between quotes
-- ---------------------------------------------------------------------------

/-- The characters that may follow a backslash, and what the two stand for. -/
def escapes : List (Char × Char) :=
  [('n', '\n'), ('t', '\t'), ('r', '\r'), ('0', '\x00'), ('\\', '\\'), ('"', '"'), ('\'', '\'')]

/-- The characters `written` between two quotes stand for `meaning`. -/
inductive Encodes (quote : Char) : (meaning written : List Char) → Prop
  | nil : Encodes quote [] []
  | raw {c : Char} {meaning written : List Char} :
      c ≠ quote → c ≠ '\n' → c ≠ '\\' → Encodes quote meaning written →
      Encodes quote (c :: meaning) (c :: written)
  | escape {e x : Char} {meaning written : List Char} :
      (e, x) ∈ escapes → Encodes quote meaning written →
      Encodes quote (x :: meaning) ('\\' :: e :: written)

-- ---------------------------------------------------------------------------
-- Lexemes
-- ---------------------------------------------------------------------------

/-- The lexemes of the language; `unicode` admits words beyond ASCII. -/
inductive Valid (unicode : Bool) : Lexeme → Prop
  | word {kind : TokenKind} {cs : List Char} :
      IsWord unicode cs → IsWordKind kind cs → Valid unicode (plain kind cs)
  | number {kind : TokenKind} {cs : List Char} :
      IsNumber kind cs → Valid unicode (plain kind cs)
  | string {meaning cs : List Char} :
      Encodes '"' meaning cs → Valid unicode ⟨.string, '"' :: (cs ++ ['"']), meaning⟩
  | char {x : Char} {cs : List Char} :
      Encodes '\'' [x] cs → Valid unicode ⟨.char, '\'' :: (cs ++ ['\'']), [x]⟩
  | operator (operator : Operator) : Valid unicode (plain (.operator operator) operator.spelling)
  | delimiter (delimiter : Delimiter) :
      Valid unicode (plain (.delimiter delimiter) [delimiter.symbol])

/-- The texts that are lexemes of this kind. -/
def InLanguage (unicode : Bool) (kind : TokenKind) (cs : List Char) : Prop :=
  ∃ meaning, Valid unicode ⟨kind, cs, meaning⟩

theorem Valid.kind_ne {unicode : Bool} {lexeme : Lexeme} (h : Valid unicode lexeme) :
    lexeme.kind ≠ .unknown ∧ lexeme.kind ≠ .eof := by
  cases h with
  | @word kind _ _ hKind => cases kind <;> simp_all [IsWordKind, plain]
  | number hNumber => cases hNumber <;> simp [plain]
  | string => simp
  | char => simp
  | operator => simp [plain]
  | delimiter => simp [plain]

-- ---------------------------------------------------------------------------
-- The kind of a word
-- ---------------------------------------------------------------------------

theorem ofWord?_eq_none_iff {cs : List Char} :
    Keyword.ofWord? cs = none ↔ ∀ keyword : Keyword, cs ≠ keyword.spelling := by
  constructor
  · rintro h keyword rfl
    rw [Keyword.ofWord?_spelling] at h
    cases h
  · intro h
    cases hFound : Keyword.ofWord? cs with
    | none => rfl
    | some keyword => exact absurd (Keyword.spelling_of_ofWord? hFound).symm (h keyword)

/-- The kind of a word is the one that the grammar gives it. -/
theorem ofWord_eq_iff {cs : List Char} {kind : TokenKind} :
    TokenKind.ofWord cs = kind ↔ IsWordKind kind cs := by
  unfold TokenKind.ofWord
  cases hFound : Keyword.ofWord? cs with
  | some reserved =>
    obtain rfl := Keyword.spelling_of_ofWord? hFound
    constructor
    · rintro rfl
      rfl
    · intro hKind
      cases kind with
      | keyword keyword =>
        have hSame : Keyword.ofWord? reserved.spelling = some keyword := by
          rw [show reserved.spelling = keyword.spelling from hKind, Keyword.ofWord?_spelling]
        rw [hFound] at hSame
        cases hSame
        rfl
      | boolean =>
        -- no reserved word is a truth value
        have hNone : Keyword.ofWord? reserved.spelling = none := by
          rcases hKind with hTrue | hFalse
          · rw [hTrue]
            decide
          · rw [hFalse]
            decide
        rw [hFound] at hNone
        cases hNone
      | identifier => exact absurd rfl (hKind.1 reserved)
      | _ => exact hKind.elim
  | none =>
    have hNot := ofWord?_eq_none_iff.1 hFound
    by_cases hTrue : cs = ['t', 'r', 'u', 'e']
    · subst hTrue
      cases kind <;> simp [booleanOfWord?, IsWordKind, hNot]
    · by_cases hFalse : cs = ['f', 'a', 'l', 's', 'e']
      · subst hFalse
        cases kind <;> simp [booleanOfWord?, IsWordKind, hNot]
      · cases kind <;> simp [booleanOfWord?, IsWordKind, hNot, hTrue, hFalse]

theorem isWordPart_of_isWord {unicode : Bool} {cs : List Char} (h : IsWord unicode cs) :
    ∀ c ∈ cs, isWordPart unicode c = true := by
  obtain ⟨c, rest, rfl, hStart, hRest⟩ := h
  intro d hMem
  rcases List.mem_cons.1 hMem with rfl | hMem
  · exact isWordPart_of_isWordStart hStart
  · exact hRest d hMem

theorem word_valid {unicode : Bool} {c : Char} {cs : List Char}
    (h : isWordStart unicode c = true) : Valid unicode (word unicode (c :: cs)) := by
  refine .word ⟨c, cs.takeWhile (isWordPart unicode), ?_, h, ?_⟩ (ofWord_eq_iff.1 rfl)
  · rw [List.takeWhile_cons, if_pos (isWordPart_of_isWordStart h)]
  · intro d hMem
    exact List.mem_takeWhile_imp hMem

/-- A word is taken whole, and nothing behind it. -/
theorem word_append {unicode : Bool} {kind : TokenKind} {cs ahead : List Char}
    (hWord : IsWord unicode cs) (hKind : IsWordKind kind cs)
    (hStop : StopsBefore (isWordPart unicode) ahead) :
    word unicode (cs ++ ahead) = plain kind cs := by
  unfold word
  rw [takeWhile_append_of_stop (isWordPart_of_isWord hWord) hStop]
  show plain (TokenKind.ofWord cs) cs = plain kind cs
  rw [ofWord_eq_iff.2 hKind]

/-- No word at the front of a text is longer than the one taken. -/
theorem length_le_word {unicode : Bool} {cs text : List Char} (hWord : IsWord unicode cs)
    (hFront : cs <+: text) : cs.length ≤ (word unicode text).written.length :=
  length_le_takeWhile (isWordPart_of_isWord hWord) hFront

-- ---------------------------------------------------------------------------
-- Symbols
-- ---------------------------------------------------------------------------

theorem spelling_injective {a b : Operator} (h : a.spelling = b.spelling) : a = b := by
  have hDistinct : (Operator.table.map Prod.fst).Nodup := by decide
  have hEntry := List.inj_on_of_nodup_map hDistinct (Operator.mem_table a) (Operator.mem_table b) h
  exact (Prod.mk.inj hEntry).2

/-- Of the operators at the front of a text the longest is found. -/
theorem length_le_of_startOf? {text : List Char} {taken : List Char × Operator} {other : Operator}
    (h : Operator.startOf? text = some taken) (hFront : other.spelling <+: text) :
    other.spelling.length ≤ taken.1.length := by
  obtain ⟨-, before, behind, hSplit, hBefore⟩ := List.find?_eq_some_iff_append.1 h
  have hMem : (other.spelling, other) ∈ before ++ taken :: behind :=
    hSplit ▸ Operator.mem_table other
  rcases List.mem_append.1 hMem with hMem | hMem
  · -- an operator before the one taken is not at the front
    have hNot := hBefore _ hMem
    rw [List.isPrefixOf_iff_prefix.2 hFront] at hNot
    cases hNot
  · rcases List.mem_cons.1 hMem with rfl | hMem
    · exact Nat.le_refl _
    · have hSorted := Operator.table_sorted
      rw [hSplit, List.pairwise_append] at hSorted
      exact (List.pairwise_cons.1 hSorted.2.1).1 _ hMem

theorem startOf?_eq_none_iff {text : List Char} :
    Operator.startOf? text = none ↔ ∀ operator : Operator, ¬ operator.spelling <+: text := by
  unfold Operator.startOf?
  rw [List.find?_eq_none]
  constructor
  · intro h operator hFront
    exact h _ (Operator.mem_table operator) (List.isPrefixOf_iff_prefix.2 hFront)
  · rintro h ⟨spelling, operator⟩ hMem hFront
    obtain rfl := Operator.spelling_of_mem_table hMem
    exact h operator (List.isPrefixOf_iff_prefix.1 hFront)

theorem isOperatorStart_of_mem_spelling (operator : Operator) :
    ∀ c ∈ operator.spelling, isOperatorStart c = true := by
  have hAll : operator.spelling.all isOperatorStart = true := by
    cases operator <;> decide
  exact List.all_eq_true.1 hAll

theorem lineFeed_not_mem_spelling (operator : Operator) : '\n' ∉ operator.spelling := by
  intro hMem
  have hStart := isOperatorStart_of_mem_spelling operator '\n' hMem
  exact absurd hStart (by decide)

theorem isOperatorStart_symbol (delimiter : Delimiter) :
    isOperatorStart delimiter.symbol = false := by
  cases delimiter <;> decide

/-- A text that begins with an operator begins with a character of operators. -/
theorem operator?_eq_none_iff {cs : List Char} :
    operator? cs = none ↔ ∀ operator : Operator, ¬ operator.spelling <+: cs := by
  rw [operator?]
  by_cases hStart : cs.head?.any isOperatorStart = true
  · rw [if_pos hStart, Option.map_eq_none_iff, startOf?_eq_none_iff]
  · rw [if_neg hStart]
    refine iff_of_true rfl fun operator hFront => hStart ?_
    obtain ⟨ahead, rfl⟩ := hFront
    have hAll := isOperatorStart_of_mem_spelling operator
    cases hSpelling : operator.spelling with
    | nil => exact absurd hSpelling (Operator.ne_nil_of_mem_table (Operator.mem_table operator))
    | cons c rest =>
      rw [hSpelling] at hAll
      exact hAll c List.mem_cons_self

/-- An operator is taken whole, and nothing behind it. -/
theorem operator?_append {operator : Operator} {ahead : List Char}
    (hStop : StopsBefore isOperatorStart ahead) : operator? (operator.spelling ++ ahead) =
      some (plain (.operator operator) operator.spelling) := by
  cases hTaken : operator? (operator.spelling ++ ahead) with
  | none =>
    exact absurd (List.prefix_append _ _) (operator?_eq_none_iff.1 hTaken operator)
  | some lexeme =>
    obtain ⟨taken, rfl, hStart⟩ := operator?_eq_some hTaken
    have hLonger := length_le_of_startOf? hStart (List.prefix_append operator.spelling ahead)
    have hFront := (Operator.mem_and_isPrefix_of_startOf? hStart).2
    -- what is taken lies in the run of operator characters, which is the operator
    have hShorter := length_le_takeWhile (isOperatorStart_of_mem_spelling taken) hFront
    rw [takeWhile_append_of_stop (isOperatorStart_of_mem_spelling operator) hStop] at hShorter
    have hSame : taken.spelling = operator.spelling := by
      have hPrefix := List.prefix_of_prefix_length_le hFront
        (List.prefix_append operator.spelling ahead) hShorter
      exact hPrefix.eq_of_length (Nat.le_antisymm hShorter hLonger)
    rw [spelling_injective hSame]

theorem operator?_symbol (delimiter : Delimiter) (ahead : List Char) :
    operator? (delimiter.symbol :: ahead) = none := by
  rw [operator?, if_neg]
  rw [List.head?_cons, Option.any_some, isOperatorStart_symbol]
  exact Bool.false_ne_true

theorem symbol?_valid (unicode : Bool) {cs : List Char} {lexeme : Lexeme}
    (h : symbol? cs = some lexeme) : Valid unicode lexeme := by
  rcases Option.or_eq_some_iff.1 h with hOperator | ⟨-, hDelimiter⟩
  · obtain ⟨operator, rfl, -⟩ := operator?_eq_some hOperator
    exact .operator operator
  · obtain ⟨delimiter, -, -, rfl⟩ := delimiter?_eq_some hDelimiter
    exact .delimiter delimiter

theorem symbol?_operator_append (operator : Operator) {ahead : List Char}
    (hStop : StopsBefore isOperatorStart ahead) :
    symbol? (operator.spelling ++ ahead) = some (plain (.operator operator) operator.spelling) := by
  rw [symbol?, operator?_append hStop, Option.some_or]

theorem symbol?_delimiter_append (delimiter : Delimiter) (ahead : List Char) :
    symbol? ([delimiter.symbol] ++ ahead) =
      some (plain (.delimiter delimiter) [delimiter.symbol]) := by
  rw [symbol?, List.singleton_append, operator?_symbol, Option.none_or, delimiter?,
    Delimiter.ofChar?_symbol, Option.map_some]

/-- The operators and delimiters. -/
def IsSymbol (cs : List Char) : Prop :=
  (∃ operator : Operator, cs = operator.spelling) ∨
    ∃ delimiter : Delimiter, cs = [delimiter.symbol]

/-- No symbol at the front of a text is longer than the one taken. -/
theorem length_le_symbol? {cs text : List Char} {lexeme : Lexeme} (hSymbol : IsSymbol cs)
    (hFront : cs <+: text) (h : symbol? text = some lexeme) :
    cs.length ≤ lexeme.written.length := by
  rcases hSymbol with ⟨operator, rfl⟩ | ⟨delimiter, rfl⟩
  · rcases Option.or_eq_some_iff.1 h with hOperator | ⟨hNone, -⟩
    · obtain ⟨taken, rfl, hStart⟩ := operator?_eq_some hOperator
      exact length_le_of_startOf? hStart hFront
    · exact absurd hFront (operator?_eq_none_iff.1 hNone operator)
  · exact List.length_pos_iff.2 (symbol?_written_ne_nil h)

/-- Where no symbol is taken none stands at the front. -/
theorem not_isPrefix_of_symbol?_eq_none {cs text : List Char} (hSymbol : IsSymbol cs)
    (h : symbol? text = none) : ¬ cs <+: text := by
  intro hFront
  rcases hSymbol with ⟨operator, rfl⟩ | ⟨delimiter, rfl⟩
  · obtain ⟨hNone, -⟩ := Option.or_eq_none_iff.1 h
    exact operator?_eq_none_iff.1 hNone operator hFront
  · obtain ⟨ahead, rfl⟩ := hFront
    rw [symbol?_delimiter_append] at h
    cases h

end HdlLex.Lexeme
