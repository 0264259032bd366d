import HdlLex.Proofs.FrontGrammar
import HdlLex.Proofs.GapGrammar

/-!
# Bounds — texts that no lexeme reaches into

Words, numbers and symbols look ahead: a point needs a digit behind it, an
exponent perhaps a sign and a digit, and of the operators the longest is
taken. None of them looks past white space or a slash, with which every gap
begins. So in front of such a text the front is read as if it ended there,
and only what stands between quotes may go on.

* `Lexeme.Bounds` — texts into which nothing but a literal reaches.

Main results:

* `Lexeme.number_bounds`, `Lexeme.symbol?_bounds` — numbers and symbols in
  front of such a text.
* `Lexeme.front_bounds_iff` — so it is for every lexeme that ends before it.
* `Trivia.IsGap.bounds` — gaps are such texts.
-/

namespace HdlLex

/-- Behind what stands at its front, a text goes on as before. -/
theorem drop_append_of_isPrefix {xs cs : List Char} (h : xs <+: cs) (ahead : List Char) :
    (cs ++ ahead).drop xs.length = cs.drop xs.length ++ ahead :=
  List.drop_append_of_le_length h.length_le

namespace Lexeme

-- ---------------------------------------------------------------------------
-- Inner characters
-- ---------------------------------------------------------------------------

/-- Whether `c` may stand behind the first character of a number: a sign may, in an exponent. -/
def isNumberInner (c : Char) : Bool := isNumberPart c || c == '+' || c == '-'

theorem isNumberInner_of_isNumberPart {c : Char} (h : isNumberPart c = true) :
    isNumberInner c = true := by
  rw [isNumberInner, h]
  rfl

/-- Whether `c` may stand behind the first character of an operator. -/
def isOperatorInner (c : Char) : Bool := c ∈ ['=', '<', '>', '&', '|', '^']

theorem isOperatorInner_of_mem_tail (operator : Operator) :
    ∀ c ∈ operator.spelling.tail, isOperatorInner c = true := by
  have hAll : operator.spelling.tail.all isOperatorInner = true := by
    cases operator <;> decide
  exact List.all_eq_true.1 hAll

theorem isOperatorStart_of_isOperatorInner {c : Char} (h : isOperatorInner c = true) :
    isOperatorStart c = true := by
  have hAll : ['=', '<', '>', '&', '|', '^'].all isOperatorStart = true := by decide
  exact List.all_eq_true.1 hAll c (of_decide_eq_true h)

/-- A text that does not begin like the inside of a word, a number or an operator. -/
structure Bounds (unicode : Bool) (ahead : List Char) : Prop where
  word : StopsBefore (isWordPart unicode) ahead
  number : StopsBefore isNumberInner ahead
  operator : StopsBefore isOperatorInner ahead

theorem Bounds.nil (unicode : Bool) : Bounds unicode [] :=
  ⟨StopsBefore.nil _, StopsBefore.nil _, StopsBefore.nil _⟩

theorem Bounds.of_isBlank {c : Char} (h : Text.isBlank c = true) (unicode : Bool)
    (cs : List Char) : Bounds unicode (c :: cs) := by
  have hNumber : (!isNumberInner c) = true :=
    HdlLex.of_isBlank (fun c => !isNumberInner c) (by decide +kernel) h
  have hOperator : isOperatorInner c = false := by
    by_contra hInner
    rw [Bool.not_eq_false] at hInner
    have hStart := isOperatorStart_of_isOperatorInner hInner
    rw [isOperatorStart_of_isBlank h] at hStart
    cases hStart
  exact ⟨StopsBefore.cons (isWordPart_of_isBlank h unicode) cs,
    StopsBefore.cons (by simpa using hNumber) cs, StopsBefore.cons hOperator cs⟩

/-- No operator goes on with the slash of a comment. -/
theorem Bounds.slash (unicode : Bool) (cs : List Char) : Bounds unicode ('/' :: cs) := by
  have hWord : isWordPart unicode '/' = false := by
    revert unicode
    decide +kernel
  exact ⟨StopsBefore.cons hWord cs, StopsBefore.cons (by decide) cs,
    StopsBefore.cons (by decide) cs⟩

-- ---------------------------------------------------------------------------
-- Numbers
-- ---------------------------------------------------------------------------

section Number

variable {ahead : List Char}

theorem digits_bounds (radix : Radix) (h : StopsBefore isNumberInner ahead) (cs : List Char) :
    digits radix (cs ++ ahead) = digits radix cs := by
  refine takeWhile_stop (h.mono ?_) cs
  intro c hDigit
  exact isNumberInner_of_isNumberPart (isNumberPart_of_isDigit hDigit)

theorem fraction_bounds (h : StopsBefore isNumberInner ahead) (cs : List Char) :
    fraction (cs ++ ahead) = fraction cs := by
  cases cs with
  | nil => exact fraction_eq_nil (stopsBefore_point (h.mono fun _ => isNumberInner_of_isNumberPart))
  | cons c cs =>
    by_cases hPoint : c = '.'
    · subst hPoint
      rw [List.cons_append]
      simp only [fraction, digits_bounds .decimal h]
    · rw [fraction_eq_nil (StopsBefore.cons (by simpa using hPoint) cs), List.cons_append,
        fraction_eq_nil (StopsBefore.cons (by simpa using hPoint) _)]

theorem sign_bounds (h : StopsBefore isNumberInner ahead) (cs : List Char) :
    sign (cs ++ ahead) = sign cs := by
  cases cs with
  | nil =>
    cases ahead with
    | nil => rfl
    | cons c ahead =>
      have hNot : (c = '+' || c = '-') = false := by
        by_contra hSign
        have hInner := h c rfl
        simp_all [isNumberInner]
      simp [sign, hNot]
  | cons c cs => rfl

theorem exponent_bounds (h : StopsBefore isNumberInner ahead) (cs : List Char) :
    exponent (cs ++ ahead) = exponent cs := by
  cases cs with
  | nil => exact exponent_eq_nil (stopsBefore_letter (h.mono fun _ => isNumberInner_of_isNumberPart))
  | cons c cs =>
    rw [List.cons_append, exponent, exponent]
    rw [sign_bounds h, drop_append_of_isPrefix (sign_isPrefix cs), digits_bounds .decimal h]

theorem decimal_bounds (h : StopsBefore isNumberInner ahead) (cs : List Char) :
    decimal (cs ++ ahead) = decimal cs := by
  simp only [decimal, digits_bounds .decimal h,
    drop_append_of_isPrefix (digits_isPrefix .decimal cs), fraction_bounds h]
  rw [drop_append_of_isPrefix, exponent_bounds h]
  exact append_isPrefix (digits_isPrefix .decimal cs) (fraction_isPrefix _)

/-- Numbers are read as if the text ended before it. -/
theorem number_bounds (h : StopsBefore isNumberInner ahead) (cs : List Char) :
    number (cs ++ ahead) = number cs := by
  rcases number_cases cs with ⟨m, rest, radix, rfl, hMark⟩ | hDecimal
  · rw [List.cons_append, List.cons_append, number_eq_marked hMark, number_eq_marked hMark]
    unfold marked
    rw [digits_bounds radix h]
  · rw [number_eq_decimal hDecimal, number_eq_decimal, decimal_bounds h]
    intro m rest hText
    rcases cs with - | ⟨c, - | ⟨d, cs⟩⟩
    · -- what follows does not begin with a zero
      rw [List.nil_append] at hText
      have hZero := h '0' (by rw [hText]; rfl)
      cases hZero
    · -- behind a zero there is no mark of a base
      obtain ⟨-, hAhead⟩ := List.cons.inj hText
      change ahead = m :: rest at hAhead
      by_contra hMark
      have hPart := isNumberPart_of_mark (Option.isSome_iff_ne_none.2 hMark)
      have hNot := h m (by rw [hAhead]; rfl)
      rw [isNumberInner_of_isNumberPart hPart] at hNot
      cases hNot
    · obtain ⟨rfl, hRest⟩ := List.cons.inj hText
      obtain ⟨rfl, -⟩ := List.cons.inj hRest
      exact hDecimal d cs rfl

end Number

-- ---------------------------------------------------------------------------
-- Symbols
-- ---------------------------------------------------------------------------

/-- Symbols are read as if the text ended before it, unless it ends with them. -/
theorem symbol?_bounds {ahead : List Char} (h : StopsBefore isOperatorInner ahead) (c : Char)
    (cs : List Char) : symbol? (c :: cs ++ ahead) = symbol? (c :: cs) := by
  have hFront : ∀ operator : Operator,
      operator.spelling.isPrefixOf (c :: cs ++ ahead) =
        operator.spelling.isPrefixOf (c :: cs) := by
    intro operator
    obtain ⟨d, rest, hText⟩ := List.exists_cons_of_ne_nil (spelling_ne_nil operator)
    have hInner : ∀ e ∈ rest, isOperatorInner e = true := by
      have hTail := isOperatorInner_of_mem_tail operator
      rwa [hText] at hTail
    rw [hText]
    rw [Bool.eq_iff_iff, List.isPrefixOf_iff_prefix, List.isPrefixOf_iff_prefix,
      List.cons_append, List.cons_prefix_cons, List.cons_prefix_cons,
      isPrefix_stop_iff hInner h]
  have hStart : Operator.startOf? (c :: cs ++ ahead) = Operator.startOf? (c :: cs) := by
    rw [Operator.startOf?, Operator.startOf?, ← List.head?_filter, ← List.head?_filter]
    refine congrArg List.head? (List.filter_congr fun entry hMem => ?_)
    obtain ⟨text, operator⟩ := entry
    obtain rfl := Operator.spelling_of_mem_table hMem
    exact hFront operator
  rw [symbol?, operator?, hStart]
  rfl

-- ---------------------------------------------------------------------------
-- Any lexeme
-- ---------------------------------------------------------------------------

/-- A lexeme that ends before it is read as if the text ended before it. -/
theorem front_bounds_iff {config : Config} {c : Char} {cs ahead : List Char} {lexeme : Lexeme}
    (h : Bounds config.unicodeWords ahead) (hFront : lexeme.written <+: c :: cs) :
    front config (c :: cs ++ ahead) = .ok lexeme ↔ front config (c :: cs) = .ok lexeme := by
  have hLonger : lexeme.written <+: c :: (cs ++ ahead) :=
    hFront.trans (List.prefix_append (c :: cs) ahead)
  rw [List.cons_append, front_cons, front_cons]
  cases hClass : opening config.unicodeWords c with
  | word =>
    simp only [word]
    rw [← List.cons_append, takeWhile_stop h.word]
  | number =>
    simp only
    rw [← List.cons_append, number_bounds h.number]
  | string =>
    obtain rfl : c = '"' := leads_of_opening hClass
    -- a literal is read wherever it stands
    constructor
    · intro hRead
      exact string_of_isPrefix (string_valid config.unicodeWords hRead) hFront
    · intro hRead
      exact string_of_isPrefix (string_valid config.unicodeWords hRead) hLonger
  | char =>
    obtain rfl : c = '\'' := leads_of_opening hClass
    constructor
    · intro hRead
      exact char_of_isPrefix (char_valid config.unicodeWords hRead) hFront
    · intro hRead
      exact char_of_isPrefix (char_valid config.unicodeWords hRead) hLonger
  | symbol =>
    simp only
    rw [← List.cons_append, symbol?_bounds h.operator]

end Lexeme

/-- No lexeme goes on into a gap. -/
theorem Trivia.IsGap.bounds {nesting : Option UInt32} {gap ahead : List Char}
    (h : IsGap nesting ahead gap) (hSome : gap ≠ []) (unicode : Bool) (behind : List Char) :
    Lexeme.Bounds unicode (gap ++ behind) := by
  cases h with
  | nil => exact absurd rfl hSome
  | blank hBlank _ => exact Lexeme.Bounds.of_isBlank hBlank unicode _
  | line _ _ _ => exact Lexeme.Bounds.slash unicode _
  | block hBlock _ =>
    obtain ⟨depth, cs, rfl, -, -⟩ := Comment.isBlock_iff.1 hBlock
    exact Lexeme.Bounds.slash unicode _

end HdlLex
