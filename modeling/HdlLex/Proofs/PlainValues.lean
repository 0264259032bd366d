import HdlLex.Proofs.Notation
import HdlLex.Toml.Reader

/-!
# PlainValues — plain notations, read by the built-in library

A text in double quotes that needs no escapes, a truth value and a decimal
number are read back in front of the end of their line, be it a line feed or
the end of the document. Of the notations that a number might begin, a date, a
time and a float ask for a mark behind the digits that stands in neither place.

* `Toml.AtLineEnd` — what can be ahead where a line ends.
* `Toml.IsWritten` — a text that is read as a value up to the end of the line.

Main results:

* `Toml.isWritten_string`, `Toml.isWritten_true`, `Toml.isWritten_false` —
  quoted texts and truth values.
* `Toml.isWritten_decimal` — decimal numbers of up to sixty-three bits.
* `Toml.Notates.isWritten` — every notation is read as the value it stands for.
-/

namespace HdlLex.Toml

/-- What is ahead at the end of a line. -/
inductive AtLineEnd : List Char → Prop where
  | ofText : AtLineEnd []
  | ofLine (ahead : List Char) : AtLineEnd ('\n' :: ahead)

/--
The text begins with no blank, and is read as the value in front of the end of
a line, however deep values may lie in it.
-/
structure IsWritten (text : List Char) (value : Value) : Prop where
  head : ∃ c more, text = c :: more ∧ isBlank c = false
  value?_append : ∀ depth ahead, AtLineEnd ahead →
    value? depth (text ++ ahead) = some (value, ahead)

/-- What opens no array and no table between braces is a value without parts. -/
theorem value?_eq_scalar? (depth : Nat) {c : Char} (cs : List Char) (hArray : c ≠ '[')
    (hTable : c ≠ '\x7b') : value? depth (c :: cs) = scalar? (c :: cs) := by
  cases depth with
  | zero => rfl
  | succ depth =>
    rw [value?]
    · rintro rest ⟨⟩
      exact hArray rfl
    · rintro rest ⟨⟩
      exact hTable rfl

-- ---------------------------------------------------------------------------
-- Texts
-- ---------------------------------------------------------------------------

theorem basic?_append {text : List Char} (h : text.all isQuotable = true) (ahead : List Char) :
    basic? (text ++ '"' :: ahead) = some (text, ahead) := by
  induction text with
  | nil => rw [List.nil_append, basic?, if_pos rfl]
  | cons c text ih =>
    rw [List.all_cons, Bool.and_eq_true] at h
    obtain ⟨hFirst, hLater⟩ := h
    simp only [isQuotable, Bool.and_eq_true, bne_iff_ne] at hFirst
    rw [List.cons_append, basic?, if_neg hFirst.1.2, if_neg hFirst.2, if_pos hFirst.1.1, ih hLater]
    rfl

/-- A text that needs no escapes is read back from between double quotes. -/
theorem isWritten_string {text : List Char} (h : text.all isQuotable = true) :
    IsWritten ('"' :: (text ++ ['"'])) (.string (String.ofList text)) := by
  refine ⟨⟨_, _, rfl, rfl⟩, fun depth ahead hEnd => ?_⟩
  have hText : '"' :: (text ++ ['"']) ++ ahead = '"' :: (text ++ '"' :: ahead) := by
    simp
  have hString : string? ('"' :: (text ++ '"' :: ahead)) = some (text, ahead) := by
    rw [← basic?_append h]
    cases text with
    | nil => cases hEnd with
      | ofText => rfl
      | ofLine => rfl
    | cons c text =>
      -- the first character is no quote, so the text stands between single ones
      have hFirst : c ≠ '"' := by
        rintro rfl
        cases h
      rw [string?]
      intro rest hRest
      exact hFirst (List.cons.inj hRest).1
  rw [hText, value?_eq_scalar? _ _ (by decide) (by decide), scalar?, hString]

-- ---------------------------------------------------------------------------
-- Truth values
-- ---------------------------------------------------------------------------

theorem isWritten_true : IsWritten ['t', 'r', 'u', 'e'] (.boolean true) := by
  refine ⟨⟨_, _, rfl, rfl⟩, fun depth ahead _ => ?_⟩
  rw [List.cons_append, value?_eq_scalar? _ _ (by decide) (by decide)]
  rfl

theorem isWritten_false : IsWritten ['f', 'a', 'l', 's', 'e'] (.boolean false) := by
  refine ⟨⟨_, _, rfl, rfl⟩, fun depth ahead _ => ?_⟩
  rw [List.cons_append, value?_eq_scalar? _ _ (by decide) (by decide)]
  rfl

-- ---------------------------------------------------------------------------
-- Numbers
-- ---------------------------------------------------------------------------

section Numbers

variable {digits ahead : List Char}

/-- The number that decimal digits stand for. -/
theorem numeral_eq_ofDigitChars (h : ∀ c ∈ digits, c.isDigit = true) :
    numeral 10 digits = Nat.ofDigitChars 10 digits 0 := by
  rw [numeral, Nat.ofDigitChars]
  refine List.foldl_ext _ _ 0 fun n c hMem => ?_
  rw [digitValue, if_pos (h c hMem)]

/-- Digits have no sign. -/
theorem sign_append (h : IsDecimal digits) (ahead : List Char) :
    sign (digits ++ ahead) = (false, digits ++ ahead) := by
  obtain ⟨c, more, rfl, -⟩ := h.exists_cons
  have hFirst := h.isDigit c List.mem_cons_self
  rw [List.cons_append, sign]
  · intro cs hNext
    exact ne_of_test hFirst (by decide) (List.cons.inj hNext).1
  · intro cs hNext
    exact ne_of_test hFirst (by decide) (List.cons.inj hNext).1

theorem within64_natCast {n : Nat} (h : n < Nat.pow 2 63) : within64 (n : Int) = some (n : Int) := by
  have hPower : Int.pow 2 63 = (Nat.pow 2 63 : Nat) := by decide
  rw [within64, if_pos]
  simp only [Bool.and_eq_true, decide_eq_true_eq, hPower]
  omega

variable (hEnd : AtLineEnd ahead)
include hEnd

theorem moreDigits_append (h : ∀ c ∈ digits, c.isDigit = true) :
    moreDigits Char.isDigit (digits ++ ahead) = (digits, ahead) := by
  induction digits with
  | nil => cases hEnd with
    | ofText => rfl
    | ofLine ahead =>
      rw [List.nil_append, moreDigits]
      · rfl
      · rintro d cs ⟨⟩
  | cons c digits ih =>
    have hFirst := h c List.mem_cons_self
    rw [List.cons_append, moreDigits, if_pos hFirst,
      ih fun d hMem => h d (List.mem_cons_of_mem c hMem)]
    intro d cs hUnderscore
    exact absurd hUnderscore (ne_of_test hFirst (by decide))

/-- The digits of a number are read up to the end of the line. -/
theorem wholeDigits?_append (h : IsDecimal digits) :
    wholeDigits? (digits ++ ahead) = some (digits, ahead) := by
  obtain ⟨c, more, rfl, hZero⟩ := h.exists_cons
  by_cases hFirst : c = '0'
  · obtain rfl := hZero hFirst
    rw [hFirst]
    rfl
  · have hMore := moreDigits_append hEnd fun d hMem => h.isDigit d (List.mem_cons_of_mem c hMem)
    rw [List.cons_append, wholeDigits?, digits?, if_pos (h.isDigit c List.mem_cons_self), hMore]
    intro cs hNext
    exact hFirst (List.cons.inj hNext).1

/-- No mark but a line feed stands behind digits, however many of them are read. -/
theorem dropText?_append_eq_none (h : ∀ c ∈ digits, c.isDigit = true) (mark : Char)
    (more : List Char) (hMark : mark.isDigit = false) (hFeed : mark ≠ '\n') :
    dropText? (mark :: more) (digits ++ ahead) = none := by
  cases digits with
  | nil => cases hEnd with
    | ofText => rfl
    | ofLine ahead => rw [List.nil_append, dropText?, if_neg hFeed]
  | cons c digits =>
    rw [List.cons_append, dropText?, if_neg]
    exact (ne_of_test (h c List.mem_cons_self) hMark).symm

/-- A fixed number of digits is read from more of them only. -/
theorem exists_of_fixedDigits? (h : ∀ c ∈ digits, c.isDigit = true) {count n : Nat}
    {rest : List Char} (hRead : fixedDigits? count (digits ++ ahead) = some (n, rest)) :
    ∃ later, (∀ c ∈ later, c.isDigit = true) ∧ rest = later ++ ahead := by
  simp only [fixedDigits?, Option.ite_none_right_eq_some, Bool.and_eq_true, decide_eq_true_eq,
    List.all_eq_true, Option.some.injEq, Prod.mk.injEq] at hRead
  obtain ⟨⟨hLength, hAll⟩, -, rfl⟩ := hRead
  have hEnough : count ≤ digits.length := by
    refine Nat.le_of_not_lt fun hFew => ?_
    obtain ⟨k, rfl⟩ := Nat.exists_eq_add_of_lt hFew
    rw [Nat.add_assoc, List.take_length_add_append] at hLength hAll
    cases hEnd with
    | ofText =>
      rw [List.take_nil, List.append_nil] at hLength
      omega
    | ofLine ahead =>
      -- the line feed would be one of them
      cases hAll '\n' (List.mem_append_right digits List.mem_cons_self)
  exact ⟨digits.drop count, fun c hMem => h c (List.mem_of_mem_drop hMem),
    List.drop_append_of_le_length hEnough⟩

/-- Digits up to the end of a line are no date and no time. -/
theorem dateTime?_append (h : ∀ c ∈ digits, c.isDigit = true) :
    dateTime? (digits ++ ahead) = none := by
  have hDate : date? (digits ++ ahead) = none := by
    rw [date?]
    cases hYear : fixedDigits? 4 (digits ++ ahead) with
    | none => rfl
    | some read =>
      obtain ⟨later, hLater, hRest⟩ := exists_of_fixedDigits? hEnd h hYear
      have hMark := dropText?_append_eq_none hEnd hLater '-' [] (by decide) (by decide)
      rw [← hRest] at hMark
      simp [hMark]
  have hTime : time? (digits ++ ahead) = none := by
    rw [time?, twoDigits?]
    cases hHour : fixedDigits? 2 (digits ++ ahead) with
    | none => rfl
    | some read =>
      obtain ⟨later, hLater, hRest⟩ := exists_of_fixedDigits? hEnd h hHour
      have hMark := dropText?_append_eq_none hEnd hLater ':' [] (by decide) (by decide)
      rw [← hRest] at hMark
      simp [hMark]
  rw [dateTime?, hDate]
  exact hTime

/-- Nor are they a float, which needs a fraction or an exponent. -/
theorem float?_append (h : IsDecimal digits) : float? (digits ++ ahead) = none := by
  have hSign := sign_append h ahead
  have hInfinite :=
    dropText?_append_eq_none hEnd h.isDigit 'i' ['n', 'f'] (by decide) (by decide)
  have hUndefined :=
    dropText?_append_eq_none hEnd h.isDigit 'n' ['a', 'n'] (by decide) (by decide)
  have hFraction : fraction? ahead = none := by
    cases hEnd with
    | ofText => rfl
    | ofLine ahead => rfl
  have hExponent : exponent? ahead = none := by
    cases hEnd with
    | ofText => rfl
    | ofLine ahead => rfl
  have hDecimal : decimalFloat? (digits ++ ahead) = none := by
    simp [decimalFloat?, hSign, wholeDigits?_append hEnd h, hFraction, hExponent]
  rw [float?, hSign, hInfinite, hUndefined, hDecimal]
  rfl

theorem decimalInteger?_append (h : IsDecimal digits) :
    decimalInteger? (digits ++ ahead) = (within64 (numeral 10 digits)).map (·, ahead) := by
  unfold decimalInteger?
  rw [sign_append h ahead]
  dsimp only
  rw [wholeDigits?_append hEnd h, Option.bind_eq_bind, Option.bind_some]
  dsimp only
  rw [if_neg Bool.false_ne_true]
  cases within64 (numeral 10 digits) with
  | none => rfl
  | some n => rfl

theorem integer?_append (h : IsDecimal digits) (hSmall : numeral 10 digits < Nat.pow 2 63) :
    integer? (digits ++ ahead) = some ((numeral 10 digits : Int), ahead) := by
  -- behind a zero stands the end of the line, and not the mark of a base
  have hDecimal : integer? (digits ++ ahead) = decimalInteger? (digits ++ ahead) := by
    obtain ⟨c, more, rfl, hZero⟩ := h.exists_cons
    by_cases hFirst : c = '0'
    · obtain rfl := hZero hFirst
      rw [hFirst]
      cases hEnd with
      | ofText => rfl
      | ofLine ahead => rfl
    · rw [List.cons_append, integer?]
      all_goals
        intro cs hNext
        exact absurd (List.cons.inj hNext).1 hFirst
  rw [hDecimal, decimalInteger?_append hEnd h, within64_natCast hSmall, Option.map_some]

end Numbers

/-- A number of up to sixty-three bits is read back from its decimal digits. -/
theorem isWritten_decimal {digits : List Char} (hDecimal : IsDecimal digits)
    (hSmall : Nat.ofDigitChars 10 digits 0 < Nat.pow 2 63) :
    IsWritten digits (.integer (Nat.ofDigitChars 10 digits 0)) := by
  have hDigits := hDecimal.isDigit
  rw [← numeral_eq_ofDigitChars hDigits] at hSmall ⊢
  obtain ⟨c, more, hText, -⟩ := hDecimal.exists_cons
  have hFirst (mark : Char) : mark.isDigit = false → c ≠ mark :=
    ne_of_test (hDigits c (hText ▸ List.mem_cons_self))
  refine ⟨⟨c, more, hText, ?_⟩, fun depth ahead hEnd => ?_⟩
  · simp [isBlank, hFirst ' ' (by decide), hFirst '\t' (by decide)]
  have hQuantity : quantity? (digits ++ ahead) = some (.integer (numeral 10 digits), ahead) := by
    rw [quantity?, dateTime?_append hEnd hDigits]
    simp [float?_append hEnd hDecimal, integer?_append hEnd hDecimal hSmall]
  have hBoolean : boolean? (digits ++ ahead) = none := by
    rw [boolean?, dropText?_append_eq_none hEnd hDigits _ _ (by decide) (by decide),
      dropText?_append_eq_none hEnd hDigits _ _ (by decide) (by decide)]
    rfl
  have hString : string? (digits ++ ahead) = none := by
    rw [hText, List.cons_append, string?]
    all_goals
      intro cs hNext
      exact absurd (List.cons.inj hNext).1 (hFirst _ (by decide))
  have hScalar : value? depth (digits ++ ahead) = scalar? (digits ++ ahead) := by
    rw [hText, List.cons_append]
    exact value?_eq_scalar? _ _ (hFirst _ (by decide)) (hFirst _ (by decide))
  rw [hScalar, scalar?, hString, hBoolean]
  exact hQuantity

-- ---------------------------------------------------------------------------
-- All notations
-- ---------------------------------------------------------------------------

/-- What a value without parts is in a document. -/
def Scalar.toValue : Scalar → Value
  | .string text => .string text
  | .integer n => .integer n
  | .boolean b => .boolean b

/-- A notation of a value is read as the value. -/
theorem Notates.isWritten {text : List Char} {scalar : Scalar} (h : Notates text scalar) :
    IsWritten text scalar.toValue := by
  cases h with
  | string hQuotable => exact isWritten_string hQuotable
  | integer hDecimal hSmall => exact isWritten_decimal hDecimal hSmall
  | ofTrue => exact isWritten_true
  | ofFalse => exact isWritten_false

end HdlLex.Toml
