import HdlLex.Proofs.Grammar

/-!
# Number grammar — numbers are taken whole

A decimal number looks up to three characters ahead before it takes a
fraction or an exponent, and a mark of a base is recognised by its second
character. Still the longest number is taken, and a number that does not go
on is taken whole.

Main results:

* `Lexeme.number_valid` — what is taken as a number is one.
* `Lexeme.number_append` — a number is taken whole, and nothing behind it.
* `Lexeme.length_le_number` — no number at the front is longer.
-/

namespace HdlLex

/-- Whether `c` may go on with a number in some notation. -/
def isNumberPart (c : Char) : Bool :=
  isAsciiWordPart c || c == '.'

theorem isNumberPart_of_isDigit {radix : Radix} {c : Char} (h : radix.isDigit c = true) :
    isNumberPart c = true := by
  have hAll : radix.numerals.all isNumberPart = true := by
    cases radix <;> decide
  exact List.all_eq_true.1 hAll c ((Radix.isDigit_iff radix c).1 h)

theorem isNumberPart_of_isBlank {c : Char} (h : Text.isBlank c = true) :
    isNumberPart c = false := by
  have hNot : (!isNumberPart c) = true :=
    of_isBlank (fun c => !isNumberPart c) (by decide +kernel) h
  simpa using hNot

theorem Radix.ofMark?_eq_some_iff {c : Char} {radix : Radix} :
    Radix.ofMark? c = some radix ↔
      (radix = .binary ∧ c ∈ ['b', 'B']) ∨ (radix = .hexadecimal ∧ c ∈ ['x', 'X']) := by
  unfold Radix.ofMark?
  by_cases hBinary : c = 'b' ∨ c = 'B'
  · rcases hBinary with rfl | rfl <;> cases radix <;> decide
  · by_cases hHex : c = 'x' ∨ c = 'X'
    · rcases hHex with rfl | rfl <;> cases radix <;> decide
    · simp [hBinary, hHex]

theorem isNumberPart_of_mark {c : Char} (h : (Radix.ofMark? c).isSome = true) :
    isNumberPart c = true := by
  have hLetters : ['b', 'B', 'x', 'X'].all isNumberPart = true := by decide
  obtain ⟨radix, hMark⟩ := Option.isSome_iff_exists.1 h
  refine List.all_eq_true.1 hLetters c ?_
  rcases Radix.ofMark?_eq_some_iff.1 hMark with ⟨-, hLetter⟩ | ⟨-, hLetter⟩
  · exact List.mem_append_left ['x', 'X'] hLetter
  · exact List.mem_append_right ['b', 'B'] hLetter

theorem ofMark?_of_mem_numerals :
    ∀ c ∈ Radix.decimal.numerals, Radix.ofMark? c = none := by
  have hAll : (Radix.decimal.numerals.all fun c => (Radix.ofMark? c).isNone) = true := by
    decide
  intro c hNumeral
  exact Option.isNone_iff_eq_none.1 (List.all_eq_true.1 hAll c hNumeral)

namespace Lexeme

-- ---------------------------------------------------------------------------
-- Digits
-- ---------------------------------------------------------------------------

theorem IsDigits.isDigit {radix : Radix} {ds : List Char} (h : IsDigits radix ds) :
    ∀ c ∈ ds, radix.isDigit c = true := by
  intro c hMem
  exact (radix.isDigit_iff c).2 (h.2 c hMem)

theorem isDigits_digits {radix : Radix} {cs : List Char} (h : digits radix cs ≠ []) :
    IsDigits radix (digits radix cs) := by
  refine ⟨h, ?_⟩
  intro c hMem
  exact (radix.isDigit_iff c).1 (List.mem_takeWhile_imp hMem)

theorem digits_append {radix : Radix} {ds ahead : List Char} (h : IsDigits radix ds)
    (hStop : StopsBefore radix.isDigit ahead) : digits radix (ds ++ ahead) = ds :=
  takeWhile_append_of_stop h.isDigit hStop

theorem length_le_digits {radix : Radix} {ds cs : List Char} (h : IsDigits radix ds)
    (hFront : ds <+: cs) : ds.length ≤ (digits radix cs).length :=
  length_le_takeWhile h.isDigit hFront

theorem digits_append_ne_nil {radix : Radix} {ds : List Char} (h : IsDigits radix ds)
    (ahead : List Char) : digits radix (ds ++ ahead) ≠ [] := by
  have hLength := length_le_digits h (List.prefix_append ds ahead)
  have hPos := List.length_pos_iff.2 h.1
  exact List.length_pos_iff.1 (by omega)

-- ---------------------------------------------------------------------------
-- Fractions
-- ---------------------------------------------------------------------------

theorem fraction_cases (cs : List Char) : fraction cs = [] ∨ IsFraction (fraction cs) := by
  unfold fraction
  split
  · split
    · exact Or.inl rfl
    · next rest hDigits => exact Or.inr ⟨_, rfl, isDigits_digits hDigits⟩
  · exact Or.inl rfl

theorem fraction_append {part ahead : List Char} (h : IsFraction part)
    (hStop : StopsBefore Radix.decimal.isDigit ahead) : fraction (part ++ ahead) = part := by
  obtain ⟨ds, rfl, hDigits⟩ := h
  rw [List.cons_append, fraction, if_neg (digits_append_ne_nil hDigits ahead),
    digits_append hDigits hStop]

theorem fraction_eq_nil {cs : List Char} (h : StopsBefore (· == '.') cs) : fraction cs = [] := by
  unfold fraction
  split
  · have hPoint := h '.' rfl
    cases hPoint
  · rfl

theorem length_le_fraction {part cs : List Char} (h : IsFraction part) (hFront : part <+: cs) :
    part.length ≤ (fraction cs).length := by
  obtain ⟨ds, rfl, hDigits⟩ := h
  obtain ⟨ahead, rfl⟩ := hFront
  rw [List.cons_append, fraction, if_neg (digits_append_ne_nil hDigits ahead)]
  have hLength := length_le_digits hDigits (List.prefix_append ds ahead)
  simp only [List.length_cons]
  omega

theorem stopsBefore_fraction {test : Char → Bool} {part ahead : List Char}
    (h : part = [] ∨ IsFraction part) (hPoint : test '.' = false)
    (hStop : StopsBefore test ahead) : StopsBefore test (part ++ ahead) := by
  rcases h with rfl | ⟨ds, rfl, -⟩
  · exact hStop
  · exact StopsBefore.cons hPoint _

-- ---------------------------------------------------------------------------
-- Exponents
-- ---------------------------------------------------------------------------

theorem sign_append {sg ds : List Char} (hSign : sg ∈ [[], ['+'], ['-']])
    (hDigits : IsDigits .decimal ds) (ahead : List Char) : sign (sg ++ (ds ++ ahead)) = sg := by
  simp only [List.mem_cons, List.not_mem_nil, or_false] at hSign
  rcases hSign with rfl | rfl | rfl
  · -- no digit is a sign
    obtain ⟨d, rest, rfl⟩ := List.exists_cons_of_ne_nil hDigits.1
    have hDigit := hDigits.2 d (by simp)
    have hNot : ¬ (d = '+' || d = '-') = true := by
      intro hSign
      simp only [Bool.or_eq_true, decide_eq_true_eq] at hSign
      rcases hSign with rfl | rfl <;> exact absurd hDigit (by decide)
    rw [List.nil_append, List.cons_append, sign, if_neg hNot]
  · rfl
  · rfl

theorem sign_mem (cs : List Char) : sign cs ∈ [[], ['+'], ['-']] := by
  unfold sign
  split
  · next c _ =>
    split
    · next h =>
      simp only [Bool.or_eq_true, decide_eq_true_eq] at h
      rcases h with rfl | rfl <;> simp
    · simp
  · simp

theorem exponent_cases (cs : List Char) : exponent cs = [] ∨ IsExponent (exponent cs) := by
  cases cs with
  | nil => exact Or.inl rfl
  | cons c cs =>
    simp only [exponent]
    split
    · next h =>
      simp only [Bool.and_eq_true, Bool.or_eq_true, decide_eq_true_eq] at h
      refine Or.inr ⟨c, sign cs, _, rfl, by simpa using h.1, sign_mem cs, isDigits_digits h.2⟩
    · exact Or.inl rfl

/-- An exponent in front of more text is its letter, its sign and a longest run of digits. -/
theorem exponent_of_append {e : Char} {sg ds : List Char} (hLetter : e ∈ ['e', 'E'])
    (hSign : sg ∈ [[], ['+'], ['-']]) (hDigits : IsDigits .decimal ds) (ahead : List Char) :
    exponent (e :: (sg ++ (ds ++ ahead))) = e :: (sg ++ digits .decimal (ds ++ ahead)) := by
  have hTest : ((e = 'e' || e = 'E') && digits .decimal (ds ++ ahead) ≠ []) = true := by
    have hSome := digits_append_ne_nil hDigits ahead
    simp only [List.mem_cons, List.not_mem_nil, or_false] at hLetter
    simpa [hSome] using hLetter
  simp only [exponent]
  rw [sign_append hSign hDigits ahead, List.drop_left, if_pos hTest, List.cons_append]

theorem exponent_append {power ahead : List Char} (h : IsExponent power)
    (hStop : StopsBefore Radix.decimal.isDigit ahead) : exponent (power ++ ahead) = power := by
  obtain ⟨e, sg, ds, rfl, hLetter, hSign, hDigits⟩ := h
  have hText : e :: (sg ++ ds) ++ ahead = e :: (sg ++ (ds ++ ahead)) := by simp
  rw [hText, exponent_of_append hLetter hSign hDigits, digits_append hDigits hStop]

theorem exponent_eq_nil {cs : List Char} (h : StopsBefore (fun c => c == 'e' || c == 'E') cs) :
    exponent cs = [] := by
  cases cs with
  | nil => rfl
  | cons c cs =>
    have hLetter : (c = 'e' || c = 'E') = false := by simpa using h c rfl
    simp [exponent, hLetter]

theorem length_le_exponent {power cs : List Char} (h : IsExponent power) (hFront : power <+: cs) :
    power.length ≤ (exponent cs).length := by
  obtain ⟨e, sg, ds, rfl, hLetter, hSign, hDigits⟩ := h
  obtain ⟨ahead, rfl⟩ := hFront
  have hText : e :: (sg ++ ds) ++ ahead = e :: (sg ++ (ds ++ ahead)) := by simp
  rw [hText, exponent_of_append hLetter hSign hDigits]
  have hLength := length_le_digits hDigits (List.prefix_append ds ahead)
  simp only [List.length_cons, List.length_append]
  omega

theorem IsExponent.stopsBefore {test : Char → Bool} {power : List Char} (h : IsExponent power)
    (hSmall : test 'e' = false) (hLarge : test 'E' = false) (ahead : List Char) :
    StopsBefore test (power ++ ahead) := by
  obtain ⟨e, sg, ds, rfl, hLetter, -, -⟩ := h
  simp only [List.mem_cons, List.not_mem_nil, or_false] at hLetter
  rcases hLetter with rfl | rfl
  · exact StopsBefore.cons hSmall _
  · exact StopsBefore.cons hLarge _

theorem stopsBefore_exponent {test : Char → Bool} {power ahead : List Char}
    (h : power = [] ∨ IsExponent power) (hSmall : test 'e' = false) (hLarge : test 'E' = false)
    (hStop : StopsBefore test ahead) : StopsBefore test (power ++ ahead) := by
  rcases h with rfl | hExponent
  · exact hStop
  · exact hExponent.stopsBefore hSmall hLarge ahead

-- ---------------------------------------------------------------------------
-- Decimal numbers
-- ---------------------------------------------------------------------------

/-- Digits, perhaps a fraction and perhaps an exponent. -/
structure DecimalParts (whole part power : List Char) : Prop where
  whole_isDigits : IsDigits .decimal whole
  part_cases : part = [] ∨ IsFraction part
  power_cases : power = [] ∨ IsExponent power

/-- The kind of a decimal number with this fraction and exponent. -/
def decimalKind (part power : List Char) : TokenKind :=
  if part = [] && power = [] then .number else .float

theorem DecimalParts.isNumber {whole part power : List Char} (h : DecimalParts whole part power) :
    IsNumber (decimalKind part power) (whole ++ (part ++ power)) := by
  unfold decimalKind
  by_cases hNone : part = [] ∧ power = []
  · obtain ⟨rfl, rfl⟩ := hNone
    simpa using IsNumber.number h.whole_isDigits
  · have hKind : ¬ (part = [] && power = []) = true := by simpa using hNone
    rw [if_neg hKind]
    refine .float h.whole_isDigits h.part_cases h.power_cases ?_
    by_cases hPart : part = []
    · exact Or.inr fun hPower => hNone ⟨hPart, hPower⟩
    · exact Or.inl hPart

/-- A number has the parts of a decimal one, or digits behind the mark of their base. -/
theorem IsNumber.cases {kind : TokenKind} {cs : List Char} (h : IsNumber kind cs) :
    (∃ whole part power, DecimalParts whole part power ∧ cs = whole ++ (part ++ power) ∧
        kind = decimalKind part power) ∨
      ∃ m radix ds, Radix.ofMark? m = some radix ∧ IsDigits radix ds ∧ cs = '0' :: m :: ds ∧
        kind = radix.kind := by
  cases h with
  | @binary m ds hLetter hDigits =>
    have hMark := Radix.ofMark?_eq_some_iff.2 (Or.inl ⟨rfl, hLetter⟩)
    exact Or.inr ⟨m, .binary, ds, hMark, hDigits, rfl, rfl⟩
  | @hex m ds hLetter hDigits =>
    have hMark := Radix.ofMark?_eq_some_iff.2 (Or.inr ⟨rfl, hLetter⟩)
    exact Or.inr ⟨m, .hexadecimal, ds, hMark, hDigits, rfl, rfl⟩
  | number hDigits =>
    exact Or.inl ⟨cs, [], [], ⟨hDigits, Or.inl rfl, Or.inl rfl⟩, by simp, rfl⟩
  | @float whole part power hWhole hPart hPower hSome =>
    refine Or.inl ⟨whole, part, power, ⟨hWhole, hPart, hPower⟩, rfl, ?_⟩
    have hNot : ¬ (part = [] && power = []) = true := by
      simp only [Bool.and_eq_true, decide_eq_true_eq, not_and_or]
      exact hSome
    rw [decimalKind, if_neg hNot]

/-- The first digits of a number end where its fraction or its exponent begins. -/
theorem DecimalParts.stopsBefore {whole part power : List Char}
    (h : DecimalParts whole part power) (test : Char → Bool) (hSome : ¬ (part = [] ∧ power = []))
    (hPoint : test '.' = false) (hSmall : test 'e' = false) (hLarge : test 'E' = false)
    (ahead : List Char) : StopsBefore test (part ++ (power ++ ahead)) := by
  rcases h.part_cases with rfl | ⟨ds, rfl, -⟩
  · rcases h.power_cases with rfl | hExponent
    · exact absurd ⟨rfl, rfl⟩ hSome
    · exact hExponent.stopsBefore hSmall hLarge ahead
  · exact StopsBefore.cons hPoint _

/-- A decimal number goes on behind its first digits with a fraction and an exponent. -/
theorem decimal_eq {whole rest : List Char} (hWhole : digits .decimal (whole ++ rest) = whole) :
    decimal (whole ++ rest) =
      plain (decimalKind (fraction rest) (exponent (rest.drop (fraction rest).length)))
        (whole ++ (fraction rest ++ exponent (rest.drop (fraction rest).length))) := by
  have hBehind : (whole ++ rest).drop (whole ++ fraction rest).length =
      rest.drop (fraction rest).length := by
    rw [List.length_append, ← List.drop_drop, List.drop_left]
  simp only [decimal, hWhole, List.drop_left, hBehind, decimalKind, List.append_assoc]

theorem decimal_eq_of_text (cs : List Char) :
    ∃ rest, cs = digits .decimal cs ++ rest ∧ decimal cs =
      plain (decimalKind (fraction rest) (exponent (rest.drop (fraction rest).length)))
        (digits .decimal cs ++ (fraction rest ++ exponent (rest.drop (fraction rest).length))) := by
  have hSplit : cs = digits .decimal cs ++ cs.dropWhile Radix.decimal.isDigit :=
    List.takeWhile_append_dropWhile.symm
  refine ⟨cs.dropWhile Radix.decimal.isDigit, hSplit, ?_⟩
  have hWhole : digits .decimal (digits .decimal cs ++ cs.dropWhile Radix.decimal.isDigit) =
      digits .decimal cs := by
    rw [← hSplit]
  have hDecimal := decimal_eq hWhole
  rwa [← hSplit] at hDecimal

/-- What is taken as a decimal number has its parts. -/
theorem decimal_parts {c : Char} (h : c.isDigit = true) (cs : List Char) :
    ∃ whole part power, DecimalParts whole part power ∧
      decimal (c :: cs) = plain (decimalKind part power) (whole ++ (part ++ power)) := by
  have hSome : digits .decimal (c :: cs) ≠ [] := by simp [digits, Radix.isDigit, h]
  obtain ⟨rest, -, hDecimal⟩ := decimal_eq_of_text (c :: cs)
  exact ⟨_, _, _, ⟨isDigits_digits hSome, fraction_cases rest, exponent_cases _⟩, hDecimal⟩

theorem stopsBefore_point {ahead : List Char} (h : StopsBefore isNumberPart ahead) :
    StopsBefore (· == '.') ahead := by
  refine h.mono fun c hEq => ?_
  obtain rfl := beq_iff_eq.1 hEq
  decide

theorem stopsBefore_letter {ahead : List Char} (h : StopsBefore isNumberPart ahead) :
    StopsBefore (fun c => c == 'e' || c == 'E') ahead := by
  refine h.mono fun c hEq => ?_
  simp only [Bool.or_eq_true, beq_iff_eq] at hEq
  rcases hEq with rfl | rfl <;> decide

/-- The parts of a decimal number are taken whole, and nothing behind them. -/
theorem decimal_append {whole part power ahead : List Char} (h : DecimalParts whole part power)
    (hStop : StopsBefore isNumberPart ahead) :
    decimal (whole ++ (part ++ (power ++ ahead))) =
      plain (decimalKind part power) (whole ++ (part ++ power)) := by
  have hDigit : StopsBefore Radix.decimal.isDigit ahead :=
    hStop.mono fun _ => isNumberPart_of_isDigit
  have hPoint := stopsBefore_point hStop
  have hLetter := stopsBefore_letter hStop
  have hWhole : digits .decimal (whole ++ (part ++ (power ++ ahead))) = whole :=
    digits_append h.whole_isDigits (stopsBefore_fraction h.part_cases (by decide)
      (stopsBefore_exponent h.power_cases (by decide) (by decide) hDigit))
  have hPart : fraction (part ++ (power ++ ahead)) = part := by
    have hPower := h.power_cases
    rcases h.part_cases with rfl | hFraction
    · rw [List.nil_append]
      exact fraction_eq_nil (stopsBefore_exponent hPower (by decide) (by decide) hPoint)
    · exact fraction_append hFraction
        (stopsBefore_exponent hPower (by decide) (by decide) hDigit)
  have hPower : exponent (power ++ ahead) = power := by
    rcases h.power_cases with rfl | hExponent
    · exact exponent_eq_nil hLetter
    · exact exponent_append hExponent hDigit
  rw [decimal_eq hWhole, hPart, List.drop_left, hPower]

/-- No decimal number at the front of a text is longer than the one taken. -/
theorem length_le_decimal {whole part power cs : List Char} (h : DecimalParts whole part power)
    (hFront : whole ++ (part ++ power) <+: cs) :
    (whole ++ (part ++ power)).length ≤ (decimal cs).written.length := by
  by_cases hNone : part = [] ∧ power = []
  · -- only digits: the first part of what is taken is long enough
    obtain ⟨rfl, rfl⟩ := hNone
    simp only [List.append_nil] at hFront ⊢
    have hLength := length_le_digits h.whole_isDigits hFront
    obtain ⟨rest, -, hDecimal⟩ := decimal_eq_of_text cs
    rw [hDecimal]
    simp only [plain, List.length_append]
    omega
  · obtain ⟨ahead, rfl⟩ := hFront
    have hText : whole ++ (part ++ power) ++ ahead = whole ++ (part ++ (power ++ ahead)) := by
      simp
    have hWhole := digits_append h.whole_isDigits
      (h.stopsBefore _ hNone (by decide) (by decide) (by decide) ahead)
    rw [hText, decimal_eq hWhole]
    simp only [plain, List.length_append]
    have hPower := h.power_cases
    rcases h.part_cases with rfl | hFraction
    · -- no fraction, so there is an exponent
      have hExponent : IsExponent power := by
        rcases hPower with rfl | hExponent
        · exact absurd ⟨rfl, rfl⟩ hNone
        · exact hExponent
      have hNoPoint : StopsBefore (· == '.') ([] ++ (power ++ ahead)) :=
        hExponent.stopsBefore (by decide) (by decide) ahead
      rw [fraction_eq_nil hNoPoint]
      have hLength := length_le_exponent hExponent (List.prefix_append power ahead)
      simpa using hLength
    · rcases hPower with rfl | hExponent
      · have hLength := length_le_fraction hFraction (List.prefix_append part ([] ++ ahead))
        simp only [List.length_nil]
        omega
      · have hNoDigit : StopsBefore Radix.decimal.isDigit (power ++ ahead) :=
          hExponent.stopsBefore (by decide) (by decide) ahead
        rw [fraction_append hFraction hNoDigit, List.drop_left]
        have hLength := length_le_exponent hExponent (List.prefix_append power ahead)
        omega

-- ---------------------------------------------------------------------------
-- Numbers in any notation
-- ---------------------------------------------------------------------------

theorem number_eq_decimal {cs : List Char}
    (h : ∀ m rest, cs = '0' :: m :: rest → Radix.ofMark? m = none) :
    number cs = .ok (decimal cs) := by
  unfold number
  split
  · next m rest =>
    rw [h m rest rfl]
  · rfl

theorem number_eq_marked {m : Char} {radix : Radix} (h : Radix.ofMark? m = some radix)
    (rest : List Char) : number ('0' :: m :: rest) = marked radix ['0', m] rest := by
  simp only [number, h]

/-- Every number is read behind a mark or as a decimal one. -/
theorem number_cases (cs : List Char) :
    (∃ m rest radix, cs = '0' :: m :: rest ∧ Radix.ofMark? m = some radix) ∨
      ∀ m rest, cs = '0' :: m :: rest → Radix.ofMark? m = none := by
  by_cases hMark : ∃ m rest radix, cs = '0' :: m :: rest ∧ Radix.ofMark? m = some radix
  · exact Or.inl hMark
  · refine Or.inr fun m rest hText => ?_
    cases hRadix : Radix.ofMark? m with
    | none => rfl
    | some radix => exact absurd ⟨m, rest, radix, hText, hRadix⟩ hMark

theorem isNumber_marked {m : Char} {radix : Radix} {ds : List Char}
    (hMark : Radix.ofMark? m = some radix) (hDigits : IsDigits radix ds) :
    IsNumber radix.kind ('0' :: m :: ds) := by
  rcases Radix.ofMark?_eq_some_iff.1 hMark with ⟨rfl, hLetter⟩ | ⟨rfl, hLetter⟩
  · exact .binary hLetter hDigits
  · exact .hex hLetter hDigits

/-- What is taken as a number is one. -/
theorem number_valid {c : Char} {cs : List Char} {lexeme : Lexeme} (hDigit : c.isDigit = true)
    (h : number (c :: cs) = .ok lexeme) :
    ∃ kind written, lexeme = plain kind written ∧ IsNumber kind written := by
  rcases number_cases (c :: cs) with ⟨m, rest, radix, hText, hMark⟩ | hDecimal
  · rw [hText, number_eq_marked hMark] at h
    unfold marked at h
    split at h
    · cases h
    · next hSome =>
      cases h
      exact ⟨radix.kind, _, rfl, isNumber_marked hMark (isDigits_digits hSome)⟩
  · rw [number_eq_decimal hDecimal] at h
    obtain ⟨whole, part, power, hParts, hTaken⟩ := decimal_parts hDigit cs
    rw [hTaken] at h
    cases h
    exact ⟨_, _, rfl, hParts.isNumber⟩

theorem marked_append {radix : Radix} {mark ds ahead : List Char} (hDigits : IsDigits radix ds)
    (hStop : StopsBefore isNumberPart ahead) :
    marked radix mark (ds ++ ahead) = .ok (plain radix.kind (mark ++ ds)) := by
  have hRun := digits_append hDigits (hStop.mono fun _ => isNumberPart_of_isDigit)
  rw [marked, hRun, if_neg hDigits.1]

/-- A number is taken whole, and nothing behind it. -/
theorem number_append {kind : TokenKind} {cs ahead : List Char} (h : IsNumber kind cs)
    (hStop : StopsBefore isNumberPart ahead) : number (cs ++ ahead) = .ok (plain kind cs) := by
  rcases h.cases with
    ⟨whole, part, power, hParts, rfl, rfl⟩ | ⟨m, radix, ds, hMark, hDigits, rfl, rfl⟩
  · have hText : whole ++ (part ++ power) ++ ahead = whole ++ (part ++ (power ++ ahead)) := by
      simp
    -- behind a single zero there is a point, a letter e or the end of the number
    have hNoMark : StopsBefore (fun c => (Radix.ofMark? c).isSome) (part ++ (power ++ ahead)) :=
      stopsBefore_fraction hParts.part_cases (by decide)
        (stopsBefore_exponent hParts.power_cases (by decide) (by decide)
          (hStop.mono fun _ => isNumberPart_of_mark))
    have hDecimal : ∀ m rest, whole ++ (part ++ (power ++ ahead)) = '0' :: m :: rest →
        Radix.ofMark? m = none := by
      intro m rest hSame
      cases hWhole : whole with
      | nil => exact absurd hWhole hParts.whole_isDigits.1
      | cons d ds =>
        rw [hWhole, List.cons_append] at hSame
        cases ds with
        | nil =>
          have hTail : part ++ (power ++ ahead) = m :: rest := (List.cons.inj hSame).2
          have hNot := hNoMark m (by rw [hTail, List.head?_cons])
          simpa using hNot
        | cons e ds =>
          obtain rfl : e = m := by simpa using (List.cons.inj (List.cons.inj hSame).2).1
          exact ofMark?_of_mem_numerals e (hParts.whole_isDigits.2 e (by simp [hWhole]))
    rw [hText, number_eq_decimal hDecimal, decimal_append hParts hStop]
  · -- behind the mark of a base there are only digits
    show number ('0' :: m :: (ds ++ ahead)) = _
    rw [number_eq_marked hMark, marked_append hDigits hStop]
    rfl

/-- A decimal number in front of the mark of a base is a single zero. -/
theorem length_le_one_of_mark {whole part power rest : List Char} {m : Char}
    (h : DecimalParts whole part power) (hMark : (Radix.ofMark? m).isSome = true)
    (hFront : whole ++ (part ++ power) <+: '0' :: m :: rest) :
    (whole ++ (part ++ power)).length ≤ 1 := by
  obtain ⟨ahead, hText⟩ := hFront
  cases hWhole : whole with
  | nil => exact absurd hWhole h.whole_isDigits.1
  | cons d ds =>
    rw [hWhole] at hText
    have hTail : ds ++ (part ++ (power ++ ahead)) = m :: rest := by
      simpa using (List.cons.inj hText).2
    cases ds with
    | cons e ds =>
      -- a second digit would be the mark
      obtain rfl : e = m := (List.cons.inj hTail).1
      have hDigit := h.whole_isDigits.2 e (by simp [hWhole])
      rw [ofMark?_of_mem_numerals e hDigit] at hMark
      cases hMark
    | nil =>
      by_cases hNone : part = [] ∧ power = []
      · simp [hNone]
      · -- so would be the point or the letter of a further part
        have hStop := h.stopsBefore (fun c => (Radix.ofMark? c).isSome) hNone
          (by decide) (by decide) (by decide) ahead
        have hNot : (Radix.ofMark? m).isSome = false :=
          hStop m (by rw [← List.nil_append (part ++ _), hTail, List.head?_cons])
        rw [hNot] at hMark
        cases hMark

/-- No number at the front of a text is longer than the one taken. -/
theorem length_le_number {kind : TokenKind} {cs text : List Char} {lexeme : Lexeme}
    (hNumber : IsNumber kind cs) (hFront : cs <+: text) (h : number text = .ok lexeme) :
    cs.length ≤ lexeme.written.length := by
  rcases number_cases text with ⟨m, rest, radix, rfl, hMark⟩ | hDecimal
  · rw [number_eq_marked hMark] at h
    unfold marked at h
    split at h
    · cases h
    · cases h
      show cs.length ≤ ('0' :: m :: digits radix rest).length
      rcases hNumber.cases with
        ⟨whole, part, power, hParts, rfl, -⟩ | ⟨m', radix', ds, hMark', hDigits, rfl, -⟩
      · have hOne := length_le_one_of_mark hParts (by rw [hMark]; rfl) hFront
        simp only [List.length_cons]
        omega
      · -- both have the same mark, hence the same base
        rw [List.cons_prefix_cons, List.cons_prefix_cons] at hFront
        obtain ⟨-, rfl, hFront⟩ := hFront
        obtain rfl : radix' = radix := Option.some.inj (hMark'.symm.trans hMark)
        have hLength := length_le_digits hDigits hFront
        simpa using hLength
  · rw [number_eq_decimal hDecimal] at h
    cases h
    rcases hNumber.cases with
      ⟨whole, part, power, hParts, rfl, -⟩ | ⟨m, radix, ds, hMark, hDigits, rfl, -⟩
    · exact length_le_decimal hParts hFront
    · -- a mark would have been recognised
      obtain ⟨ahead, rfl⟩ := hFront
      rw [hDecimal m (ds ++ ahead) rfl] at hMark
      cases hMark

end Lexeme

end HdlLex
