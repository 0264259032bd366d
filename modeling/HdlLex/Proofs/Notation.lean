import HdlLex.Toml.Notation
import Mathlib.Data.List.Basic

/-!
# Notation — texts and numbers in plain notation

Main results:

* `Toml.isDecimal_toDigits` — the digits of a number have no leading zeros.
* `Toml.notates_toString` — a number of up to sixty-three bits is written in
  its digits.
* `Toml.notates_quoted` — a text that needs no escapes is written between
  double quotes.
-/

namespace HdlLex.Toml

/-- A positive number does not begin with a zero. -/
theorem exists_toDigits_cons {n : Nat} (h : 0 < n) :
    ∃ c more, Nat.toDigits 10 n = c :: more ∧ c ≠ '0' := by
  induction n using Nat.strongRecOn with
  | _ n ih =>
    by_cases hSmall : n < 10
    · have hDigit : ∀ d < 10, 0 < d → d.digitChar ≠ '0' := by decide
      exact ⟨_, [], Nat.toDigits_of_lt_base hSmall, hDigit n hSmall h⟩
    · -- the last digit stands behind those of a smaller number, which is positive as well
      obtain ⟨c, more, hDigits, hFirst⟩ := ih (n / 10) (by omega) (by omega)
      have hSplit := Nat.toDigits_append_toDigits (b := 10) (n := n / 10) (d := n % 10)
        (by omega) (by omega) (by omega)
      rw [Nat.div_add_mod, hDigits, List.cons_append] at hSplit
      exact ⟨c, _, hSplit.symm, hFirst⟩

theorem isDecimal_toDigits (n : Nat) : IsDecimal (Nat.toDigits 10 n) where
  isDigit _ hMem := Nat.isDigit_of_mem_toDigits (by omega) (by omega) hMem
  exists_cons := by
    cases n with
    | zero => exact ⟨'0', [], rfl, fun _ => rfl⟩
    | succ n =>
      obtain ⟨c, more, hDigits, hFirst⟩ := exists_toDigits_cons n.succ_pos
      exact ⟨c, more, hDigits, fun hZero => absurd hZero hFirst⟩

/-- A number of up to sixty-three bits is written in its digits. -/
theorem notates_toString {n : Nat} (h : n < Nat.pow 2 63) :
    Notates (toString n).toList (.integer n) := by
  have hDigits : (toString n).toList = Nat.toDigits 10 n := Nat.toList_repr
  have hNumber : Nat.ofDigitChars 10 (Nat.toDigits 10 n) 0 = n :=
    Nat.ofDigitChars_toDigits (by omega) (by omega)
  have hNotates := Notates.integer (isDecimal_toDigits n) (by rw [hNumber]; exact h)
  rw [hNumber] at hNotates
  rw [hDigits]
  exact hNotates

/-- What passes a test is no character that fails it. -/
theorem ne_of_test {test : Char → Bool} {c mark : Char} (h : test c = true)
    (hMark : test mark = false) : c ≠ mark := by
  rintro rfl
  rw [h] at hMark
  cases hMark

/-- What may stand in a key without quotes needs no escapes in a text. -/
theorem isQuotable_of_isBareKeyChar {c : Char} (h : isBareKeyChar c = true) :
    isQuotable c = true := by
  have hControls : ∀ n < 0x20, isBareKeyChar (Char.ofNat n) = false := by decide
  have hVisible : 0x20 ≤ c.toNat := by
    refine Nat.le_of_not_lt fun hControl => ?_
    exact ne_of_test h (hControls c.toNat hControl) (Char.ofNat_toNat c).symm
  have hOther : c ≠ '\x7F' := ne_of_test h (by decide)
  have hDelete : c.toNat ≠ 0x7F := fun hSame => hOther (Char.toNat_inj.1 hSame)
  have hQuote : c ≠ '"' := ne_of_test h (by decide)
  have hBackslash : c ≠ '\\' := ne_of_test h (by decide)
  simp [isQuotable, isPlain, hVisible, hDelete, hQuote, hBackslash]

/-- A text that needs no escapes is written between double quotes. -/
theorem notates_quoted {text : String} (h : text.toList.all isBareKeyChar = true) :
    Notates ("\"" ++ text ++ "\"").toList (.string text) := by
  have hQuotable : text.toList.all isQuotable = true :=
    List.all_eq_true.2 fun c hMem => isQuotable_of_isBareKeyChar (List.all_eq_true.1 h c hMem)
  have hNotates := Notates.string hQuotable
  rw [String.ofList_toList] at hNotates
  rw [String.toList_append, String.toList_append]
  exact hNotates

/-- A line feed stands behind the first line of a closed document. -/
theorem Assignment.document_true_cons (first : Assignment) (later : List Assignment) :
    document true (first :: later) = first.line ++ '\n' :: document true later := by
  cases later with
  | nil => rfl
  | cons next later => rfl

end HdlLex.Toml
