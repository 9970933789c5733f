import Mathlib.Data.List.Induction
import SignatureTrust.Proofs.Text.Blank
import SignatureTrust.Text.Decimal

/-!
# `Proofs.Text.Decimal` — digits and the numbers they denote

A number is read back from its decimal digits (`readDigits?_decimal`). In the other direction digits
are not quite determined by their number, because there may be zeros in front that say nothing;
**these are all that is lost** by reading digits and writing the number again
(`decimal_ofDigitChars`).
-/

set_option autoImplicit false

namespace SignatureTrust.Text

variable {c : Char} {n : Nat} {digits : List Char}

theorem toNat_of_isDigit (h : isDigit c = true) : 48 ≤ c.toNat ∧ c.toNat ≤ 57 := by
  obtain ⟨h0, h9⟩ := Bool.and_eq_true_iff.1 h
  exact ⟨of_decide_eq_true h0, of_decide_eq_true h9⟩

theorem digit_lt (h : isDigit c = true) : c.toNat - '0'.toNat < 10 := by
  have h9 : c.toNat ≤ 57 := (toNat_of_isDigit h).2
  show c.toNat - 48 < 10
  omega

theorem digitChar_digit (h : isDigit c = true) : Nat.digitChar (c.toNat - '0'.toNat) = c := by
  have h0 : 48 ≤ c.toNat := (toNat_of_isDigit h).1
  apply Char.toNat_inj.1
  rw [Nat.toNat_digitChar_of_lt_ten (digit_lt h)]
  show 48 + (c.toNat - 48) = c.toNat
  omega

theorem isBlank_of_isDigit (h : isDigit c = true) : isBlank c = false := by
  obtain ⟨h0, h9⟩ := toNat_of_isDigit h
  simp [isBlank]
  omega

theorem isDigit_of_mem_decimal (h : c ∈ decimal n) : isDigit c = true :=
  Nat.isDigit_of_mem_toDigits (by decide) (by decide) h

theorem decimal_of_lt (h : n < 10) : decimal n = [Nat.digitChar n] := Nat.toDigits_of_lt_base h

theorem decimal_step (h : 10 ≤ n) : decimal n = decimal (n / 10) ++ [Nat.digitChar (n % 10)] :=
  Nat.toDigits_of_base_le (by decide) h

theorem readDigits?_decimal (n : Nat) : readDigits? (decimal n) = some n := by
  have hsome : (decimal n).isEmpty = false := by
    rw [List.isEmpty_eq_false_iff]
    exact Nat.toDigits_ne_nil
  have hall : (decimal n).all isDigit = true := List.all_eq_true.2 fun _ => isDigit_of_mem_decimal
  unfold readDigits?
  rw [hsome, hall, if_neg (by decide), decimal, Nat.ofDigitChars_ten_toDigits]

theorem readDigits?_eq_some_iff : readDigits? digits = some n ↔
    digits ≠ [] ∧ (∀ c ∈ digits, isDigit c = true) ∧
      Nat.ofDigitChars 10 digits 0 = n := by
  unfold readDigits?
  rw [Option.ite_none_left_eq_some, Option.some_inj, Bool.not_eq_true, Bool.or_eq_false_iff,
    Bool.not_eq_false', List.isEmpty_eq_false_iff, List.all_eq_true, and_assoc]

/-! ## Zeros in front -/

/-- Decimal digits without the zeros in front. A zero that stands alone stays. -/
def withoutZeros : List Char → List Char
  | '0' :: d :: ds => withoutZeros (d :: ds)
  | ds => ds

/-- Only zero is written with a zero in front. -/
theorem head?_decimal (h : n ≠ 0) : (decimal n).head? ≠ some '0' := by
  induction n using Nat.strongRecOn with
  | ind n ih =>
      rcases Nat.lt_or_ge n 10 with hn | hn
      · rw [decimal_of_lt hn]
        intro hzero
        have hchar : Nat.digitChar n = Nat.digitChar 0 := Option.some.inj hzero
        have hcode := congrArg Char.toNat hchar
        rw [Nat.toNat_digitChar_of_lt_ten hn] at hcode
        exact h (Nat.add_left_cancel hcode)
      · have hhead : (decimal n).head? = (decimal (n / 10)).head? := by
          obtain ⟨d, ds, hds⟩ : ∃ d ds, decimal (n / 10) = d :: ds :=
            List.exists_cons_of_ne_nil Nat.toDigits_ne_nil
          rw [decimal_step hn, hds]
          rfl
        rw [hhead]
        exact ih (n / 10) (by omega) (by omega)

/-- Digits that do not begin with a zero are the decimal digits of their number. -/
theorem decimal_ofDigitChars_of_head (hsome : digits ≠ [])
    (h : ∀ c ∈ digits, isDigit c = true) (hhead : digits.head? ≠ some '0') :
    0 < Nat.ofDigitChars 10 digits 0 ∧ decimal (Nat.ofDigitChars 10 digits 0) = digits := by
  induction digits using List.reverseRecOn with
  | nil => exact absurd rfl hsome
  | append_singleton digits c ih =>
      have hc : isDigit c = true := h c (List.mem_append_right digits List.mem_cons_self)
      have hvalue : Nat.ofDigitChars 10 (digits ++ [c]) 0 =
          10 * Nat.ofDigitChars 10 digits 0 + (c.toNat - '0'.toNat) :=
        Nat.ofDigitChars_append 0
      have hlast : decimal (c.toNat - '0'.toNat) = [c] := by
        rw [decimal_of_lt (digit_lt hc), digitChar_digit hc]
      cases digits with
      | nil =>
          have hpos : c.toNat - '0'.toNat ≠ 0 := by
            intro hzero
            apply hhead
            show some c = some '0'
            rw [← digitChar_digit hc, hzero]
            rfl
          rw [hvalue, Nat.ofDigitChars_nil, Nat.mul_zero, Nat.zero_add]
          exact ⟨Nat.pos_of_ne_zero hpos, hlast⟩
      | cons d ds =>
          obtain ⟨hpos, hdigits⟩ :=
            ih (List.cons_ne_nil d ds) (fun c hc => h c (List.mem_append_left _ hc)) hhead
          rw [hvalue]
          refine ⟨by omega, ?_⟩
          rw [decimal, ← Nat.toDigits_append_toDigits (by decide) hpos (digit_lt hc)]
          exact congrArg₂ (· ++ ·) hdigits hlast

/-- Reading digits and writing the number again takes off the zeros in front, and nothing else. -/
theorem decimal_ofDigitChars (hsome : digits ≠ []) (h : ∀ c ∈ digits, isDigit c = true) :
    decimal (Nat.ofDigitChars 10 digits 0) = withoutZeros digits := by
  fun_induction withoutZeros digits with
  | case1 d ds ih =>
      obtain ⟨-, hds⟩ := List.forall_mem_cons.1 h
      exact ih (List.cons_ne_nil d ds) hds
  | case2 digits hnot =>
      by_cases hhead : digits.head? = some '0'
      · obtain ⟨ds, rfl⟩ := List.head?_eq_some_iff.1 hhead
        cases ds with
        | nil => rfl
        | cons d ds => exact absurd rfl (hnot d ds)
      · exact (decimal_ofDigitChars_of_head hsome h hhead).2

end SignatureTrust.Text
