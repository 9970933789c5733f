import Mathlib.Data.List.Induction
import SignatureTrust.Octets.Numeral

/-!
# `Proofs.Octets.Numeral` — one numeral for each number

Octets that differ in leading zeros are the same number, and of these **one has no leading zero: the
shortest numeral** (`ofNat_value`). To leave out leading zeros is therefore to write the value anew
(`withoutLeadingZeros_eq_ofNat`).

Of the two schoolbook steps it is said here how large they get: a carry is below the multiplier and
a remainder below the divisor, so either is a digit.
-/

set_option autoImplicit false

namespace SignatureTrust.Octets

variable {bs cs tail : Octets} {b : UInt8} {n : Nat}

/-- No leading zero. -/
def Shortest (bs : Octets) : Prop := bs.head? ≠ some 0

theorem valueFrom_append : valueFrom n (bs ++ cs) = valueFrom (valueFrom n bs) cs := by
  induction bs generalizing n with
  | nil => rfl
  | cons b bs ih => exact ih

theorem value_append_singleton : value (bs ++ [b]) = value bs * 256 + b.toNat := valueFrom_append

theorem ofNatOnto_of_ne_zero (h : n ≠ 0) :
    ofNatOnto n tail = ofNatOnto (n / 256) (UInt8.ofNat n :: tail) := by
  rw [ofNatOnto, dif_neg h]

theorem ofNat_zero : ofNat 0 = [] := by
  rw [ofNat, ofNatOnto, dif_pos rfl]

theorem ofNatOnto_eq (n : Nat) (tail : Octets) : ofNatOnto n tail = ofNat n ++ tail := by
  induction n using Nat.strongRecOn generalizing tail with
  | ind n ih =>
      by_cases hn : n = 0
      · rw [hn, ofNat_zero, ofNatOnto, dif_pos rfl, List.nil_append]
      · have hlt : n / 256 < n := Nat.div_lt_self (Nat.pos_of_ne_zero hn) (by decide)
        rw [ofNat, ofNatOnto_of_ne_zero hn, ofNatOnto_of_ne_zero hn, ih _ hlt, ih _ hlt [_],
          List.append_assoc, List.singleton_append]

theorem ofNat_of_ne_zero (h : n ≠ 0) : ofNat n = ofNat (n / 256) ++ [UInt8.ofNat n] := by
  rw [ofNat, ofNatOnto_of_ne_zero h, ofNatOnto_eq]

@[simp] theorem value_ofNat (n : Nat) : value (ofNat n) = n := by
  induction n using Nat.strongRecOn with
  | ind n ih =>
      by_cases hn : n = 0
      · rw [hn, ofNat_zero]
        rfl
      · have hlt : n / 256 < n := Nat.div_lt_self (Nat.pos_of_ne_zero hn) (by decide)
        rw [ofNat_of_ne_zero hn, value_append_singleton, ih _ hlt, UInt8.toNat_ofNat']
        exact Nat.div_add_mod' n 256

theorem Shortest.of_append (h : Shortest (bs ++ cs)) : Shortest bs := by
  intro hzero
  apply h
  rw [List.head?_append, hzero]
  rfl

/-- The shortest numeral of a value is the only one without a leading zero. -/
theorem ofNat_value (h : bs.Shortest) : ofNat (value bs) = bs := by
  induction bs using List.reverseRecOn with
  | nil => exact ofNat_zero
  | append_singleton bs b ih =>
      have hbs : ofNat (value bs) = bs := ih h.of_append
      rw [value_append_singleton]
      have hb : b.toNat < 256 := b.toNat_lt
      by_cases hzero : value bs * 256 + b.toNat = 0
      · -- all of it would be zero, and begin so
        have hvalue : value bs = 0 := by omega
        rw [hvalue, ofNat_zero] at hbs
        have hb0 : b = 0 := UInt8.toNat_inj.1 (by simpa using (by omega : b.toNat = 0))
        subst hbs hb0
        exact absurd rfl h
      · have hhigh : (value bs * 256 + b.toNat) / 256 = value bs := by omega
        have hlow : UInt8.ofNat (value bs * 256 + b.toNat) = b := by
          apply UInt8.toNat_inj.1
          rw [UInt8.toNat_ofNat']
          omega
        rw [ofNat_of_ne_zero hzero, hhigh, hbs, hlow]

theorem shortest_ofNat (n : Nat) : (ofNat n).Shortest := by
  induction n using Nat.strongRecOn with
  | ind n ih =>
      by_cases hn : n = 0
      · rw [hn, ofNat_zero]
        exact nofun
      · have hlt : n / 256 < n := Nat.div_lt_self (Nat.pos_of_ne_zero hn) (by decide)
        rw [ofNat_of_ne_zero hn]
        cases hhigh : ofNat (n / 256) with
        | nil =>
            -- a single digit, which is the number
            have hvalue := value_ofNat (n / 256)
            rw [hhigh] at hvalue
            have hsmall : n < 256 := by
              have hnil : value [] = 0 := rfl
              omega
            intro hzero
            have h0 : (UInt8.ofNat n).toNat = 0 := congrArg UInt8.toNat (Option.some.inj hzero)
            rw [toNat_ofNat_of_lt hsmall] at h0
            exact hn h0
        | cons b bs =>
            have hshort := ih _ hlt
            rw [hhigh] at hshort
            exact hshort

theorem value_withoutLeadingZeros (bs : Octets) : value bs.withoutLeadingZeros = value bs := by
  induction bs with
  | nil => rfl
  | cons b bs ih =>
      rw [withoutLeadingZeros, List.dropWhile_cons]
      split
      · next hb =>
          rw [beq_iff_eq] at hb
          subst hb
          exact ih
      · rfl

theorem shortest_withoutLeadingZeros (bs : Octets) : bs.withoutLeadingZeros.Shortest := by
  intro h
  have hnot := List.head?_dropWhile_not (· == 0) bs
  rw [withoutLeadingZeros] at h
  rw [h] at hnot
  simp at hnot

theorem withoutLeadingZeros_eq_ofNat (bs : Octets) : bs.withoutLeadingZeros = ofNat (value bs) := by
  rw [← value_withoutLeadingZeros, ofNat_value (shortest_withoutLeadingZeros bs)]

/-- What does not fit when a numeral is multiplied is below the multiplier. -/
theorem carry_mulAdd_lt {m c : Nat} (hc : c < m) (bs : Octets) : (mulAdd m bs c).1 < m := by
  induction bs with
  | nil => exact hc
  | cons b bs ih =>
      have hb : b.toNat < 256 := b.toNat_lt
      have hdigit : b.toNat * m ≤ 255 * m := Nat.mul_le_mul_right m (by omega)
      show (b.toNat * m + (mulAdd m bs c).1) / 256 < m
      omega

theorem snd_divMod_lt {d r : Nat} (hr : r < d) (bs : Octets) : (divMod d bs r).2 < d := by
  induction bs generalizing r with
  | nil => exact hr
  | cons b bs ih => exact ih (Nat.mod_lt _ (by omega))

theorem value_eq_divMod {d : Nat} (hd : 0 < d) (bs : Octets) :
    value bs = value (divMod d bs 0).1 * d + (divMod d bs 0).2 := by
  have h := valueFrom_divMod hd bs 0 0 hd
  rwa [Nat.zero_mul, Nat.zero_add] at h

end SignatureTrust.Octets
