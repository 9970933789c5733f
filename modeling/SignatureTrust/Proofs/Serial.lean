import SignatureTrust.Proofs.Octets.Numeral
import SignatureTrust.Proofs.Text.Decimal
import SignatureTrust.Serial

/-!
# `Proofs.Serial` — serials as numbers

A serial comes as octets, as a number or as decimal text, and what is kept is the same for one
number: **its shortest numeral in base 256** (`ofOctets_eq`, `ofDecimal?_eq`). In the other
direction the remainders of dividing by ten are the decimal digits of the number (`decimalOnto_eq`).
Hence

> a serial is read back from its decimal text **just if it has no leading zero octet**
> (`ofDecimal?_toDecimal_iff`), which is so however one is made (`built_iff_shortest`).

The carry of a multiplication by ten stays below ten, so it is at most one octet in front of the
others.
-/

set_option autoImplicit false

namespace SignatureTrust.Serial

open Octets (value Shortest)
open Text (digit_lt decimal_step decimal_of_lt isDigit_of_mem_decimal readDigits?_decimal
  isBlank_of_isDigit)

variable {s : Serial} {bs : Octets} {digits tail : List Char}

theorem ofOctets_eq (bs : Octets) : ofOctets bs = ofNat (value bs) := by
  rw [ofOctets, ofNat, Octets.withoutLeadingZeros_eq_ofNat]

/-! ## Reading digits -/

theorem value_appendDigit {c : Char} (h : Text.isDigit c = true) (bs : Octets) :
    value (appendDigit bs c) = 10 * value bs + (c.toNat - '0'.toNat) := by
  have hvalue := Octets.value_mulAdd 10 bs (c.toNat - '0'.toNat)
  have hlength := Octets.length_mulAdd 10 bs (c.toNat - '0'.toNat)
  have hcarry := Octets.carry_mulAdd_lt (digit_lt h) bs
  unfold appendDigit
  revert hvalue hlength hcarry
  generalize Octets.mulAdd 10 bs (c.toNat - '0'.toNat) = product
  obtain ⟨carry, low⟩ := product
  intro hvalue hlength hcarry
  show value (if carry = 0 then low else UInt8.ofNat carry :: low) = _
  rw [Nat.mul_comm 10, ← hvalue]
  split
  · next hzero => rw [hzero, Nat.zero_shiftLeft, Nat.zero_add]
  · have hdigit : (UInt8.ofNat carry).toNat = carry :=
      Octets.toNat_ofNat_of_lt (Nat.lt_trans hcarry (by decide))
    have hfront := Octets.valueFrom_eq carry low
    show Octets.valueFrom (0 * 256 + (UInt8.ofNat carry).toNat) low = _
    rw [Nat.zero_mul, Nat.zero_add, hdigit, hfront, hlength]

theorem value_foldl_appendDigit (h : ∀ c ∈ digits, Text.isDigit c = true) (bs : Octets) :
    value (digits.foldl appendDigit bs) = Nat.ofDigitChars 10 digits (value bs) := by
  induction digits generalizing bs with
  | nil => rfl
  | cons c digits ih =>
      obtain ⟨hc, hdigits⟩ := List.forall_mem_cons.1 h
      rw [List.foldl_cons, ih hdigits, value_appendDigit hc, Nat.ofDigitChars_cons]

/-- Decimal text is the number of its digits, if there are any and nothing else. -/
theorem ofDecimal?_eq (text : String) :
    ofDecimal? text = (Text.readDigits? (Text.trim text.toList)).map ofNat := by
  unfold ofDecimal? Text.readDigits?
  generalize Text.trim text.toList = digits
  by_cases hbad : (digits.isEmpty || !digits.all Text.isDigit) = true
  · simp only [if_pos hbad, Option.map_none]
  · have hdigits : ∀ c ∈ digits, Text.isDigit c = true := by
      rw [Bool.not_eq_true, Bool.or_eq_false_iff, Bool.not_eq_false'] at hbad
      exact List.all_eq_true.1 hbad.2
    simp only [if_neg hbad, Option.map_some, ofOctets_eq, value_foldl_appendDigit hdigits]
    rfl

/-! ## Writing digits -/

theorem decimalOnto_eq (bs : Octets) (tail : List Char) :
    decimalOnto bs tail = if value bs = 0 then tail else Text.decimal (value bs) ++ tail := by
  fun_induction decimalOnto bs tail with
  | case1 bs tail hzero => rw [if_pos hzero]
  | case2 bs tail hnonzero ih =>
      have hvalue := Octets.value_eq_divMod (by decide : 0 < 10) bs
      have hdigit := Octets.snd_divMod_lt (by decide : 0 < 10) bs
      rw [ih, if_neg hnonzero]
      generalize Octets.divMod 10 bs 0 = quotient at hvalue hdigit ⊢
      obtain ⟨high, digit⟩ := quotient
      dsimp only at hvalue hdigit ⊢
      split
      · next hhigh =>
          have hone : value bs = digit := by omega
          rw [hone, decimal_of_lt hdigit, List.singleton_append]
      · next hhigh =>
          have hten : 10 ≤ value bs := by omega
          have hquotient : value bs / 10 = value high := by omega
          have hremainder : value bs % 10 = digit := by omega
          rw [decimal_step hten, hquotient, hremainder, List.append_assoc, List.singleton_append]

/-- The decimal text is that of the number. -/
theorem toDecimal_ofNat (n : Nat) : (ofNat n).toDecimal = String.ofList (Text.decimal n) := by
  unfold toDecimal ofNat
  by_cases hn : n = 0
  · rw [hn, Octets.ofNat_zero]
    rfl
  · have hsome : Octets.ofNat n ≠ [] := by
      rw [Octets.ofNat_of_ne_zero hn]
      exact List.append_ne_nil_of_right_ne_nil _ (List.cons_ne_nil _ _)
    rw [if_neg (by simpa using hsome), decimalOnto_eq, Octets.value_ofNat, if_neg hn,
      List.append_nil]

/-! ## Back and forth -/

theorem ofDecimal?_toDecimal_ofNat (n : Nat) : ofDecimal? (ofNat n).toDecimal = some (ofNat n) := by
  have hblank : ∀ c ∈ Text.decimal n, Text.isBlank c = false :=
    fun _ h => isBlank_of_isDigit (isDigit_of_mem_decimal h)
  rw [toDecimal_ofNat, ofDecimal?_eq, String.toList_ofList, Text.trim_eq_self hblank,
    readDigits?_decimal, Option.map_some]

/-- **A serial is read back from its decimal text just if it has no leading zero octet.** -/
theorem ofDecimal?_toDecimal_iff : ofDecimal? s.toDecimal = some s ↔ s.octets.Shortest := by
  constructor
  · intro h
    rw [ofDecimal?_eq] at h
    obtain ⟨n, -, rfl⟩ := Option.map_eq_some_iff.1 h
    exact Octets.shortest_ofNat n
  · intro h
    have hs : ofNat (value s.octets) = s := congrArg Serial.mk (Octets.ofNat_value h)
    rw [← hs, ofDecimal?_toDecimal_ofNat]

/-- What octets, a number or a decimal text make. -/
inductive Built : Serial → Prop
  | octets (bs : Octets) : Built (ofOctets bs)
  | number (n : Nat) : Built (ofNat n)
  | decimal {text : String} {s : Serial} (read : ofDecimal? text = some s) : Built s

theorem built_iff_shortest : s.Built ↔ s.octets.Shortest := by
  constructor
  · intro h
    cases h with
    | octets bs => exact Octets.shortest_withoutLeadingZeros bs
    | number n => exact Octets.shortest_ofNat n
    | decimal read =>
        rw [ofDecimal?_eq] at read
        obtain ⟨n, -, rfl⟩ := Option.map_eq_some_iff.1 read
        exact Octets.shortest_ofNat n
  · intro h
    exact .decimal (ofDecimal?_toDecimal_iff.2 h)

end SignatureTrust.Serial
