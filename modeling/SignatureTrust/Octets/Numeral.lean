import SignatureTrust.Octets

/-!
# `Octets.Numeral` — octets as base-256 digits

A byte string is also an unsigned number, most significant octet first. Serial numbers and RSA
values are both of this kind. `value` is the number; `ofNat` is its shortest numeral; and the two
schoolbook steps — multiply by a small number and add (`mulAdd`), divide by a small number
(`divMod`) — work digit by digit, so that a serial of any length becomes decimal text without
leaving its own digits.

**Both steps keep the value** (`value_mulAdd`, `valueFrom_divMod`): no digit ever overflows, since a
carry is below the multiplier and a remainder below the divisor.
-/

set_option autoImplicit false

namespace SignatureTrust.Octets

/-- Reads further digits after a number already read. -/
def valueFrom : Nat → Octets → Nat
  | n, [] => n
  | n, b :: bs => valueFrom (n * 256 + b.toNat) bs

def value (bs : Octets) : Nat := valueFrom 0 bs

def withoutLeadingZeros (bs : Octets) : Octets := bs.dropWhile (· == 0)

def ofNatOnto (n : Nat) (tail : Octets) : Octets :=
  if h : n = 0 then tail else ofNatOnto (n / 256) (UInt8.ofNat n :: tail)
termination_by n
decreasing_by exact Nat.div_lt_self (Nat.pos_of_ne_zero h) (by decide)

/-- The shortest numeral of a number: no leading zero, and nothing at all for zero. -/
def ofNat (n : Nat) : Octets := ofNatOnto n []

/-! ## The two schoolbook steps -/

/-- Multiplies by `m` and adds `c`, from the least significant digit; what does not fit is carried
out. -/
def mulAdd (m : Nat) : Octets → Nat → Nat × Octets
  | [], c => (c, [])
  | b :: bs, c =>
      let (carry, low) := mulAdd m bs c
      let v := b.toNat * m + carry
      (v / 256, UInt8.ofNat v :: low)

/-- Divides by `d`, from the most significant digit, with a remainder `r` already in hand. -/
def divMod (d : Nat) : Octets → Nat → Octets × Nat
  | [], r => ([], r)
  | b :: bs, r =>
      let v := r * 256 + b.toNat
      let (low, rest) := divMod d bs (v % d)
      (UInt8.ofNat (v / d) :: low, rest)

theorem toNat_ofNat_of_lt {n : Nat} (h : n < 256) : (UInt8.ofNat n).toNat = n := by
  rw [UInt8.toNat_ofNat']
  exact Nat.mod_eq_of_lt h

theorem add_shiftLeft (a b k : Nat) : (a + b) <<< k = a <<< k + b <<< k := by
  simp only [Nat.shiftLeft_eq, Nat.add_mul]

theorem mul_shiftLeft (a m k : Nat) : (a * m) <<< k = a <<< k * m := by
  simp only [Nat.shiftLeft_eq, Nat.mul_right_comm]

theorem shiftLeft_digit_succ (n k : Nat) : n <<< (8 * (k + 1)) = (n * 256) <<< (8 * k) := by
  rw [Nat.mul_succ, Nat.add_comm, Nat.shiftLeft_add, Nat.shiftLeft_eq n 8]

/-- Reading on from `n` shifts `n` past the digits that follow. -/
theorem valueFrom_eq (n : Nat) (bs : Octets) :
    valueFrom n bs = n <<< (8 * bs.length) + value bs := by
  induction bs generalizing n with
  | nil => simp [valueFrom, value]
  | cons b bs ih =>
      have h0 := ih (0 * 256 + b.toNat)
      have hn := ih (n * 256 + b.toNat)
      rw [Nat.zero_mul, Nat.zero_add] at h0
      simp only [value, valueFrom, List.length_cons, Nat.zero_mul, Nat.zero_add] at *
      rw [hn, h0, shiftLeft_digit_succ, add_shiftLeft, Nat.add_assoc]

theorem length_mulAdd (m : Nat) (bs : Octets) (c : Nat) :
    (mulAdd m bs c).2.length = bs.length := by
  induction bs with
  | nil => rfl
  | cons b bs ih => simp [mulAdd, ih]

/-- Multiplying keeps the value: what was carried out stands in front of the digits. -/
theorem value_mulAdd (m : Nat) (bs : Octets) (c : Nat) :
    (mulAdd m bs c).1 <<< (8 * bs.length) + value (mulAdd m bs c).2 = value bs * m + c := by
  induction bs with
  | nil => simp [mulAdd, value, valueFrom]
  | cons b bs ih =>
      have hlen := length_mulAdd m bs c
      have hv := valueFrom_eq (0 * 256 + b.toNat) bs
      have hout := valueFrom_eq (0 * 256 + (UInt8.ofNat (b.toNat * m + (mulAdd m bs c).1)).toNat)
        (mulAdd m bs c).2
      simp only [Nat.zero_mul, Nat.zero_add, UInt8.toNat_ofNat', hlen] at hv hout
      simp only [mulAdd, value, valueFrom, List.length_cons, Nat.zero_mul, Nat.zero_add,
        UInt8.toNat_ofNat']
      rw [hv, hout, shiftLeft_digit_succ]
      generalize (mulAdd m bs c).1 = carry at *
      generalize value (mulAdd m bs c).2 = low at *
      -- the digit that stays and the carry, shifted alike, are the whole product again
      have split := Nat.div_add_mod' (b.toNat * m + carry) 256
      have shifted := add_shiftLeft ((b.toNat * m + carry) / 256 * 256)
          ((b.toNat * m + carry) % 256) (8 * bs.length)
      rw [split, add_shiftLeft, mul_shiftLeft b.toNat] at shifted
      rw [Nat.add_mul]
      change _ + (((b.toNat * m + carry) % 256) <<< (8 * bs.length) + low) = _
      omega

/-- Dividing keeps the value: quotient times divisor plus remainder. -/
theorem valueFrom_divMod {d : Nat} (hd : 0 < d) (bs : Octets) (a r : Nat) (hr : r < d) :
    valueFrom (a * d + r) bs = valueFrom a (divMod d bs r).1 * d + (divMod d bs r).2 := by
  induction bs generalizing a r with
  | nil => simp [divMod, valueFrom]
  | cons b bs ih =>
      have hb : b.toNat < 256 := b.toNat_lt
      have hv : (r * 256 + b.toNat) / d < 256 := by
        rw [Nat.div_lt_iff_lt_mul hd]
        have : r * 256 ≤ (d - 1) * 256 := Nat.mul_le_mul_right _ (by omega)
        omega
      have same : (a * d + r) * 256 + b.toNat =
          (a * 256 + (r * 256 + b.toNat) / d) * d + (r * 256 + b.toNat) % d := by
        have split := Nat.div_add_mod' (r * 256 + b.toNat) d
        rw [Nat.add_mul, Nat.add_mul, Nat.mul_right_comm a 256 d]
        omega
      simp only [divMod, valueFrom, toNat_ofNat_of_lt hv, same]
      exact ih _ _ (Nat.mod_lt _ hd)

/-- Halving a nonzero numeral, or dividing it by anything larger, makes it smaller. -/
theorem value_divMod_lt {d : Nat} (hd : 2 ≤ d) {bs : Octets} (h : value bs ≠ 0) :
    value (divMod d bs 0).1 < value bs := by
  have key := valueFrom_divMod (by omega : 0 < d) bs 0 0 (by omega)
  simp only [Nat.zero_mul, Nat.zero_add] at key
  change value bs = value (divMod d bs 0).1 * d + _ at key
  have hle : value (divMod d bs 0).1 * 2 ≤ value (divMod d bs 0).1 * d :=
    Nat.mul_le_mul_left _ hd
  omega

end SignatureTrust.Octets
