import Mathlib.Data.List.Induction
import SignatureTrust.Proofs.Serial

/-!
# `Proofs.Serial.Decimal` — decimal serials of any length

That a serial and its decimal text go back and forth is said in `Proofs.Serial`, by numbers without
a bound. The loops in which the conversion is done elsewhere have words of 32 bits, and octets to
keep the result in. Here they are run in these words, with an arithmetic that **refuses** to
overflow and to drop a bit:

> **no step of either loop is ever refused**, and both come to what they come to without a bound
> (`Words.ofDecimal?_eq`, `Words.toDecimal?_eq`).

The reason is the same for both: a carry and a remainder are below ten, so no word exceeds 10 ·
256.
-/

set_option autoImplicit false

namespace SignatureTrust.Serial

open Octets (value Shortest mulAdd divMod)
open Text (toNat_of_isDigit digit_lt readDigits?_eq_some_iff decimal_ofDigitChars)

variable {bs : Octets} {tail : List Char} {c : Char} {m n : Nat}

/-! ## Words of 32 bits -/

namespace Words

/-- The product, if 32 bits hold it. -/
def mul? (a b : UInt32) : Option UInt32 :=
  if a.toNat * b.toNat < 1 <<< 32 then some (a * b) else none

/-- The sum, if 32 bits hold it. -/
def add? (a b : UInt32) : Option UInt32 :=
  if a.toNat + b.toNat < 1 <<< 32 then some (a + b) else none

/-- The word moved up by an octet, if no bit leaves it. -/
def shiftUp? (a : UInt32) : Option UInt32 :=
  if a.toNat <<< 8 < 1 <<< 32 then some (a <<< 8) else none

/-- The word as an octet, if no bit is lost. -/
def octet? (a : UInt32) : Option UInt8 := if a.toNat < 1 <<< 8 then some a.toUInt8 else none

/-- The sum, if an octet holds it. -/
def addOctets? (a b : UInt8) : Option UInt8 :=
  if a.toNat + b.toNat < 1 <<< 8 then some (a + b) else none

/-- The difference, if there is one. -/
def subOctets? (a b : UInt8) : Option UInt8 := if b.toNat ≤ a.toNat then some (a - b) else none

/-- Multiplies by ten and adds, from the last octet on; what does not fit is carried out. -/
def timesTen? : Octets → UInt32 → Option (UInt32 × Octets)
  | [], c => some (c, [])
  | b :: bs, c => do
      let (carry, low) ← timesTen? bs c
      let v ← add? (← mul? b.toUInt32 10) carry
      let digit ← octet? (v &&& 0xff)
      return (v >>> 8, digit :: low)

theorem toNat_shiftRight (a : UInt32) : (a >>> 8).toNat = a.toNat / 256 := by
  rw [UInt32.toNat_shiftRight, Nat.shiftRight_eq_div_pow]
  rfl

/-- Puts what was carried out in front, an octet at a time. -/
def carryOut? (carry : UInt32) (bs : Octets) : Option Octets :=
  if carry = 0 then some bs
  else do
    let digit ← octet? (carry &&& 0xff)
    carryOut? (carry >>> 8) (digit :: bs)
termination_by carry.toNat
decreasing_by
  rename_i hcarry
  have hpos : carry.toNat ≠ 0 := fun h => hcarry (UInt32.toNat_inj.1 h)
  rw [toNat_shiftRight]
  omega

def appendDigit? (bs : Octets) (c : Char) : Option Octets := do
  let d ← subOctets? c.toUInt8 '0'.toUInt8
  let (carry, low) ← timesTen? bs d.toUInt32
  carryOut? carry low

/-- The reading of decimal text: `none` is a step refused, and `some none` a text that is no
number. -/
def ofDecimal? (text : String) : Option (Option Serial) :=
  let digits := Text.trim text.toList
  if digits.isEmpty || !digits.all Text.isDigit then some none
  else do
    let bs ← digits.foldlM appendDigit? []
    return some (ofOctets bs)

/-- Divides by ten, from the first octet on, with a remainder already in hand. -/
def overTen? : Octets → UInt32 → Option (Octets × UInt32)
  | [], r => some ([], r)
  | b :: bs, r => do
      let v := (← shiftUp? r) ||| b.toUInt32
      let digit ← octet? (v / 10)
      let (low, rest) ← overTen? bs (v % 10)
      return (digit :: low, rest)

def digitChar? (r : UInt32) : Option Char := do
  let d ← addOctets? '0'.toUInt8 (← octet? r)
  return Char.ofUInt8 d

/-! ### What numbers they come to -/

theorem toNat_ofNat (h : n < 1 <<< 32) : (UInt32.ofNat n).toNat = n := UInt32.toNat_ofNat_of_lt' h

theorem mul?_ofNat (hm : m < 1 <<< 32) (hn : n < 1 <<< 32) (h : m * n < 1 <<< 32) :
    mul? (.ofNat m) (.ofNat n) = some (.ofNat (m * n)) := by
  rw [mul?, toNat_ofNat hm, toNat_ofNat hn, if_pos h, UInt32.ofNat_mul]

theorem add?_ofNat (h : m + n < 1 <<< 32) : add? (.ofNat m) (.ofNat n) = some (.ofNat (m + n)) := by
  rw [add?, toNat_ofNat (by omega), toNat_ofNat (by omega), if_pos h, UInt32.ofNat_add]

theorem octet?_ofNat (h : n < 1 <<< 8) : octet? (.ofNat n) = some (.ofNat n) := by
  rw [octet?, toNat_ofNat (by omega), if_pos h, UInt32.toUInt8_ofNat']

/-- The low octet of a word. -/
theorem octet?_and (n : Nat) : octet? (.ofNat n &&& 0xff) = some (.ofNat n) := by
  have hlow : UInt32.ofNat n &&& 0xff = .ofNat (n % 256) := by
    rw [← Nat.and_two_pow_sub_one_eq_mod n 8, UInt32.ofNat_and]
    rfl
  rw [hlow, octet?_ofNat (by omega), UInt8.ofNat_mod_size']

/-- The rest of it. -/
theorem ofNat_shiftRight (h : n < 1 <<< 32) : UInt32.ofNat n >>> 8 = .ofNat (n / 256) := by
  apply UInt32.toNat_inj.1
  rw [toNat_shiftRight, toNat_ofNat h, toNat_ofNat (by omega)]

/-- An octet below a remainder. -/
theorem shiftUp?_ofNat (h : n < 1 <<< 24) : shiftUp? (.ofNat n) = some (.ofNat (n <<< 8)) := by
  rw [shiftUp?, toNat_ofNat (by omega), if_pos (by rw [Nat.shiftLeft_eq]; omega),
    UInt32.ofNat_shiftLeft n 8 (by decide)]
  rfl

theorem ofNat_or_octet (n : Nat) (b : UInt8) :
    UInt32.ofNat (n <<< 8) ||| b.toUInt32 = .ofNat (n * 256 + b.toNat) := by
  rw [← UInt32.ofNat_uInt8ToNat, ← UInt32.ofNat_or,
    ← Nat.shiftLeft_add_eq_or_of_lt b.toNat_lt, Nat.shiftLeft_eq]

theorem timesTen?_eq (hn : n < 10) (bs : Octets) :
    timesTen? bs (.ofNat n) = some (.ofNat (mulAdd 10 bs n).1, (mulAdd 10 bs n).2) := by
  induction bs with
  | nil => rfl
  | cons b bs ih =>
      have hb : b.toNat < 256 := b.toNat_lt
      have hcarry : (mulAdd 10 bs n).1 < 10 := Octets.carry_mulAdd_lt hn bs
      have hproduct : mul? b.toUInt32 10 = some (.ofNat (b.toNat * 10)) := by
        rw [← UInt32.ofNat_uInt8ToNat]
        exact mul?_ofNat (n := 10) (by omega) (by decide) (by omega)
      have hsum : add? (.ofNat (b.toNat * 10)) (.ofNat (mulAdd 10 bs n).1) =
          some (.ofNat (b.toNat * 10 + (mulAdd 10 bs n).1)) := add?_ofNat (by omega)
      simp only [timesTen?, ih, hproduct, hsum, octet?_and, Option.bind_eq_bind,
        Option.bind_some, mulAdd]
      rw [ofNat_shiftRight (by omega)]
      rfl

theorem carryOut?_eq (hn : n < 10) (bs : Octets) :
    carryOut? (.ofNat n) bs = some (if n = 0 then bs else UInt8.ofNat n :: bs) := by
  by_cases hzero : n = 0
  · rw [hzero, carryOut?]
    rfl
  · have hnonzero : UInt32.ofNat n ≠ 0 := by
      intro h
      apply hzero
      rw [← toNat_ofNat (n := n) (by omega), h]
      rfl
    have hrest : UInt32.ofNat n >>> 8 = 0 := by
      rw [ofNat_shiftRight (by omega), Nat.div_eq_of_lt (by omega)]
      rfl
    rw [carryOut?, if_neg hnonzero, if_neg hzero, octet?_and, hrest]
    show carryOut? 0 _ = _
    rw [carryOut?]
    rfl

/-- A digit less the digit zero. -/
theorem subOctets?_digit (hc : Text.isDigit c = true) :
    subOctets? c.toUInt8 '0'.toUInt8 = some (.ofNat (c.toNat - '0'.toNat)) := by
  obtain ⟨h0, h9⟩ := toNat_of_isDigit hc
  have hoctet : c.toUInt8.toNat = c.toNat := by
    show c.val.toUInt8.toNat = c.val.toNat
    rw [UInt32.toNat_toUInt8]
    exact Nat.mod_eq_of_lt (Nat.lt_of_le_of_lt h9 (by decide))
  have hle : '0'.toUInt8 ≤ c.toUInt8 := by
    rw [UInt8.le_iff_toNat_le, hoctet]
    exact h0
  rw [subOctets?, if_pos (UInt8.le_iff_toNat_le.1 hle)]
  apply congrArg some
  apply UInt8.toNat_inj.1
  rw [UInt8.toNat_sub_of_le _ _ hle, hoctet, Octets.toNat_ofNat_of_lt (by omega)]
  rfl

theorem appendDigit?_eq (hc : Text.isDigit c = true) (bs : Octets) :
    appendDigit? bs c = some (appendDigit bs c) := by
  have hdigit : c.toNat - '0'.toNat < 10 := digit_lt hc
  have hword : (UInt8.ofNat (c.toNat - '0'.toNat)).toUInt32 = .ofNat (c.toNat - '0'.toNat) :=
    UInt8.toUInt32_ofNat' (Nat.lt_trans hdigit (by decide))
  have hcarry : (mulAdd 10 bs (c.toNat - '0'.toNat)).1 < 10 := Octets.carry_mulAdd_lt hdigit bs
  simp only [appendDigit?, subOctets?_digit hc, hword, timesTen?_eq hdigit, carryOut?_eq hcarry,
    Option.bind_eq_bind, Option.bind_some]
  rfl

theorem foldlM_appendDigit? {digits : List Char} (h : ∀ c ∈ digits, Text.isDigit c = true)
    (bs : Octets) :
    digits.foldlM appendDigit? bs = some (digits.foldl appendDigit bs) := by
  induction digits generalizing bs with
  | nil => rfl
  | cons c digits ih =>
      obtain ⟨hc, hdigits⟩ := List.forall_mem_cons.1 h
      rw [List.foldlM_cons, appendDigit?_eq hc]
      exact ih hdigits (appendDigit bs c)

/-- Reading is never refused, whatever the text, and comes to the same. -/
theorem ofDecimal?_eq (text : String) : ofDecimal? text = some (Serial.ofDecimal? text) := by
  unfold ofDecimal? Serial.ofDecimal?
  generalize Text.trim text.toList = digits
  by_cases hbad : (digits.isEmpty || !digits.all Text.isDigit) = true
  · simp only [if_pos hbad]
  · have hdigits : ∀ c ∈ digits, Text.isDigit c = true := by
      rw [Bool.not_eq_true, Bool.or_eq_false_iff, Bool.not_eq_false'] at hbad
      exact List.all_eq_true.1 hbad.2
    simp only [if_neg hbad, foldlM_appendDigit? hdigits, Option.bind_eq_bind, Option.bind_some]
    rfl

theorem overTen?_eq (hn : n < 10) (bs : Octets) :
    overTen? bs (.ofNat n) = some ((divMod 10 bs n).1, .ofNat (divMod 10 bs n).2) := by
  induction bs generalizing n with
  | nil => rfl
  | cons b bs ih =>
      have hb : b.toNat < 256 := b.toNat_lt
      have hquotient : UInt32.ofNat (n * 256 + b.toNat) / 10 = .ofNat ((n * 256 + b.toNat) / 10) :=
        (UInt32.ofNat_div (b := 10) (by omega) (by decide)).symm
      have hremainder : UInt32.ofNat (n * 256 + b.toNat) % 10 = .ofNat ((n * 256 + b.toNat) % 10) :=
        (UInt32.ofNat_mod (b := 10) (by omega) (by decide)).symm
      have hdigit : octet? (.ofNat ((n * 256 + b.toNat) / 10)) =
          some (.ofNat ((n * 256 + b.toNat) / 10)) :=
        octet?_ofNat (by omega)
      have hrest := ih (Nat.mod_lt (n * 256 + b.toNat) (by decide : 0 < 10))
      simp only [overTen?, shiftUp?_ofNat (by omega : n < 1 <<< 24), ofNat_or_octet, hquotient,
        hremainder, hdigit, hrest, Option.bind_eq_bind, Option.bind_some, divMod]
      rfl

theorem digitChar?_eq : ∀ n < 10, digitChar? (.ofNat n) = some (Nat.digitChar n) := by decide

theorem all_zero_iff {bs : Octets} : bs.all (· == 0) = true ↔ value bs = 0 := by
  induction bs using List.reverseRecOn with
  | nil => exact ⟨fun _ => rfl, fun _ => rfl⟩
  | append_singleton bs b ih =>
      have hb : b = 0 ↔ b.toNat = 0 := UInt8.toNat_inj.symm
      rw [List.all_append, Bool.and_eq_true, ih, Octets.value_append_singleton, List.all_cons,
        List.all_nil, Bool.and_true, beq_iff_eq, hb]
      omega

/-- The digits of a number in front of digits already written, while any octet is not zero. -/
def decimalOnto? (bs : Octets) (tail : List Char) : Option (List Char) :=
  if _hbs : bs.all (· == 0) = true then some tail
  else
    match _hround : overTen? bs 0 with
    | none => none
    | some (high, r) => do decimalOnto? high ((← digitChar? r) :: tail)
termination_by value bs
decreasing_by
  obtain ⟨rfl, -⟩ :=
    Prod.mk.inj (Option.some.inj (_hround.symm.trans (overTen?_eq (n := 0) (by decide) bs)))
  exact Octets.value_divMod_lt (by decide) (mt all_zero_iff.2 _hbs)

theorem decimalOnto?_of_eq {high : Octets} {r : UInt32}
    (hbs : value bs ≠ 0) (hround : overTen? bs 0 = some (high, r)) (hc : digitChar? r = some c) :
    decimalOnto? bs tail = decimalOnto? high (c :: tail) := by
  rw [decimalOnto?, dif_neg (mt all_zero_iff.1 hbs)]
  split
  · next h => exact absurd (h.symm.trans hround) nofun
  · next h =>
      obtain ⟨rfl, rfl⟩ := Prod.mk.inj (Option.some.inj (h.symm.trans hround))
      rw [hc]
      rfl

theorem decimalOnto?_eq (bs : Octets) (tail : List Char) :
    decimalOnto? bs tail = some (decimalOnto bs tail) := by
  fun_induction Serial.decimalOnto bs tail with
  | case1 bs tail hzero => rw [decimalOnto?, dif_pos (all_zero_iff.2 hzero)]
  | case2 bs tail hnonzero ih =>
      have hdigit : (divMod 10 bs 0).2 < 10 := Octets.snd_divMod_lt (by decide) bs
      rw [decimalOnto?_of_eq hnonzero (overTen?_eq (n := 0) (by decide) bs)
        (digitChar?_eq _ hdigit)]
      exact ih

def toDecimal? (s : Serial) : Option String :=
  if s.octets.isEmpty then some "0" else (decimalOnto? s.octets []).map String.ofList

/-- Writing is never refused either. -/
theorem toDecimal?_eq (s : Serial) : toDecimal? s = some s.toDecimal := by
  unfold toDecimal? toDecimal
  rw [decimalOnto?_eq]
  split <;> rfl

end Words

/-! ## Back and forth -/

theorem ofDecimal?_eq_some_iff {text : String} {s : Serial} : ofDecimal? text = some s ↔
    Text.trim text.toList ≠ [] ∧ (∀ c ∈ Text.trim text.toList, Text.isDigit c = true) ∧
      ofNat (Nat.ofDigitChars 10 (Text.trim text.toList) 0) = s := by
  rw [ofDecimal?_eq, Option.map_eq_some_iff]
  constructor
  · rintro ⟨n, hn, rfl⟩
    obtain ⟨hsome, hdigits, rfl⟩ := readDigits?_eq_some_iff.1 hn
    exact ⟨hsome, hdigits, rfl⟩
  · rintro ⟨hsome, hdigits, rfl⟩
    exact ⟨_, readDigits?_eq_some_iff.2 ⟨hsome, hdigits, rfl⟩, rfl⟩

/-- **The decimal conversion is exact at any length.** The text of octets is the numeral of their
value and gives them back, without their leading zeros; a text is read just if it is digits, blanks
at its ends aside, as the shortest octets with the value of the digits, and written again without
superfluous zeros; and in words of 32 bits that never overflow and never lose a bit, both directions
are the same. -/
theorem decimal_conversion_exact :
    (∀ bs : Octets, (ofOctets bs).toDecimal = String.ofList (Text.decimal (value bs)) ∧
      ofDecimal? (ofOctets bs).toDecimal = some (ofOctets bs)) ∧
    (∀ text : String, (ofDecimal? text).isSome = true ↔
      Text.trim text.toList ≠ [] ∧ ∀ c ∈ Text.trim text.toList, Text.isDigit c = true) ∧
    (∀ (text : String) (s : Serial), ofDecimal? text = some s →
      s.octets.Shortest ∧ value s.octets = Nat.ofDigitChars 10 (Text.trim text.toList) 0 ∧
        s.toDecimal = String.ofList (Text.withoutZeros (Text.trim text.toList))) ∧
    (∀ text : String, Words.ofDecimal? text = some (ofDecimal? text)) ∧
    (∀ s : Serial, Words.toDecimal? s = some s.toDecimal) := by
  refine ⟨?_, ?_, ?_, Words.ofDecimal?_eq, Words.toDecimal?_eq⟩
  · intro bs
    rw [ofOctets_eq]
    exact ⟨toDecimal_ofNat _, ofDecimal?_toDecimal_ofNat _⟩
  · intro text
    rw [Option.isSome_iff_exists]
    constructor
    · rintro ⟨s, hs⟩
      obtain ⟨hsome, hdigits, -⟩ := ofDecimal?_eq_some_iff.1 hs
      exact ⟨hsome, hdigits⟩
    · rintro ⟨hsome, hdigits⟩
      exact ⟨_, ofDecimal?_eq_some_iff.2 ⟨hsome, hdigits, rfl⟩⟩
  · intro text s hs
    obtain ⟨hsome, hdigits, rfl⟩ := ofDecimal?_eq_some_iff.1 hs
    refine ⟨Octets.shortest_ofNat _, Octets.value_ofNat _, ?_⟩
    rw [toDecimal_ofNat, decimal_ofDigitChars hsome hdigits]

/-- Blanks at the ends, zeros in front, and a number that takes a second octet. -/
theorem decimal_256_padded :
    ofDecimal? "\u00a000256 " = some ⟨[1, 0]⟩ ∧ Shortest [1, 0] ∧ value [1, 0] = 256 ∧
      (⟨[1, 0]⟩ : Serial).toDecimal = "256" := by
  have hread : ofDecimal? "\u00a000256 " = some ⟨[1, 0]⟩ := by decide +kernel
  obtain ⟨hshortest, -, htext⟩ := decimal_conversion_exact.2.2.1 _ _ hread
  exact ⟨hread, hshortest, rfl, htext⟩

end SignatureTrust.Serial
