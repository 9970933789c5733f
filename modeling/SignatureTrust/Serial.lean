import SignatureTrust.Json
import SignatureTrust.Octets.Hex
import SignatureTrust.Octets.Numeral
import SignatureTrust.Text.Blank
import SignatureTrust.Text.Decimal

/-!
# `Serial` — serial numbers

An unsigned number of any length, kept as its octets. Encodings give it in base 256, references
between signatures and certificates in decimal; the two meet digit by digit in `Octets.Numeral`.

A serial made from octets, a number or decimal text has no leading zero octet, and zero is the empty
string, so serials are compared as they are. A document may still hold one with leading zeros
(`Serial.ofJson?` takes the octets as they stand): such a serial equals only itself.
-/

set_option autoImplicit false

namespace SignatureTrust

/-- A serial number, as big-endian octets. -/
structure Serial where
  octets : Octets
deriving DecidableEq, Repr, Inhabited

namespace Serial

/-- The serial of big-endian octets; leading zeros do not count. -/
def ofOctets (bs : Octets) : Serial := ⟨bs.withoutLeadingZeros⟩

def ofNat (n : Nat) : Serial := ⟨Octets.ofNat n⟩

/-! ## Decimal text -/

def appendDigit (bs : Octets) (c : Char) : Octets :=
  let (carry, low) := Octets.mulAdd 10 bs (c.toNat - '0'.toNat)
  if carry = 0 then low else UInt8.ofNat carry :: low

/-- The serial that decimal text denotes. Blanks around the digits do not count; a sign, or no digit
at all, refuses the text. -/
def ofDecimal? (text : String) : Option Serial :=
  let digits := Text.trim text.toList
  if digits.isEmpty || !digits.all Text.isDigit then none
  else some (ofOctets (digits.foldl appendDigit []))

/-- The decimal digits of a number in front of digits already written: the remainders of dividing by
ten until nothing is left. -/
def decimalOnto (bs : Octets) (tail : List Char) : List Char :=
  if _h : bs.value = 0 then tail
  else
    decimalOnto (Octets.divMod 10 bs 0).1 (Nat.digitChar (Octets.divMod 10 bs 0).2 :: tail)
termination_by bs.value
decreasing_by exact Octets.value_divMod_lt (by decide) (by assumption)

def toDecimal (s : Serial) : String :=
  if s.octets.isEmpty then "0" else String.ofList (decimalOnto s.octets [])

/-- Lower-case hexadecimal, two digits an octet; the empty serial is a zero octet. -/
def toHex (s : Serial) : String :=
  if s.octets.isEmpty then "00" else s.octets.toHex

/-! ## Order and documents -/

/-- The order of the octets as words of a dictionary, which is not the order of the numbers. -/
def compare (a b : Serial) : Ordering := compareOctets a.octets b.octets
where
  compareOctets : Octets → Octets → Ordering
    | [], [] => .eq
    | [], _ :: _ => .lt
    | _ :: _, [] => .gt
    | x :: xs, y :: ys => if x < y then .lt else if y < x then .gt else compareOctets xs ys

def toJson (s : Serial) : Json := .ofList (fun b => .ofNat b.toNat) s.octets

/-- The octets an array lists, as they stand. -/
def ofJson? : Json → Option Serial
  | .array items => do
      let octets ← items.mapM fun item => do
        let n ← item.natural?
        if n < 256 then some (UInt8.ofNat n) else none
      return ⟨octets⟩
  | _ => none

end Serial
end SignatureTrust
