import SignatureTrust.Octets

/-!
# `Octets.Hex` — two digits an octet

Digests, serials and token keys are shown in hexadecimal. There are two alphabets: lower case is the
library's own, upper case is how an undecoded attribute value appears in a name's text. Reading
takes either case and refuses an odd digit.
-/

set_option autoImplicit false

namespace SignatureTrust

/-- The digits below ten are shared; `ten` says where the letters start. -/
private def hexDigitFrom (ten : Char) (n : Nat) : Char :=
  if n < 10 then Char.ofNat ('0'.toNat + n) else Char.ofNat (ten.toNat + (n - 10))

def hexValue? (c : Char) : Option Nat :=
  if '0' ≤ c ∧ c ≤ '9' then some (c.toNat - '0'.toNat)
  else if 'a' ≤ c ∧ c ≤ 'f' then some (c.toNat - 'a'.toNat + 10)
  else if 'A' ≤ c ∧ c ≤ 'F' then some (c.toNat - 'A'.toNat + 10)
  else none

/-- A number in lower-case hexadecimal, without leading zeros. -/
def hexNumeral (n : Nat) : String := String.ofList (Nat.toDigits 16 n)

namespace Octets

private def hexPairs (ten : Char) (bs : Octets) : List Char :=
  bs.flatMap fun b => [hexDigitFrom ten (b.toNat / 16), hexDigitFrom ten (b.toNat % 16)]

def toHex (bs : Octets) : String := String.ofList (hexPairs 'a' bs)

def toUpperHex (bs : Octets) : String := String.ofList (hexPairs 'A' bs)

/-- Reads pairs of digits; an odd digit or any other character refuses the text. -/
def ofHexDigits? : List Char → Option Octets
  | [] => some []
  | hi :: lo :: rest => do
      let h ← hexValue? hi
      let l ← hexValue? lo
      return UInt8.ofNat (h * 16 + l) :: (← ofHexDigits? rest)
  | [_] => none

end Octets
end SignatureTrust
