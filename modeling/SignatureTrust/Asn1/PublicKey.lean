import SignatureTrust.Asn1.ObjectIdentifier

/-!
# `Asn1.PublicKey` — what a SubjectPublicKeyInfo says

A certificate carries its key as an encoding and this library keeps it as one. It is opened in two
places — to name a responder by the digest of its key, and to verify an RSA signature — and both
hold it to the distinguished rules: one structure, used up to its last octet, or no key at all.
-/

set_option autoImplicit false

namespace SignatureTrust.Asn1

structure PublicKeyInfo where
  algorithm : ObjectIdentifier
  parameters : Option Element
  unusedBits : Nat
  bits : Octets

/-- The number of unused bits and the octets of a bit string. Bits can only be left over in a last
octet, and fewer than eight of them. -/
def strictBits? : Octets → Option (Nat × Octets)
  | [] => none
  | unused :: bits =>
      if unused > 7 || (unused != 0 && bits.isEmpty) then none else some (unused.toNat, bits)

/-- Reads an encoding that is a SubjectPublicKeyInfo and nothing more. -/
def readPublicKeyInfo? (encoding : Octets) : Option PublicKeyInfo := do
  let whole ← exactly? (tagged .distinguished sequence) encoding
  let (algorithm, bits) ← exactly? (do
    let a ← tagged .distinguished sequence
    let b ← tagged .distinguished bitString
    return (a, b)) whole.content
  let (identifier, parameters) ← exactly? (do
    let i ← strictIdentifier
    let p ← optionalElement .distinguished
    return (i, p)) algorithm.content
  let (unused, octets) ← strictBits? bits.content
  return ⟨identifier, parameters, unused, octets⟩

/-- Whether the content of an INTEGER is the one encoding of a number that is not negative. -/
def isNaturalContent : Octets → Bool
  | [] => false
  | [b] => b < 0x80
  | b :: c :: _ => b < 0x80 && (b != 0 || c ≥ 0x80)

def naturalContent (rules : Rules) : Reader Octets := do
  let e ← tagged rules integer
  if isNaturalContent e.content then return e.content else refuse

end SignatureTrust.Asn1
