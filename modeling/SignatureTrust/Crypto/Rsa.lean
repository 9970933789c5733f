import SignatureTrust.Asn1.PublicKey
import SignatureTrust.Crypto

/-!
# `Crypto.Rsa` — RSA signatures, PKCS #1 version 1.5

Verification recovers the padded block by raising the signature to the public exponent and compares
it **whole** with the one block that is right for the message. There is nothing in it to parse, so
there is no second right form.

A key is refused where it could not be one: an even modulus or exponent, a modulus of more than 4096
bits, an exponent of more than 33 bits or not below the modulus.
-/

set_option autoImplicit false

namespace SignatureTrust

/-- Raises to a power modulo `m`, by the binary digits of the exponent. -/
def powMod (m : Nat) (base exponent : Nat) : Nat :=
  if _h : exponent = 0 then 1 % m
  else
    let half := powMod m (base * base % m) (exponent / 2)
    if exponent % 2 = 0 then half else half * base % m
termination_by exponent
decreasing_by omega

structure RsaKey where
  modulus : Nat
  exponent : Nat
deriving DecidableEq, Repr

namespace RsaKey

open Asn1

def identifier : ObjectIdentifier := .ofArcs [1, 2, 840, 113549, 1, 1, 1]

def maxModulusBits : Nat := 4096
def maxExponent : Nat := (1 <<< 33) - 1

def size (key : RsaKey) : Nat := (Octets.ofNat key.modulus).length

def isUsable (key : RsaKey) : Bool :=
  key.modulus < 1 <<< maxModulusBits && key.modulus % 2 == 1 && key.exponent < key.modulus &&
    key.exponent % 2 == 1 && 2 ≤ key.exponent && key.exponent ≤ maxExponent

def parametersAreNull : Option Element → Bool
  | some e => e.tag.leading == null && e.content.isEmpty
  | none => false

def ofEncoding? (encoding : Octets) : Option RsaKey := do
  let info ← readPublicKeyInfo? encoding
  if info.algorithm ≠ identifier || !parametersAreNull info.parameters || info.unusedBits ≠ 0
    then none
  let whole ← exactly? (tagged .distinguished sequence) info.bits
  let key ← exactly? (do
    let n ← naturalContent .distinguished
    let e ← naturalContent .distinguished
    return ⟨Octets.value n, Octets.value e⟩) whole.content
  if isUsable key then some key else none

end RsaKey

namespace Rsa

/-- The content of each digest algorithm's object identifier. -/
def identifierContent : DigestAlgorithm → Octets
  | .sha1 => [0x2B, 0x0E, 0x03, 0x02, 0x1A]
  | .sha256 => [0x60, 0x86, 0x48, 0x01, 0x65, 0x03, 0x04, 0x02, 0x01]
  | .sha384 => [0x60, 0x86, 0x48, 0x01, 0x65, 0x03, 0x04, 0x02, 0x02]
  | .sha512 => [0x60, 0x86, 0x48, 0x01, 0x65, 0x03, 0x04, 0x02, 0x03]

def shortElement (tag : UInt8) (content : Octets) : Octets :=
  tag :: UInt8.ofNat content.length :: content

/-- The encoded DigestInfo: the algorithm with a NULL parameter, and the digest. -/
def digestInfo (d : DigestAlgorithm) (digest : Octets) : Octets :=
  shortElement Asn1.sequence
    (shortElement Asn1.sequence
        (shortElement Asn1.objectIdentifier (identifierContent d) ++ shortElement Asn1.null []) ++
      shortElement Asn1.octetString digest)

/-- The block of `size` octets that a right signature contains, when there is room for it. -/
def paddedBlock? (size : Nat) (info : Octets) : Option Octets :=
  if size < info.length + 11 then none
  else some (0 :: 1 :: (List.replicate (size - info.length - 3) 0xFF ++ 0 :: info))

def verifies (key : RsaKey) (d : DigestAlgorithm) (message signature : Octets) : Bool :=
  let s := signature.value
  match paddedBlock? key.size (digestInfo d (d.digest message)) with
  | none => false
  | some block =>
      signature.length = key.size && s < key.modulus &&
        powMod key.modulus s key.exponent = block.value

end Rsa

/-- Digests of the Secure Hash Standard, and RSA signatures. An algorithm that is not known verifies
nothing. -/
def Crypto.rsa : Crypto where
  digest := DigestAlgorithm.digest
  verifies signer signed :=
    match RsaKey.ofEncoding? signer.publicKey, signed.algorithm with
    | some key, .rsa d => Rsa.verifies key d signed.content signed.signature
    | _, _ => false

end SignatureTrust
