import SignatureTrust.Octets

/-!
# `Digest.Padding` — from a message to blocks of words

The Secure Hash Standard pads every message the same way, whatever its word size: a set bit, zeros,
and the message's length in bits in the last two words of a block. The padded message is then a
whole number of blocks of sixteen big-endian words, which is all that the compression functions see.
-/

set_option autoImplicit false

namespace SignatureTrust.Digest

open Octets (inPieces)

/-- A number in exactly `width` octets, most significant first. -/
def bigEndian : Nat → Nat → Octets
  | 0, _ => []
  | width + 1, n => UInt8.ofNat (n >>> (8 * width)) :: bigEndian width n

/-- The message padded to a multiple of sixteen words of `wordSize` octets. -/
def padded (wordSize : Nat) (message : Octets) : Octets :=
  let block := 16 * wordSize
  let tail := 2 * wordSize
  let used := (message.length + 1 + tail) % block
  let zeros := if used = 0 then 0 else block - used
  message ++ 0x80 :: List.replicate zeros 0 ++ bigEndian tail (8 * message.length)

def blocks {W : Type} (wordSize : Nat) (word : Octets → W) (message : Octets) : List (List W) :=
  (inPieces (16 * wordSize) (padded wordSize message)).map fun block =>
    (inPieces wordSize block).map word

end SignatureTrust.Digest
