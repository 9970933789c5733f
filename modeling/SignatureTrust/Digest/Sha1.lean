import SignatureTrust.Digest.Padding
import SignatureTrust.Octets.Numeral

/-!
# `Digest.Sha1` — SHA-1

Broken for new signatures and still what old references carry, and what an OCSP responder's key is
named by.
-/

set_option autoImplicit false

namespace SignatureTrust.Digest

namespace Sha1

structure State where
  a : UInt32
  b : UInt32
  c : UInt32
  d : UInt32
  e : UInt32

def rotateLeft (x : UInt32) (n : UInt32) : UInt32 := (x <<< n) ||| (x >>> (32 - n))

def initial : State := ⟨0x67452301, 0xEFCDAB89, 0x98BADCFE, 0x10325476, 0xC3D2E1F0⟩

/-- Words 16 to 79 of the schedule, on top of the sixteen of the block in reverse. -/
def extend : Nat → List UInt32 → List UInt32
  | 0, recent => recent
  | n + 1, recent =>
      let w := rotateLeft (recent.getD 2 0 ^^^ recent.getD 7 0 ^^^ recent.getD 13 0 ^^^
        recent.getD 15 0) 1
      extend n (w :: recent)

/-- The choice, parity and majority functions with their constants, twenty steps each. -/
def mix (t : Nat) (b c d : UInt32) : UInt32 :=
  if t < 20 then ((b &&& c) ||| (~~~b &&& d)) + 0x5A827999
  else if t < 40 then (b ^^^ c ^^^ d) + 0x6ED9EBA1
  else if t < 60 then ((b &&& c) ||| (b &&& d) ||| (c &&& d)) + 0x8F1BBCDC
  else (b ^^^ c ^^^ d) + 0xCA62C1D6

def step (s : State) (wt : UInt32 × Nat) : State :=
  let (w, t) := wt
  ⟨rotateLeft s.a 5 + mix t s.b s.c s.d + s.e + w, s.a, rotateLeft s.b 30, s.c, s.d⟩

def compress (s : State) (block : List UInt32) : State :=
  let r := (extend 64 block.reverse).reverse.zipIdx.foldl step s
  ⟨s.a + r.a, s.b + r.b, s.c + r.c, s.d + r.d, s.e + r.e⟩

end Sha1

def sha1 (message : Octets) : Octets :=
  let word (bs : Octets) : UInt32 := UInt32.ofNat bs.value
  let r := (blocks 4 word message).foldl Sha1.compress Sha1.initial
  [r.a, r.b, r.c, r.d, r.e].flatMap fun w => bigEndian 4 w.toNat

end SignatureTrust.Digest
