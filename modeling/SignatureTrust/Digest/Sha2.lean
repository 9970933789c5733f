import SignatureTrust.Digest.Padding
import SignatureTrust.Octets.Numeral

/-!
# `Digest.Sha2` — SHA-256, SHA-384 and SHA-512

One construction at two word sizes. `Sha2.Words` holds what differs — the word, its rotations and
its constants — and everything else is written once over it. SHA-384 is SHA-512 from another start
with the last two words left out.
-/

set_option autoImplicit false

namespace SignatureTrust.Digest

namespace Sha2

structure State (W : Type) where
  a : W
  b : W
  c : W
  d : W
  e : W
  f : W
  g : W
  h : W

/-- What the two members of the family differ in. The large sums rotate the state, the small ones
extend the schedule. -/
structure Words (W : Type) where
  size : Nat
  ofNat : Nat → W
  toNat : W → Nat
  largeSumA : W → W
  largeSumE : W → W
  smallSum0 : W → W
  smallSum1 : W → W
  roundConstants : List W

variable {W : Type} [Add W] [AndOp W] [XorOp W] [Complement W] [Inhabited W]

/-- The rest of the schedule, on top of the sixteen words of the block in reverse. -/
@[specialize] def extend (k : Words W) : Nat → List W → List W
  | 0, recent => recent
  | n + 1, recent =>
      let w := k.smallSum1 (recent.getD 1 default) + recent.getD 6 default +
        k.smallSum0 (recent.getD 14 default) + recent.getD 15 default
      extend k n (w :: recent)

@[specialize] def step (k : Words W) (s : State W) (kw : W × W) : State W :=
  let (constant, w) := kw
  let choice := (s.e &&& s.f) ^^^ (~~~s.e &&& s.g)
  let majority := (s.a &&& s.b) ^^^ (s.a &&& s.c) ^^^ (s.b &&& s.c)
  let t1 := s.h + k.largeSumE s.e + choice + constant + w
  let t2 := k.largeSumA s.a + majority
  ⟨t1 + t2, s.a, s.b, s.c, s.d + t1, s.e, s.f, s.g⟩

@[specialize] def compress (k : Words W) (s : State W) (block : List W) : State W :=
  let schedule := (extend k (k.roundConstants.length - 16) block.reverse).reverse
  let r := (k.roundConstants.zip schedule).foldl (step k) s
  ⟨s.a + r.a, s.b + r.b, s.c + r.c, s.d + r.d, s.e + r.e, s.f + r.f, s.g + r.g, s.h + r.h⟩

/-- The digest from a given start, not shortened. -/
@[specialize] def run (k : Words W) (start : State W) (message : Octets) : Octets :=
  let word (bs : Octets) : W := k.ofNat bs.value
  let r := (blocks k.size word message).foldl (compress k) start
  [r.a, r.b, r.c, r.d, r.e, r.f, r.g, r.h].flatMap fun w => bigEndian k.size (k.toNat w)

/-! ## Words of 32 bits -/

def rotate32 (x n : UInt32) : UInt32 := (x >>> n) ||| (x <<< (32 - n))

def constants32 : List UInt32 :=
  [0x428A2F98, 0x71374491, 0xB5C0FBCF, 0xE9B5DBA5, 0x3956C25B, 0x59F111F1, 0x923F82A4,
   0xAB1C5ED5, 0xD807AA98, 0x12835B01, 0x243185BE, 0x550C7DC3, 0x72BE5D74, 0x80DEB1FE,
   0x9BDC06A7, 0xC19BF174, 0xE49B69C1, 0xEFBE4786, 0x0FC19DC6, 0x240CA1CC, 0x2DE92C6F,
   0x4A7484AA, 0x5CB0A9DC, 0x76F988DA, 0x983E5152, 0xA831C66D, 0xB00327C8, 0xBF597FC7,
   0xC6E00BF3, 0xD5A79147, 0x06CA6351, 0x14292967, 0x27B70A85, 0x2E1B2138, 0x4D2C6DFC,
   0x53380D13, 0x650A7354, 0x766A0ABB, 0x81C2C92E, 0x92722C85, 0xA2BFE8A1, 0xA81A664B,
   0xC24B8B70, 0xC76C51A3, 0xD192E819, 0xD6990624, 0xF40E3585, 0x106AA070, 0x19A4C116,
   0x1E376C08, 0x2748774C, 0x34B0BCB5, 0x391C0CB3, 0x4ED8AA4A, 0x5B9CCA4F, 0x682E6FF3,
   0x748F82EE, 0x78A5636F, 0x84C87814, 0x8CC70208, 0x90BEFFFA, 0xA4506CEB, 0xBEF9A3F7,
   0xC67178F2]

def words32 : Words UInt32 where
  size := 4
  ofNat := UInt32.ofNat
  toNat := UInt32.toNat
  largeSumA x := rotate32 x 2 ^^^ rotate32 x 13 ^^^ rotate32 x 22
  largeSumE x := rotate32 x 6 ^^^ rotate32 x 11 ^^^ rotate32 x 25
  smallSum0 x := rotate32 x 7 ^^^ rotate32 x 18 ^^^ (x >>> 3)
  smallSum1 x := rotate32 x 17 ^^^ rotate32 x 19 ^^^ (x >>> 10)
  roundConstants := constants32

def start256 : State UInt32 :=
  ⟨0x6A09E667, 0xBB67AE85, 0x3C6EF372, 0xA54FF53A, 0x510E527F, 0x9B05688C, 0x1F83D9AB,
   0x5BE0CD19⟩

/-! ## Words of 64 bits -/

def rotate64 (x n : UInt64) : UInt64 := (x >>> n) ||| (x <<< (64 - n))

def constants64 : List UInt64 :=
  [0x428A2F98D728AE22, 0x7137449123EF65CD, 0xB5C0FBCFEC4D3B2F, 0xE9B5DBA58189DBBC,
   0x3956C25BF348B538, 0x59F111F1B605D019, 0x923F82A4AF194F9B, 0xAB1C5ED5DA6D8118,
   0xD807AA98A3030242, 0x12835B0145706FBE, 0x243185BE4EE4B28C, 0x550C7DC3D5FFB4E2,
   0x72BE5D74F27B896F, 0x80DEB1FE3B1696B1, 0x9BDC06A725C71235, 0xC19BF174CF692694,
   0xE49B69C19EF14AD2, 0xEFBE4786384F25E3, 0x0FC19DC68B8CD5B5, 0x240CA1CC77AC9C65,
   0x2DE92C6F592B0275, 0x4A7484AA6EA6E483, 0x5CB0A9DCBD41FBD4, 0x76F988DA831153B5,
   0x983E5152EE66DFAB, 0xA831C66D2DB43210, 0xB00327C898FB213F, 0xBF597FC7BEEF0EE4,
   0xC6E00BF33DA88FC2, 0xD5A79147930AA725, 0x06CA6351E003826F, 0x142929670A0E6E70,
   0x27B70A8546D22FFC, 0x2E1B21385C26C926, 0x4D2C6DFC5AC42AED, 0x53380D139D95B3DF,
   0x650A73548BAF63DE, 0x766A0ABB3C77B2A8, 0x81C2C92E47EDAEE6, 0x92722C851482353B,
   0xA2BFE8A14CF10364, 0xA81A664BBC423001, 0xC24B8B70D0F89791, 0xC76C51A30654BE30,
   0xD192E819D6EF5218, 0xD69906245565A910, 0xF40E35855771202A, 0x106AA07032BBD1B8,
   0x19A4C116B8D2D0C8, 0x1E376C085141AB53, 0x2748774CDF8EEB99, 0x34B0BCB5E19B48A8,
   0x391C0CB3C5C95A63, 0x4ED8AA4AE3418ACB, 0x5B9CCA4F7763E373, 0x682E6FF3D6B2B8A3,
   0x748F82EE5DEFB2FC, 0x78A5636F43172F60, 0x84C87814A1F0AB72, 0x8CC702081A6439EC,
   0x90BEFFFA23631E28, 0xA4506CEBDE82BDE9, 0xBEF9A3F7B2C67915, 0xC67178F2E372532B,
   0xCA273ECEEA26619C, 0xD186B8C721C0C207, 0xEADA7DD6CDE0EB1E, 0xF57D4F7FEE6ED178,
   0x06F067AA72176FBA, 0x0A637DC5A2C898A6, 0x113F9804BEF90DAE, 0x1B710B35131C471B,
   0x28DB77F523047D84, 0x32CAAB7B40C72493, 0x3C9EBE0A15C9BEBC, 0x431D67C49C100D4C,
   0x4CC5D4BECB3E42B6, 0x597F299CFC657E2A, 0x5FCB6FAB3AD6FAEC, 0x6C44198C4A475817]

def words64 : Words UInt64 where
  size := 8
  ofNat := UInt64.ofNat
  toNat := UInt64.toNat
  largeSumA x := rotate64 x 28 ^^^ rotate64 x 34 ^^^ rotate64 x 39
  largeSumE x := rotate64 x 14 ^^^ rotate64 x 18 ^^^ rotate64 x 41
  smallSum0 x := rotate64 x 1 ^^^ rotate64 x 8 ^^^ (x >>> 7)
  smallSum1 x := rotate64 x 19 ^^^ rotate64 x 61 ^^^ (x >>> 6)
  roundConstants := constants64

def start512 : State UInt64 :=
  ⟨0x6A09E667F3BCC908, 0xBB67AE8584CAA73B, 0x3C6EF372FE94F82B, 0xA54FF53A5F1D36F1,
   0x510E527FADE682D1, 0x9B05688C2B3E6C1F, 0x1F83D9ABFB41BD6B, 0x5BE0CD19137E2179⟩

def start384 : State UInt64 :=
  ⟨0xCBBB9D5DC1059ED8, 0x629A292A367CD507, 0x9159015A3070DD17, 0x152FECD8F70E5939,
   0x67332667FFC00B31, 0x8EB44A8768581511, 0xDB0C2E0D64F98FA7, 0x47B5481DBEFA4FA4⟩

end Sha2

def sha256 (message : Octets) : Octets := Sha2.run Sha2.words32 Sha2.start256 message

def sha384 (message : Octets) : Octets :=
  (Sha2.run Sha2.words64 Sha2.start384 message).take 48

def sha512 (message : Octets) : Octets := Sha2.run Sha2.words64 Sha2.start512 message

end SignatureTrust.Digest
