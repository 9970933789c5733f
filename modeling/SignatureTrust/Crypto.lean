import SignatureTrust.Evidence.Certificate

/-!
# `Crypto` — what is assumed about cryptography

Every rule of this library that needs a digest or a signature takes a `Crypto`, so that the rules
can be stated and proved for any of them. The one that is used outside of proofs is `Crypto.rsa`.
-/

set_option autoImplicit false

namespace SignatureTrust

/-- A provider of digests and of signature verification. -/
structure Crypto where
  digest : DigestAlgorithm → Octets → Octets
  -- whether the key of this certificate made this signature
  verifies : Certificate → SignedContent → Bool

end SignatureTrust
