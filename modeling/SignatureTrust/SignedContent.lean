import SignatureTrust.Octets
import SignatureTrust.SignatureAlgorithm

/-!
# `SignedContent` — what is signed, and with what

Certificates, revocation lists, OCSP responses and timestamp tokens differ in what they say and
agree in this: some of their octets are signed. Whether the signature is right is for a provider of
cryptography to say (`Crypto`).
-/

set_option autoImplicit false

namespace SignatureTrust

/-- Octets, and a signature over them. -/
structure SignedContent where
  content : Octets
  algorithm : SignatureAlgorithm
  signature : Octets
deriving DecidableEq, Repr

end SignatureTrust
