import SignatureTrust.Evidence.Certificate

/-!
# `Evidence.TimestampToken` — proofs of existence

A token says that somebody had the digest of some data at some time. Whose certificate made it is
named by issuer and serial; the certificate usually comes along.
-/

set_option autoImplicit false

namespace SignatureTrust

/-- The digest a timestamp is over, with the identifier of its algorithm. -/
structure Imprint where
  algorithm : String
  digest : Octets
deriving DecidableEq, Repr

structure TimestampToken where
  encoding : Octets
  generatedAt : Instant
  imprint : Imprint
  signerIssuer : Name
  signerSerial : Serial
  signed : SignedContent
  certificates : List Certificate
deriving DecidableEq, Repr

namespace TimestampToken

def names (t : TimestampToken) (c : Certificate) : Bool :=
  c.issuer.same t.signerIssuer && decide (c.serial = t.signerSerial)

/-- The signer's certificate, where it came along. -/
def signerCertificate? (t : TimestampToken) : Option Certificate := t.certificates.find? t.names

end TimestampToken
end SignatureTrust
