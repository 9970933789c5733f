import SignatureTrust.Asn1.PublicKey
import SignatureTrust.Instant
import SignatureTrust.Name
import SignatureTrust.Octets.Base64
import SignatureTrust.Serial
import SignatureTrust.SignedContent

/-!
# `Evidence.Certificate` — certificates

A certificate is what was read out of it next to its encoding. The two are independent values here:
nothing says that the fields come from the encoding, because certificates also arrive already
decoded. So "the same certificate" has two meanings, and each use says which it wants: **the same
encoding** (`Certificate.sameEncoding`), which deduplicates lists and matches references, or the
same issuer and serial, which files tokens (`TokenKey`).
-/

set_option autoImplicit false

namespace SignatureTrust

structure Certificate where
  encoding : Octets
  subject : Name
  issuer : Name
  serial : Serial
  notBefore : Instant
  notAfter : Instant
  -- the encoded SubjectPublicKeyInfo
  publicKey : Octets
  signed : SignedContent
  -- identifiers of the qualified-certificate statements
  qcStatements : List String
deriving DecidableEq, Repr

namespace Certificate

/-- The statement that a certificate is a qualified one. -/
def qcCompliance : String := "0.4.0.1862.1.1"

/-- The statement that the private key is in a secure signature creation device. -/
def qcDevice : String := "0.4.0.1862.1.4"

def sameEncoding (a b : Certificate) : Bool := a.encoding == b.encoding

/-- Whether subject and issuer are the same name. No signature is checked. -/
def isSelfIssued (c : Certificate) : Bool := c.subject.same c.issuer

/-- Whether the validity period, both ends included, covers an instant. -/
def isValidAt (c : Certificate) (t : Instant) : Bool := t.within c.notBefore (some c.notAfter)

def hasQcStatement (c : Certificate) (identifier : String) : Bool :=
  c.qcStatements.contains identifier

/-- The SHA-1 digest of the key's bit string, when there is one to be read. -/
def keyDigest? (c : Certificate) : Option Octets :=
  (Asn1.readPublicKeyInfo? c.publicKey).map fun key => DigestAlgorithm.sha1.digest key.bits

def fingerprint (c : Certificate) : String := (DigestAlgorithm.sha256.digest c.encoding).toBase64

theorem isValidAt_iff {c : Certificate} {t : Instant} :
    c.isValidAt t = true ↔ c.notBefore ≤ t ∧ t ≤ c.notAfter := by
  simp [isValidAt, Instant.within]

theorem sameEncoding_iff {a b : Certificate} :
    a.sameEncoding b = true ↔ a.encoding = b.encoding := by
  simp [sameEncoding]

end Certificate
end SignatureTrust
