import SignatureTrust.Crypto
import SignatureTrust.Evidence.Crl
import SignatureTrust.Evidence.OcspResponse

/-!
# `Signature.EvidenceRef` — references to certificates and revocation evidence

A reference names an object by its digest and perhaps by more. **The digest decides**: it is
computed again over the object's encoding, with the reference's own algorithm, and a reference whose
algorithm is not known matches nothing. What else a reference says must not contradict the object,
except that a reference to a certificate is matched by digest alone and its issuer and serial are a
question of their own. Only a reference to a response may come without a digest, and is then matched
by responder and date.

A producer's reference (`CertificateRef.of` and its like) names everything that can be named.
-/

set_option autoImplicit false

namespace SignatureTrust

/-- A digest with the URI of its algorithm. -/
structure DigestValue where
  method : String
  value : Octets
deriving DecidableEq, Repr

namespace DigestValue

def of (d : DigestAlgorithm) (data : Octets) : DigestValue := ⟨d.uri, d.digest data⟩

def algorithm? (v : DigestValue) : Option DigestAlgorithm := DigestAlgorithm.ofUri? v.method

def isOf (v : DigestValue) (crypto : Crypto) (data : Octets) : Bool :=
  match v.algorithm? with
  | some d => crypto.digest d data == v.value
  | none => false

end DigestValue

/-! ## Certificates -/

/-- A reference to a certificate. The serial is decimal text. -/
structure CertificateRef where
  digest : DigestValue
  issuer : Name
  serial : String
deriving DecidableEq, Repr

namespace CertificateRef

def of (c : Certificate) (d : DigestAlgorithm) : CertificateRef :=
  ⟨.of d c.encoding, c.issuer, c.serial.toDecimal⟩

def isMatch (r : CertificateRef) (crypto : Crypto) (c : Certificate) : Bool :=
  r.digest.isOf crypto c.encoding

def hasIssuerAndSerialOf (r : CertificateRef) (c : Certificate) : Bool :=
  r.issuer.same c.issuer && Serial.ofDecimal? r.serial == some c.serial

end CertificateRef

/-! ## Revocation lists -/

structure CrlRef where
  digest : DigestValue
  issuer : Option Name
  issuedAt : Option Instant
  number : Option Serial
deriving DecidableEq, Repr

/-- Whether a value, where one is given, passes a test. -/
def givenImplies {α : Type} (given : Option α) (test : α → Bool) : Bool :=
  match given with
  | some a => test a
  | none => true

namespace CrlRef

def of (c : Crl) (d : DigestAlgorithm) : CrlRef :=
  ⟨.of d c.encoding, some c.issuer, some c.thisUpdate, c.number⟩

def isMatch (r : CrlRef) (crypto : Crypto) (c : Crl) : Bool :=
  r.digest.isOf crypto c.encoding &&
    givenImplies r.issuer (·.same c.issuer) &&
    givenImplies r.issuedAt (fun t => t = c.thisUpdate) &&
    givenImplies r.number (fun n => c.number = some n)

end CrlRef

/-! ## OCSP responses -/

structure OcspRef where
  responder : Option ResponderId
  producedAt : Instant
  method : Option String
  digest : Option Octets
deriving DecidableEq, Repr

namespace OcspRef

def of (r : OcspResponse) (d : DigestAlgorithm) : OcspRef :=
  ⟨some r.responder, r.producedAt, some d.uri, some (d.digest r.encoding)⟩

def digest? (r : OcspRef) : Option DigestValue := do
  return ⟨← r.method, ← r.digest⟩

def isMatch (r : OcspRef) (crypto : Crypto) (response : OcspResponse) : Bool :=
  match r.digest? with
  | some v => v.isOf crypto response.encoding
  | none =>
      decide (r.producedAt = response.producedAt) &&
        givenImplies r.responder (·.same response.responder)

end OcspRef
end SignatureTrust
