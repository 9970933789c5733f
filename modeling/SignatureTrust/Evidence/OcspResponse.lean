import SignatureTrust.Evidence.Certificate
import SignatureTrust.Octets.Hex

/-!
# `Evidence.OcspResponse` — answers of responders

A response answers for serials, and serials are unique per issuer only. So a response is no evidence
about a certificate until it is known which issuer it speaks for (`OcspResponse.speaksFor`): the
responder is the issuer, or the responder's certificate comes with the response and was issued under
the issuer's name. None of this checks a signature.
-/

set_option autoImplicit false

namespace SignatureTrust

inductive ResponderId where
  | name (n : Name)
  -- the SHA-1 digest of the responder's key
  | keyDigest (digest : Octets)
deriving DecidableEq, Repr

inductive OcspAnswer where
  | good
  | revoked (since : Instant)
  | unknown
deriving DecidableEq, Repr

structure SingleResponse where
  serial : Serial
  answer : OcspAnswer
  thisUpdate : Instant
  nextUpdate : Option Instant
deriving DecidableEq, Repr

/-- A response with the certificates that came along. -/
structure OcspResponse where
  encoding : Octets
  responder : ResponderId
  producedAt : Instant
  responses : List SingleResponse
  signed : SignedContent
  certificates : List Certificate
deriving DecidableEq, Repr

namespace ResponderId

def designates (id : ResponderId) (c : Certificate) : Bool :=
  match id with
  | .name n => c.subject.same n
  | .keyDigest digest => c.keyDigest? == some digest

/-- Whether two identifiers name one responder: by the same name, or by the same key. -/
def same : ResponderId → ResponderId → Bool
  | .name a, .name b => a.same b
  | .keyDigest a, .keyDigest b => a == b
  | _, _ => false

def label : ResponderId → String
  | .name n => n.canonical
  | .keyDigest digest => digest.toHex

end ResponderId

namespace OcspResponse

def sameEncoding (a b : OcspResponse) : Bool := a.encoding == b.encoding

def find? (r : OcspResponse) (serial : Serial) : Option SingleResponse :=
  r.responses.find? fun single => single.serial = serial

def responderCertificate? (r : OcspResponse) : Option Certificate :=
  r.certificates.find? r.responder.designates

/-- The responder's name: as given, or that of the certificate with the given key. -/
def responderName? (r : OcspResponse) : Option Name :=
  match r.responder with
  | .name n => some n
  | .keyDigest _ => r.responderCertificate?.map (·.subject)

/-- Whether the response comes from an issuer or from a responder under the issuer's name. -/
def speaksFor (r : OcspResponse) (issuer : Certificate) : Bool :=
  r.responder.designates issuer ||
    match r.responderCertificate? with
    | some responder => responder.issuer.same issuer.subject
    | none => false

end OcspResponse
end SignatureTrust
