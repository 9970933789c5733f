import SignatureTrust.Crypto
import SignatureTrust.Evidence.Crl
import SignatureTrust.Evidence.OcspResponse
import SignatureTrust.Evidence.TimestampToken
import SignatureTrust.Source.Certificates

/-!
# `Evidence.Token` — everything whose trust is to be established

Certificates, revocation lists, OCSP responses and timestamps have one thing in common here: each is
signed by somebody, and that somebody's certificate has to be found. A `Token` is any of them, with
the three questions discovery asks: under which name to look for the signer, whether a candidate
made the signature, and which certificates the token brings itself.

A token is filed under a `TokenKey`. **Keys are made of content, not of identity**: a certificate's
key is its issuer and serial, so two encodings can share one; a list without a number, a response
and a timestamp are told apart by digest.
-/

set_option autoImplicit false

namespace SignatureTrust

inductive Token where
  | certificate (c : Certificate)
  | crl (c : Crl)
  | ocsp (r : OcspResponse)
  | timestamp (t : TimestampToken)
deriving DecidableEq, Repr

/-- What a token is filed under. Names are in their comparison form. -/
inductive TokenKey where
  | certificate (issuer : String) (serial : Serial)
  | crl (issuer : String) (number : Octets)
  | ocsp (responder : String) (producedAt : Int) (digest : Octets)
  | timestamp (digest : Octets)
deriving DecidableEq, Repr

namespace Token

private def sha256 : Octets → Octets := DigestAlgorithm.sha256.digest

def encoding : Token → Octets
  | .certificate c => c.encoding
  | .crl c => c.encoding
  | .ocsp r => r.encoding
  | .timestamp t => t.encoding

def key : Token → TokenKey
  | .certificate c => .certificate c.issuer.canonical c.serial
  | .crl c =>
      .crl c.issuer.canonical
        (match c.number with
        | some n => n.octets
        | none => sha256 c.encoding)
  | .ocsp r => .ocsp r.responder.label r.producedAt.seconds (sha256 r.encoding)
  | .timestamp t => .timestamp (sha256 t.encoding)

def kind : Token → String
  | .certificate _ => "certificate"
  | .crl _ => "CRL"
  | .ocsp _ => "OCSP response"
  | .timestamp _ => "timestamp"

def describe : Token → String
  | .certificate c => "certificate '" ++ c.subject.raw ++ "' (serial " ++ c.serial.toHex ++ ")"
  | .crl c => "CRL of '" ++ c.issuer.raw ++ "' (" ++ c.thisUpdate.toMessageText ++ ")"
  | .ocsp r =>
      "OCSP response of '" ++ r.responder.label ++ "' (" ++ r.producedAt.toMessageText ++ ")"
  | .timestamp t => "timestamp (" ++ t.generatedAt.toMessageText ++ ")"

def certificate? : Token → Option Certificate
  | .certificate c => some c
  | _ => none

def sameEncoding : Token → Token → Bool
  | .certificate a, .certificate b => a.encoding == b.encoding
  | .crl a, .crl b => a.encoding == b.encoding
  | .ocsp a, .ocsp b => a.encoding == b.encoding
  | .timestamp a, .timestamp b => a.encoding == b.encoding
  | _, _ => false

/-! ## The signer -/

def signed : Token → SignedContent
  | .certificate c => c.signed
  | .crl c => c.signed
  | .ocsp r => r.signed
  | .timestamp t => t.signed

/-- The subject that the signer's certificate must have, when it is known. -/
def signerName? : Token → Option Name
  | .certificate c => some c.issuer
  | .crl c => some c.issuer
  | .ocsp r => r.responderName?
  | .timestamp t => t.signerCertificate?.map (·.subject)

def namesSigner (t : Token) (candidate : Certificate) : Bool :=
  match t with
  | .certificate c => candidate.subject.same c.issuer
  | .crl c => candidate.subject.same c.issuer
  | .ocsp r => r.responder.designates candidate
  | .timestamp t => t.names candidate

/-- Whether a certificate is the signer's and its key made the signature. -/
def isSignedBy (t : Token) (crypto : Crypto) (candidate : Certificate) : Bool :=
  t.namesSigner candidate && crypto.verifies candidate t.signed

def embedded : Token → CertificateStore
  | .certificate _ => .empty .embedded
  | .crl _ => .empty .embedded
  | .ocsp r => .ofCertificates .embedded r.certificates
  | .timestamp t => .ofCertificates .embedded t.certificates

end Token
end SignatureTrust
