import SignatureTrust.Evidence.Token
import SignatureTrust.Source.Revocation

/-!
# `Status` — was this certificate revoked at that time?

Evidence counts only when its signature says so: a list signed by the issuer, a response signed by
the issuer or by a responder that came along and that the issuer certified. Anything else gives **no
answer**, and no answer is not the answer *unknown*: it leaves the question to the next source, and
in the end leaves the certificate unresolved.

OCSP is asked first. Its *unknown* gives way to a list that has an answer, and stands where there is
none (`Status.check?`).
-/

set_option autoImplicit false

namespace SignatureTrust

inductive Validity where
  | valid
  | revoked
  | unknown
deriving DecidableEq, Repr

inductive RevocationEvidence where
  | crl (c : Crl)
  | ocsp (r : OcspResponse)
deriving Repr

/-- The status of a certificate at an instant, and what it rests on. -/
structure Status where
  certificate : Certificate
  issuer : Option Certificate
  validity : Validity
  evidence : Option RevocationEvidence
  revokedAt : Option Instant
  date : Instant
deriving Repr

namespace RevocationEvidence

def token : RevocationEvidence → Token
  | .crl c => .crl c
  | .ocsp r => .ocsp r

end RevocationEvidence

namespace Status

/-- A revocation counts from its date on. -/
def asOf (date : Instant) (revokedAt : Option Instant) : Validity × Option Instant :=
  match revokedAt with
  | some at' => if at' ≤ date then (.revoked, some at') else (.valid, none)
  | none => (.valid, none)

/-! ## Revocation lists -/

/-- What a genuine list, already published, says about a certificate. -/
def ofCrl? (crypto : Crypto) (certificate issuer : Certificate) (date : Instant) (crl : Crl) :
    Option Status :=
  if !(Token.crl crl).isSignedBy crypto issuer || decide (date < crl.thisUpdate) then none
  else
    let (validity, revokedAt) := asOf date ((crl.find? certificate.serial).map (·.date))
    some ⟨certificate, some issuer, validity, some (.crl crl), revokedAt, date⟩

def byCrl? (crypto : Crypto) (source : CrlSource) (certificate issuer : Certificate)
    (date : Instant) : Option Status := do
  ofCrl? crypto certificate issuer date (← source.getAt certificate issuer date)

/-! ## OCSP -/

/-- Whether the issuer answers for a response: it signed it, or it certified the responder that came
along and signed it. -/
def isAuthorized (crypto : Crypto) (issuer : Certificate) (r : OcspResponse) : Bool :=
  (Token.ocsp r).isSignedBy crypto issuer ||
    match r.responderCertificate? with
    | some responder =>
        (Token.certificate responder).isSignedBy crypto issuer &&
          (Token.ocsp r).isSignedBy crypto responder
    | none => false

def ofAnswer (date : Instant) : OcspAnswer → Validity × Option Instant
  | .good => asOf date none
  | .revoked since => asOf date (some since)
  | .unknown => (.unknown, none)

/-- What a genuine response, with an answer already given, says about a certificate. -/
def ofResponse? (crypto : Crypto) (certificate issuer : Certificate) (date : Instant)
    (r : OcspResponse) : Option Status :=
  if !isAuthorized crypto issuer r then none
  else match r.find? certificate.serial with
    | none => none
    | some single =>
        if date < single.thisUpdate then none
        else
          let (validity, revokedAt) := ofAnswer date single.answer
          some ⟨certificate, some issuer, validity, some (.ocsp r), revokedAt, date⟩

def byOcsp? (crypto : Crypto) (source : OcspSource) (certificate issuer : Certificate)
    (date : Instant) : Option Status := do
  ofResponse? crypto certificate issuer date (← source.getAt certificate issuer date)

/-! ## Both -/

/-- An answer that says something stands; otherwise the fallback does, if it answers at all. -/
def orElse (first fallback : Option Status) : Option Status :=
  match first with
  | none => fallback
  | some s => if s.validity = .unknown then some (fallback.getD s) else some s

def check? (crypto : Crypto) (ocsp : Option OcspSource) (crl : Option CrlSource)
    (certificate issuer : Certificate) (date : Instant) : Option Status :=
  orElse (ocsp.bind fun source => byOcsp? crypto source certificate issuer date)
    (crl.bind fun source => byCrl? crypto source certificate issuer date)

end Status
end SignatureTrust
