/-!
# `Verdict.Reason` — why a check is not valid

Every verdict other than valid carries one of these. The code is stable and is what documents
contain; the wording of a message is free to say more.
-/

set_option autoImplicit false

namespace SignatureTrust

inductive Reason where
  -- no embedded certificate is the one the signature says it was made with
  | noSigningCertificate
  -- the signing certificate is named with another digest than it has
  | signingCertificateDigestMismatch
  -- the signature names no policy
  | noPolicy
  -- there is no timestamp over the signature value
  | noTimestamp
  -- a timestamp is over other data than it stands on
  | imprintMismatch
  -- a timestamp names a digest algorithm that is not known
  | unsupportedDigest
  -- nothing vouches for who made a timestamp
  | timestampSignerUnverified
  -- the references to certificates are missing or empty
  | noCertificateRef
  -- a certificate the verdict rests on is not referred to
  | missingCertificateRef
  -- the references to revocation evidence are missing or empty
  | noRevocationRef
  -- revocation evidence the verdict rests on is not referred to
  | missingRevocationRef
  -- there are references, but no timestamp over the signature value
  | cWithoutT
  -- nothing was discovered to compare with
  | noValidationContext
  -- there is no timestamp over the references
  | noXTimestamp
  -- the embedded certificates are missing or empty
  | noCertificateValues
  -- a certificate the verdict rests on is not embedded
  | missingCertificateValue
  -- the embedded revocation evidence is missing or empty
  | noRevocationValues
  -- revocation evidence the verdict rests on is not embedded
  | missingRevocationValue
  -- there are values, but no timestamp over the references
  | xlWithoutX
  -- a reference to a certificate has no value
  | certificateValuesMismatch
  -- a reference to revocation evidence has no value
  | revocationValuesMismatch
  -- there is no archive timestamp
  | noArchiveTimestamp
  -- a certificate of the chain is revoked
  | revoked
  -- an issuer or revocation evidence was not found
  | unresolved
  -- the chain does not end in a trusted list
  | noTrustAnchor
  -- a source of revocation evidence does not know the certificate
  | statusUnknown
  -- signed data has another digest than its reference says
  | referenceDigestMismatch
  -- the signature value is not right
  | signatureValueInvalid
  -- an algorithm is not known
  | unsupportedAlgorithm
deriving DecidableEq, Repr

namespace Reason

/-- Every reason, by level and then chain and integrity. -/
def all : List Reason :=
  [.noSigningCertificate, .signingCertificateDigestMismatch, .noPolicy, .noTimestamp,
    .imprintMismatch, .unsupportedDigest, .timestampSignerUnverified, .noCertificateRef,
    .missingCertificateRef, .noRevocationRef, .missingRevocationRef, .cWithoutT,
    .noValidationContext, .noXTimestamp, .noCertificateValues, .missingCertificateValue,
    .noRevocationValues, .missingRevocationValue, .xlWithoutX, .certificateValuesMismatch,
    .revocationValuesMismatch, .noArchiveTimestamp, .revoked, .unresolved, .noTrustAnchor,
    .statusUnknown, .referenceDigestMismatch, .signatureValueInvalid, .unsupportedAlgorithm]

def code : Reason → String
  | .noSigningCertificate => "BES-001"
  | .signingCertificateDigestMismatch => "BES-002"
  | .noPolicy => "EPES-001"
  | .noTimestamp => "T-001"
  | .imprintMismatch => "T-002"
  | .unsupportedDigest => "T-003"
  | .timestampSignerUnverified => "T-004"
  | .noCertificateRef => "C-001"
  | .missingCertificateRef => "C-002"
  | .noRevocationRef => "C-003"
  | .missingRevocationRef => "C-004"
  | .cWithoutT => "C-005"
  | .noValidationContext => "C-006"
  | .noXTimestamp => "X-001"
  | .noCertificateValues => "XL-001"
  | .missingCertificateValue => "XL-002"
  | .noRevocationValues => "XL-003"
  | .missingRevocationValue => "XL-004"
  | .xlWithoutX => "XL-005"
  | .certificateValuesMismatch => "XL-006"
  | .revocationValuesMismatch => "XL-007"
  | .noArchiveTimestamp => "A-001"
  | .revoked => "CHAIN-001"
  | .unresolved => "CHAIN-002"
  | .noTrustAnchor => "CHAIN-003"
  | .statusUnknown => "CHAIN-004"
  | .referenceDigestMismatch => "INTEGRITY-001"
  | .signatureValueInvalid => "INTEGRITY-002"
  | .unsupportedAlgorithm => "INTEGRITY-003"

def ofCode? (code : String) : Option Reason := all.find? (·.code == code)

end Reason
end SignatureTrust
