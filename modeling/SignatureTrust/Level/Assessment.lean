import SignatureTrust.Level
import SignatureTrust.Level.Timestamp
import SignatureTrust.Signature.Coverage

/-!
# `Level.Assessment` — verdicts on every level

Levels C and XL are about **what the verdict rests on**: every certificate, list and response that
discovery gathered for the signing certificate must be referred to (C) or embedded (XL). Where
nothing was discovered, they are undetermined. The signing certificate itself counts as given. T, X
and A are about timestamps, each over its own part of the signature.

No level waits for another: a signature without a valid timestamp can still have complete
references.
-/

set_option autoImplicit false

namespace SignatureTrust

/-- A signature with everything its levels are judged by. -/
structure Assessment where
  signature : Signature
  -- what was discovered for the signing certificate, if there is one
  context : Option Context
  crypto : Crypto
  timestamps : TimestampVerifier

namespace Assessment

/-! ## BES and EPES -/

def bes (a : Assessment) : Verdict :=
  match a.signature.signingCertificateRefs.head? with
  | none => .invalid .noSigningCertificate "no SigningCertificate reference"
  | some first =>
      let embedded := a.signature.embeddedCertificates
      if embedded.any (first.isMatch a.crypto) then .valid "signing certificate resolved"
      else if embedded.any first.hasIssuerAndSerialOf then
        .invalid .signingCertificateDigestMismatch
          ("certificate " ++ first.issuer.raw ++ " / " ++ first.serial ++
            " found but its digest differs from the reference")
      else
        .invalid .noSigningCertificate
          "no signing certificate matches the SigningCertificate reference"

def epes (a : Assessment) : Verdict :=
  match a.signature.signedProperties.bind (·.policy) with
  | some .implied => .valid "implied signature policy"
  | some (.explicit identifier _ _) => .valid ("signature policy " ++ identifier)
  | none => .invalid .noPolicy "no SignaturePolicyIdentifier"

/-! ## T -/

def t (a : Assessment) : Verdict :=
  let timestamps := a.signature.signatureTimestamps
  if timestamps.isEmpty then .invalid .noTimestamp "no SignatureTimeStamp"
  else
    .combine "signature timestamps"
      (timestamps.map fun ts =>
        a.timestamps.verify "SignatureTimeStamp" ts a.signature.signatureTimestampData)

/-! ## What the verdict rests on -/

def noContext : Verdict :=
  .undetermined .noValidationContext "signing certificate chain was not discovered"

/-- The needed certificates, without the target. -/
def neededCertificates (c : Context) : List Certificate :=
  (c.neededEntries.map (·.certificate)).filter fun needed =>
    !(c.targetCertificate?.any needed.sameEncoding)

def onCertificates (c : Context) (isThere : Certificate → Bool) (reason : Reason)
    (yes no : Certificate → String) : List Verdict :=
  (neededCertificates c).map fun needed =>
    if isThere needed then .valid (yes needed) else .invalid reason (no needed)

/-- A verdict on each needed list and then each needed response, by whether it is there. -/
def onRevocations (c : Context) (hasCrl : Crl → Bool) (hasOcsp : OcspResponse → Bool)
    (reason : Reason) (yes no : String → String) : List Verdict :=
  (c.neededCrls.map fun crl =>
    let what := "CRL of '" ++ crl.issuer.raw ++ "'"
    if hasCrl crl then .valid (yes what) else .invalid reason (no what)) ++
  c.neededOcsps.map fun r =>
    let what := "OCSP response of '" ++ r.responder.label ++ "'"
    if hasOcsp r then .valid (yes what) else .invalid reason (no what)

/-! ## C -/

def certificateRefs (a : Assessment) : Verdict :=
  let refs := match a.signature.certificateRefs? with
    | some collection => collection.refs
    | none => []
  if refs.isEmpty then .invalid .noCertificateRef "no certificate reference"
  else match a.context with
    | none => noContext
    | some c =>
        .combine "certificate references"
          (onCertificates c (fun needed => refs.any fun r => r.isMatch a.crypto needed)
            .missingCertificateRef
            (fun needed => "'" ++ needed.subject.raw ++ "' referenced")
            (fun needed => "no reference to certificate '" ++ needed.subject.raw ++ "'"))

def revocationRefs (a : Assessment) : Verdict :=
  match a.signature.revocationRefs? with
  | none => .invalid .noRevocationRef "no revocation reference"
  | some refs =>
      if refs.isEmpty then .invalid .noRevocationRef "no revocation reference"
      else match a.context with
        | none => noContext
        | some c =>
            .combine "revocation references"
              (onRevocations c
                (fun crl => refs.crls.any fun r => r.isMatch a.crypto crl)
                (fun response => refs.ocsps.any fun r => r.isMatch a.crypto response)
                .missingRevocationRef
                (fun what => what ++ " referenced")
                (fun what => "no reference to " ++ what))

def c (a : Assessment) : Verdict :=
  .combine "complete validation references" [a.certificateRefs, a.revocationRefs]

/-! ## X -/

def x (a : Assessment) : Verdict :=
  let s := a.signature
  if s.sigAndRefsTimestamps.isEmpty && s.refsOnlyTimestamps.isEmpty then
    .invalid .noXTimestamp "no SigAndRefsTimeStamp or RefsOnlyTimeStamp"
  else
    .combine "X timestamps"
      ((s.sigAndRefsTimestamps.map fun ts =>
          a.timestamps.verify "SigAndRefsTimeStamp" ts s.sigAndRefsData) ++
        s.refsOnlyTimestamps.map fun ts =>
          a.timestamps.verify "RefsOnlyTimeStamp" ts s.refsOnlyData)

/-! ## XL -/

def certificateValues (a : Assessment) : Verdict :=
  let values := match a.signature.certificateValues? with
    | some v => v.certificates
    | none => []
  if values.isEmpty then .invalid .noCertificateValues "no certificate values"
  else match a.context with
    | none => noContext
    | some c =>
        .combine "certificate values"
          (onCertificates c (fun needed => values.any (·.sameEncoding needed))
            .missingCertificateValue
            (fun needed => "'" ++ needed.subject.raw ++ "' embedded")
            (fun needed => "certificate '" ++ needed.subject.raw ++ "' not embedded"))

def revocationValues (a : Assessment) : Verdict :=
  match a.signature.revocationValues? with
  | none => .invalid .noRevocationValues "no revocation values"
  | some values =>
      if values.isEmpty then .invalid .noRevocationValues "no revocation values"
      else match a.context with
        | none => noContext
        | some c =>
            .combine "revocation values"
              (onRevocations c
                (fun crl => values.crls.any (·.sameEncoding crl))
                (fun response => values.ocsps.any (·.sameEncoding response))
                .missingRevocationValue
                (fun what => what ++ " embedded")
                (fun what => what ++ " not embedded"))

def certificateValuesMatchRefs (a : Assessment) : Verdict :=
  let unmatched := a.signature.unmatchedCertificateRefs a.crypto
  if unmatched.isEmpty then .valid "certificate values match references"
  else
    .invalid .certificateValuesMismatch
      ("no value for certificate refs: " ++
        String.intercalate ", " (unmatched.map fun r => r.issuer.raw ++ " / " ++ r.serial))

def revocationValuesMatchRefs (a : Assessment) : Verdict :=
  let (crls, ocsps) := a.signature.unmatchedRevocationRefs a.crypto
  if crls.isEmpty && ocsps.isEmpty then .valid "revocation values match references"
  else
    .invalid .revocationValuesMismatch
      (String.ofList (Text.decimal crls.length) ++ " CRL refs and " ++
        String.ofList (Text.decimal ocsps.length) ++ " OCSP refs without a value")

def xl (a : Assessment) : Verdict :=
  .combine "validation values"
    ([a.certificateValues, a.revocationValues] ++
      (if a.signature.certificateRefs?.isSome then [a.certificateValuesMatchRefs] else []) ++
      (if a.signature.revocationRefs?.isSome then [a.revocationValuesMatchRefs] else []))

/-! ## A -/

def archive (a : Assessment) : Verdict :=
  let timestamps := a.signature.archiveTimestamps
  if timestamps.isEmpty then .invalid .noArchiveTimestamp "no ArchiveTimeStamp"
  else
    .combine "archive timestamps"
      (timestamps.map fun (position, ts) =>
        a.timestamps.verify "ArchiveTimeStamp" ts (a.signature.archiveData position))

/-! ## All of them -/

def verdicts (a : Assessment) : LevelVerdicts :=
  ⟨a.bes, a.epes, a.t, a.c, a.x, a.xl, a.archive⟩

def cNeedsT? (a : Assessment) : Option Verdict :=
  let s := a.signature
  if s.certificateRefs?.isSome || s.revocationRefs?.isSome then
    some (if s.signatureTimestamps.isEmpty then
      .invalid .cWithoutT "complete references present without a SignatureTimeStamp"
    else .valid "XAdES-C builds on XAdES-T")
  else none

def xlNeedsX? (a : Assessment) : Option Verdict :=
  let s := a.signature
  if s.certificateValues?.isSome || s.revocationValues?.isSome then
    some (if s.sigAndRefsTimestamps.isEmpty && s.refsOnlyTimestamps.isEmpty then
      .invalid .xlWithoutX "validation values present without an X timestamp"
    else .valid "XAdES-XL builds on XAdES-X")
  else none

def consistency (a : Assessment) : LevelConsistency := ⟨a.cNeedsT?, a.xlNeedsX?⟩

end Assessment
end SignatureTrust
