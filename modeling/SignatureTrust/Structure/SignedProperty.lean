import SignatureTrust.Structure.Includes

/-!
# `Structure.SignedProperty` — checks on what the signer signed

The signing certificate must be the one in the key information; timestamps over data, commitments
and data formats must be about references that are there; a role must be a role and an explicit
policy must say which. A signature without signed properties passes what is about them: that it has
none is not for these checks to say.
-/

set_option autoImplicit false

namespace SignatureTrust.Structure

/-! ## The signing certificate -/

def keyInfoCertificate? (s : Signature) : Option Certificate :=
  s.keyInfo.bind (·.certificates.head?)

def signingCertificateDigestFailures (crypto : Crypto) (s : Signature) : List Failure :=
  match s.signingCertificateRefs.head? with
  | none => [.general .signingCertificateDigest "no SigningCertificate reference"]
  | some first =>
      match keyInfoCertificate? s with
      | none => [.located .signingCertificateDigest "KeyInfo carries no certificate" "KeyInfo"]
      | some c =>
          if first.isMatch crypto c then []
          else [.located .signingCertificateDigest
            ("digest of '" ++ c.subject.raw ++ "' differs from the SigningCertificate reference")
            "SigningCertificate"]

def signingCertificateIssuerSerialFailures (s : Signature) : List Failure :=
  match s.signingCertificateRefs.head?, keyInfoCertificate? s with
  | some first, some c =>
      if first.hasIssuerAndSerialOf c then []
      else [.located .signingCertificateIssuerSerial
        ("reference names " ++ first.issuer.raw ++ " / " ++ first.serial ++ ", KeyInfo holds " ++
          c.issuer.raw ++ " / " ++ c.serial.toDecimal)
        "SigningCertificate"]
  | _, _ =>
      [.general .signingCertificateIssuerSerial
        "SigningCertificate reference or KeyInfo certificate missing"]

/-! ## References to data -/

/-- What a check finds in the signed properties; nothing where there are none. -/
def inSignedProperties (s : Signature) (find : SignedProperties → List Failure) : List Failure :=
  match s.signedProperties with
  | some p => find p
  | none => []

def referenceIds (s : Signature) : List String := s.references.filterMap (·.id)

/-- Every reference but the one to the signed properties, called by its position. -/
def dataRequirements (s : Signature) : List Requirement :=
  (s.references.zipIdx.filter fun (r, _) => !r.isSignedProperties).map fun (r, i) =>
    .element ("Reference[" ++ String.ofList (Text.decimal i) ++ "]") r.id

def allDataTimestampFailures (s : Signature) : List Failure :=
  inSignedProperties s fun p =>
    requirementFailures .allDataObjectsTimestamp "AllDataObjectsTimeStamp" (dataRequirements s)
      p.allDataTimestamps

def individualDataTimestampFailuresOf (s : Signature) (t : TimestampElement) : List Failure :=
  let label := timestampLabel "IndividualDataObjectsTimeStamp" t
  (if t.includes.isEmpty then
    [.located .individualDataObjectsTimestamp "includes no Reference" label] else []) ++
  (t.includedIds.filter fun id => !(referenceIds s).contains id).map fun id =>
    .located .individualDataObjectsTimestamp ("include '" ++ id ++ "' is not a Reference") label

def individualDataTimestampFailures (s : Signature) : List Failure :=
  inSignedProperties s fun p => p.individualDataTimestamps.flatMap
    (individualDataTimestampFailuresOf s)

def danglingFailures (check : Check) (s : Signature) (location : String) (uris : List String) :
    List Failure :=
  (uris.filter fun uri => !(referenceIds s).contains (fragment uri)).map fun uri =>
    .located check ("ObjectReference '" ++ uri ++ "' does not resolve to a Reference") location

def commitmentFailures (s : Signature) : List Failure :=
  inSignedProperties s fun p => p.commitments.flatMap fun c =>
    danglingFailures .commitmentObjectReferences s ("CommitmentTypeIndication " ++ c.type) c.objects

def dataFormatFailures (s : Signature) : List Failure :=
  inSignedProperties s fun p =>
    danglingFailures .dataObjectFormatReferences s "DataObjectFormat" p.dataFormats

/-! ## Role and policy -/

def signerRoleFailures (s : Signature) : List Failure :=
  inSignedProperties s fun p =>
    match p.signerRole with
    | some role =>
        if role.claimed.isEmpty && role.certified.isEmpty then
          [.located .signerRole "SignerRole has neither claimed nor certified roles" "SignerRole"]
        else []
    | none => []

def explicitPolicyFailures (identifier : String) (digest : DigestValue) : List Failure :=
  (if (Text.trim identifier.toList).isEmpty then
    [.located .signaturePolicy "SigPolicyId is empty" "SignaturePolicyId"] else []) ++
  (if digest.algorithm?.isNone then
    [.located .signaturePolicy ("unsupported SigPolicyHash method " ++
      digest.method) "SigPolicyHash"]
    else []) ++
  (if digest.value.isEmpty then
    [.located .signaturePolicy "SigPolicyHash is empty" "SigPolicyHash"] else [])

def signaturePolicyFailures (s : Signature) : List Failure :=
  inSignedProperties s fun p =>
    match p.policy with
    | some (.explicit identifier digest _) => explicitPolicyFailures identifier digest
    | _ => []

end SignatureTrust.Structure
