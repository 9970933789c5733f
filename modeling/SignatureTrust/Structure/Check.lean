import SignatureTrust.Text.Decimal

/-!
# `Structure.Check` — the structural checks

Eighteen checks look at a signature alone, without any evidence. Their order is fixed: it is the
order they run in, the numbering of their codes, and the bits of a mask (`Structure.Mask`).
-/

set_option autoImplicit false

namespace SignatureTrust.Structure

inductive Check where
  -- the first signing-certificate reference has the digest of the certificate in the key
  -- information
  | signingCertificateDigest
  -- that reference has the issuer and serial of the certificate in the key information
  | signingCertificateIssuerSerial
  -- a timestamp over all data objects is over exactly the references to data
  | allDataObjectsTimestamp
  -- a timestamp over single data objects includes references that are there
  | individualDataObjectsTimestamp
  -- a commitment is about references that are there
  | commitmentObjectReferences
  -- a data format is about a reference that is there
  | dataObjectFormatReferences
  -- a signer role has at least one role
  | signerRole
  -- an explicit policy has an identifier and a digest
  | signaturePolicy
  -- a signature timestamp includes the signature value alone
  | signatureTimestampIncludes
  -- references to certificates are there when they have to be, and leave out the signing
  -- certificate
  | completeCertificateRefs
  -- references to revocation evidence are there when references to certificates are
  | completeRevocationRefs
  -- a timestamp over signature and references includes exactly what it is over
  | sigAndRefsTimestampIncludes
  -- a timestamp over references alone includes exactly what it is over
  | refsOnlyTimestampIncludes
  -- an archive timestamp with includes names everything it is over
  | archiveTimestampIncludes
  -- every reference to a certificate has a value
  | certificateValuesMatchRefs
  -- every reference to revocation evidence has a value
  | revocationValuesMatchRefs
  -- a counter-signature signs the value of the signature it stands in
  | counterSignatureReferences
  -- no two elements have one identifier
  | uniqueIdentifiers
deriving DecidableEq, Repr

namespace Check

def all : List Check :=
  [.signingCertificateDigest, .signingCertificateIssuerSerial, .allDataObjectsTimestamp,
    .individualDataObjectsTimestamp, .commitmentObjectReferences, .dataObjectFormatReferences,
    .signerRole, .signaturePolicy, .signatureTimestampIncludes, .completeCertificateRefs,
    .completeRevocationRefs, .sigAndRefsTimestampIncludes, .refsOnlyTimestampIncludes,
    .archiveTimestampIncludes, .certificateValuesMatchRefs, .revocationValuesMatchRefs,
    .counterSignatureReferences, .uniqueIdentifiers]

def tag : Check → String
  | .signingCertificateDigest => "SigningCertificateDigest"
  | .signingCertificateIssuerSerial => "SigningCertificateIssuerSerial"
  | .allDataObjectsTimestamp => "AllDataObjectsTimestamp"
  | .individualDataObjectsTimestamp => "IndividualDataObjectsTimestamp"
  | .commitmentObjectReferences => "CommitmentObjectReferences"
  | .dataObjectFormatReferences => "DataObjectFormatReferences"
  | .signerRole => "SignerRole"
  | .signaturePolicy => "SignaturePolicy"
  | .signatureTimestampIncludes => "SignatureTimestampIncludes"
  | .completeCertificateRefs => "CompleteCertificateRefs"
  | .completeRevocationRefs => "CompleteRevocationRefs"
  | .sigAndRefsTimestampIncludes => "SigAndRefsTimestampIncludes"
  | .refsOnlyTimestampIncludes => "RefsOnlyTimestampIncludes"
  | .archiveTimestampIncludes => "ArchiveTimestampIncludes"
  | .certificateValuesMatchRefs => "CertificateValuesMatchRefs"
  | .revocationValuesMatchRefs => "RevocationValuesMatchRefs"
  | .counterSignatureReferences => "CounterSignatureReferences"
  | .uniqueIdentifiers => "UniqueIdentifiers"

/-- The name in the text of a mask. -/
def flagName : Check → String
  | .signingCertificateDigest => "SIGNING_CERTIFICATE_DIGEST"
  | .signingCertificateIssuerSerial => "SIGNING_CERTIFICATE_ISSUER_SERIAL"
  | .allDataObjectsTimestamp => "ALL_DATA_OBJECTS_TIMESTAMP"
  | .individualDataObjectsTimestamp => "INDIVIDUAL_DATA_OBJECTS_TIMESTAMP"
  | .commitmentObjectReferences => "COMMITMENT_OBJECT_REFERENCES"
  | .dataObjectFormatReferences => "DATA_OBJECT_FORMAT_REFERENCES"
  | .signerRole => "SIGNER_ROLE"
  | .signaturePolicy => "SIGNATURE_POLICY"
  | .signatureTimestampIncludes => "SIGNATURE_TIMESTAMP_INCLUDES"
  | .completeCertificateRefs => "COMPLETE_CERTIFICATE_REFS"
  | .completeRevocationRefs => "COMPLETE_REVOCATION_REFS"
  | .sigAndRefsTimestampIncludes => "SIG_AND_REFS_TIMESTAMP_INCLUDES"
  | .refsOnlyTimestampIncludes => "REFS_ONLY_TIMESTAMP_INCLUDES"
  | .archiveTimestampIncludes => "ARCHIVE_TIMESTAMP_INCLUDES"
  | .certificateValuesMatchRefs => "CERTIFICATE_VALUES_MATCH_REFS"
  | .revocationValuesMatchRefs => "REVOCATION_VALUES_MATCH_REFS"
  | .counterSignatureReferences => "COUNTER_SIGNATURE_REFERENCES"
  | .uniqueIdentifiers => "UNIQUE_IDENTIFIERS"

def index (c : Check) : Nat := c.ctorIdx

/-- The stable code, `STRUCT-001` to `STRUCT-018`. -/
def code (c : Check) : String := "STRUCT-" ++ String.ofList (Text.decimalPadded 3 (c.index + 1))

end Check
end SignatureTrust.Structure
