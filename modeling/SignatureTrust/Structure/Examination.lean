import SignatureTrust.Config
import SignatureTrust.Structure.SignedProperty
import SignatureTrust.Structure.UnsignedProperty

/-!
# `Structure.Examination` — running the selected checks

The checks know nothing of each other, so a report is the failures of each in turn. A pass that
stops early stops after the first check that fails, with everything that this check found.
-/

set_option autoImplicit false

namespace SignatureTrust.Structure

def Check.failures (crypto : Crypto) (s : Signature) : Check → List Failure
  | .signingCertificateDigest => signingCertificateDigestFailures crypto s
  | .signingCertificateIssuerSerial => signingCertificateIssuerSerialFailures s
  | .allDataObjectsTimestamp => allDataTimestampFailures s
  | .individualDataObjectsTimestamp => individualDataTimestampFailures s
  | .commitmentObjectReferences => commitmentFailures s
  | .dataObjectFormatReferences => dataFormatFailures s
  | .signerRole => signerRoleFailures s
  | .signaturePolicy => signaturePolicyFailures s
  | .signatureTimestampIncludes => signatureTimestampFailures s
  | .completeCertificateRefs => certificateRefsFailures crypto s
  | .completeRevocationRefs => revocationRefsFailures s
  | .sigAndRefsTimestampIncludes => sigAndRefsTimestampFailures s
  | .refsOnlyTimestampIncludes => refsOnlyTimestampFailures s
  | .archiveTimestampIncludes => archiveTimestampFailures s
  | .certificateValuesMatchRefs => certificateValuesFailures crypto s
  | .revocationValuesMatchRefs => revocationValuesFailures crypto s
  | .counterSignatureReferences => counterSignatureFailures s
  | .uniqueIdentifiers => uniqueIdentifierFailures s

/-- Runs checks in order, up to the first that fails if told to stop there. -/
def runChecks (crypto : Crypto) (s : Signature) (stop : Bool) : List Check → Report
  | [] => ⟨[], [], false⟩
  | c :: rest =>
      let found := c.failures crypto s
      if stop && !found.isEmpty then ⟨[c], found, true⟩
      else
        let later := runChecks crypto s stop rest
        ⟨c :: later.checksRun, found ++ later.failures, later.stoppedEarly⟩

def examine (config : Config) (crypto : Crypto) (s : Signature) : Report :=
  runChecks crypto s config.stopOnFirstFailure config.structuralChecks.checks

end SignatureTrust.Structure
