import SignatureTrust.Asn1.AttributeLabel
import SignatureTrust.Asn1.DirectoryName
import SignatureTrust.Asn1.Element
import SignatureTrust.Asn1.Header
import SignatureTrust.Asn1.ObjectIdentifier
import SignatureTrust.Asn1.PublicKey
import SignatureTrust.Asn1.Signed
import SignatureTrust.Asn1.Time
import SignatureTrust.Config
import SignatureTrust.Config.Document
import SignatureTrust.Crypto
import SignatureTrust.Crypto.Rsa
import SignatureTrust.Digest
import SignatureTrust.Digest.Padding
import SignatureTrust.Digest.Sha1
import SignatureTrust.Digest.Sha2
import SignatureTrust.Discovery
import SignatureTrust.Discovery.Ancestry
import SignatureTrust.Discovery.Context
import SignatureTrust.Discovery.Issuer
import SignatureTrust.Discovery.Resolution
import SignatureTrust.Discovery.Trust
import SignatureTrust.Evidence.Certificate
import SignatureTrust.Evidence.Certificate.Encoding
import SignatureTrust.Evidence.Crl
import SignatureTrust.Evidence.Crl.Encoding
import SignatureTrust.Evidence.OcspResponse
import SignatureTrust.Evidence.TimestampToken
import SignatureTrust.Evidence.Token
import SignatureTrust.Instant
import SignatureTrust.Instant.Calendar
import SignatureTrust.Instant.Rfc3339
import SignatureTrust.Json
import SignatureTrust.Json.Reader
import SignatureTrust.Json.Writer
import SignatureTrust.Level
import SignatureTrust.Level.Assessment
import SignatureTrust.Level.Timestamp
import SignatureTrust.Name
import SignatureTrust.Octets
import SignatureTrust.Octets.Base64
import SignatureTrust.Octets.Hex
import SignatureTrust.Octets.Numeral
import SignatureTrust.Proofs.Config.Document
import SignatureTrust.Proofs.Discovery.Agreement
import SignatureTrust.Proofs.Discovery.ChainShape
import SignatureTrust.Proofs.Discovery.ChainVerdict
import SignatureTrust.Proofs.Discovery.Collected
import SignatureTrust.Proofs.Discovery.DirectEvidence
import SignatureTrust.Proofs.Discovery.EvidenceSigner
import SignatureTrust.Proofs.Discovery.FiniteEvidence
import SignatureTrust.Proofs.Discovery.FixedPoint
import SignatureTrust.Proofs.Discovery.Growth
import SignatureTrust.Proofs.Discovery.InStep
import SignatureTrust.Proofs.Discovery.Invariant
import SignatureTrust.Proofs.Discovery.Issuer
import SignatureTrust.Proofs.Discovery.IssuerChoice
import SignatureTrust.Proofs.Discovery.IssuerLinks
import SignatureTrust.Proofs.Discovery.LookAhead
import SignatureTrust.Proofs.Discovery.Needed
import SignatureTrust.Proofs.Discovery.Passes
import SignatureTrust.Proofs.Discovery.RecordedEvidence
import SignatureTrust.Proofs.Discovery.Requests
import SignatureTrust.Proofs.Discovery.Run
import SignatureTrust.Proofs.Discovery.ServicePeriod
import SignatureTrust.Proofs.Discovery.StatusWithin
import SignatureTrust.Proofs.Discovery.TrustPath
import SignatureTrust.Proofs.Discovery.TrustedParent
import SignatureTrust.Proofs.Discovery.Unexpired
import SignatureTrust.Proofs.Json
import SignatureTrust.Proofs.Level.ArchiveTimestamp
import SignatureTrust.Proofs.Level.CompleteReferences
import SignatureTrust.Proofs.Level.Coverage
import SignatureTrust.Proofs.Level.SelfSufficiency
import SignatureTrust.Proofs.Level.TimestampSigner
import SignatureTrust.Proofs.Name
import SignatureTrust.Proofs.Octets.Numeral
import SignatureTrust.Proofs.Serial
import SignatureTrust.Proofs.Serial.Decimal
import SignatureTrust.Proofs.Signature.Coverage
import SignatureTrust.Proofs.Signature.Evidence
import SignatureTrust.Proofs.Signature.EvidenceRef
import SignatureTrust.Proofs.Source.Certificates
import SignatureTrust.Proofs.Source.Insertion
import SignatureTrust.Proofs.Source.Revocation
import SignatureTrust.Proofs.Status
import SignatureTrust.Proofs.Status.Delegation
import SignatureTrust.Proofs.Status.Forgery
import SignatureTrust.Proofs.Status.Justification
import SignatureTrust.Proofs.Structure.ArchiveIncludes
import SignatureTrust.Proofs.Structure.CounterSignatures
import SignatureTrust.Proofs.Structure.Examination
import SignatureTrust.Proofs.Structure.Includes
import SignatureTrust.Proofs.Structure.Labels
import SignatureTrust.Proofs.Structure.MaskText
import SignatureTrust.Proofs.Structure.SumOfChecks
import SignatureTrust.Proofs.Structure.UniqueIdentifiers
import SignatureTrust.Proofs.Text.Blank
import SignatureTrust.Proofs.Text.CaseMapping
import SignatureTrust.Proofs.Text.Decimal
import SignatureTrust.Proofs.Validator.Indication
import SignatureTrust.Proofs.Validator.Memo
import SignatureTrust.Proofs.Validator.ReportTree
import SignatureTrust.Proofs.Verdict
import SignatureTrust.Proofs.Verdict.Combination
import SignatureTrust.Report
import SignatureTrust.Serial
import SignatureTrust.Signature
import SignatureTrust.Signature.Coverage
import SignatureTrust.Signature.Element
import SignatureTrust.Signature.EvidenceRef
import SignatureTrust.Signature.Identifiers
import SignatureTrust.Signature.Integrity
import SignatureTrust.SignatureAlgorithm
import SignatureTrust.SignedContent
import SignatureTrust.Source.Certificates
import SignatureTrust.Source.Entry
import SignatureTrust.Source.Revocation
import SignatureTrust.Status
import SignatureTrust.Structure.Check
import SignatureTrust.Structure.Examination
import SignatureTrust.Structure.Includes
import SignatureTrust.Structure.Mask
import SignatureTrust.Structure.Report
import SignatureTrust.Structure.SignedProperty
import SignatureTrust.Structure.UnsignedProperty
import SignatureTrust.Text.Blank
import SignatureTrust.Text.CaseMapping
import SignatureTrust.Text.CaseTable
import SignatureTrust.Text.Decimal
import SignatureTrust.Validator
import SignatureTrust.Verdict
import SignatureTrust.Verdict.Indication
import SignatureTrust.Verdict.Reason
