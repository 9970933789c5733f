import SignatureTrust.Level.Assessment
import SignatureTrust.Report
import SignatureTrust.Signature.Integrity
import SignatureTrust.Structure.Examination

/-!
# `Validator` — validating signatures

A signature brings evidence of its own, which is consulted before anything outside. Validation
refuses a signature only when there is nothing to validate — no signed properties, or an empty
signature value; everything else is a report.

Discovery is the expensive part, so the last context is kept, and used again for the same signing
certificate at the same date with the same embedded evidence. The memo is passed on through the
counter-signatures, **and survives a refusal**: what had been discovered before a counter-signature
was refused is still there for the next call.
-/

set_option autoImplicit false

namespace SignatureTrust

inductive ValidationError where
  | noSignedProperties (id : Option String)
  | emptySignatureValue (id : Option String)
  -- discovery went against its own context
  | discovery (e : ContextError)
deriving DecidableEq, Repr

namespace ValidationError

private def label : Option String → String
  | some id => id
  | none => "<no id>"

def message : ValidationError → String
  | .noSignedProperties id =>
      "Structural error: signature " ++ label id ++ " has no SignedProperties"
  | .emptySignatureValue id =>
      "Structural error: signature " ++ label id ++ " has an empty SignatureValue"
  | .discovery e => e.message

end ValidationError

/-- What a validation has at hand besides the signature. -/
structure Settings where
  crypto : Crypto
  trustedList : CertificateStore
  certificates : Option CertificateSource := none
  crls : Option CrlSource := none
  ocsps : Option OcspSource := none
  config : Config := {}

/-- The last context, and what it was discovered for. -/
structure Memo where
  certificate : Certificate
  date : Instant
  evidenceDigest : Octets
  context : Context

namespace Signature

def embeddedCrls (s : Signature) : List Crl :=
  match s.revocationValues? with
  | some v => v.crls
  | none => []

def embeddedOcsps (s : Signature) : List OcspResponse :=
  match s.revocationValues? with
  | some v => v.ocsps
  | none => []

/-- The SHA-256 digest over the encodings of all embedded evidence. -/
def evidenceDigest (s : Signature) : Octets :=
  DigestAlgorithm.sha256.digest
    (s.embeddedCertificates.flatMap (·.encoding) ++ s.embeddedCrls.flatMap (·.encoding) ++
      s.embeddedOcsps.flatMap (·.encoding))

end Signature

namespace Settings

/-- The sources for a signature: the trusted list, and its own evidence before that from outside. -/
def sources (v : Settings) (s : Signature) : Sources where
  crypto := v.crypto
  trustedList := some v.trustedList.bySubject
  external := some (CertificateSource.inTurn
    ((CertificateStore.ofCertificates .embedded s.embeddedCertificates).bySubject ::
      v.certificates.toList))
  crl := some (EvidenceSource.inTurn (CrlSource.ofList s.embeddedCrls :: v.crls.toList))
  ocsp := some (EvidenceSource.inTurn (OcspSource.ofList s.embeddedOcsps :: v.ocsps.toList))

def isFor (m : Memo) (certificate : Certificate) (date : Instant)
    (evidenceDigest : Octets) : Bool :=
  m.certificate.sameEncoding certificate && m.date = date && m.evidenceDigest == evidenceDigest

def signingContext (v : Settings) (s : Signature) (certificate : Certificate) (date : Instant)
    (memo : Option Memo) : Except ContextError Context × Option Memo :=
  let digest := s.evidenceDigest
  match memo.filter fun m => isFor m certificate date digest with
  | some m => (.ok m.context, memo)
  | none =>
      match (Context.ofTarget (.certificate certificate) date).discover (v.sources s) v.config with
      | .error e => (.error e, memo)
      | .ok context => (.ok context, some ⟨certificate, date, digest, context⟩)

def refusal? (s : SignatureCore) : Option ValidationError :=
  if s.signedProperties.isNone then some (.noSignedProperties s.id)
  else if s.value.value.isEmpty then some (.emptySignatureValue s.id)
  else none

def timestamps (v : Settings) (s : Signature) (date : Instant) : TimestampVerifier :=
  ⟨v.crypto, date, if v.config.verifyTimestampSigners then some (v.sources s, v.config)
    else none⟩

def report (v : Settings) (s : Signature) (date : Instant) (signer : Option Certificate)
    (context : Option Context) : Report :=
  let assessment : Assessment := ⟨s, context, v.crypto, v.timestamps s date⟩
  { signatureId := s.id
    date
    signer
    integrity := s.integrity v.crypto signer
    chain := chainVerdict context
    levels := assessment.verdicts
    consistency := assessment.consistency
    structural := Structure.examine v.config v.crypto s
    qualification := .of signer context
    evidence := match context with
      | some c => .ofContext c
      | none => {}
    counterSignatures := [] }

def validateAlone (v : Settings) (date : Instant) (s : Signature) (memo : Option Memo) :
    Except ValidationError Report × Option Memo :=
  match refusal? s.toSignatureCore with
  | some e => (.error e, memo)
  | none =>
      match s.signingCertificate? v.crypto with
      | none => (.ok (v.report s date none none), memo)
      | some signer =>
          match v.signingContext s signer date memo with
          | (.error e, memo) => (.error (.discovery e), memo)
          | (.ok context, memo) => (.ok (v.report s date (some signer) (some context)), memo)

mutual

/-- The report on a signature and, if wanted, on the counter-signatures in it. -/
def validate (v : Settings) (date : Instant) : Signature → Option Memo →
    Except ValidationError Report × Option Memo
  | ⟨core, unsigned⟩, memo =>
      match v.validateAlone date ⟨core, unsigned⟩ memo with
      | (.error e, memo) => (.error e, memo)
      | (.ok report, memo) =>
          if v.config.validateCounterSignatures then
            match v.validateCounters date unsigned memo with
            | (.error e, memo) => (.error e, memo)
            | (.ok counters, memo) => (.ok { report with counterSignatures := counters }, memo)
          else (.ok report, memo)

/-- The reports on the counter-signatures among some properties, up to the first that is refused. -/
def validateCounters (v : Settings) (date : Instant) : List UnsignedProperty → Option Memo →
    Except ValidationError (List Report) × Option Memo
  | [], memo => (.ok [], memo)
  | .counterSignature s _ :: rest, memo =>
      match v.validate date s memo with
      | (.error e, memo) => (.error e, memo)
      | (.ok report, memo) =>
          match v.validateCounters date rest memo with
          | (.error e, memo) => (.error e, memo)
          | (.ok reports, memo) => (.ok (report :: reports), memo)
  | _ :: rest, memo => v.validateCounters date rest memo

end

end Settings

structure Validator where
  settings : Settings
  memo : Option Memo := none

namespace Validator

/-- The same validator under another configuration. The memo is kept. -/
def withConfig (v : Validator) (config : Config) : Validator :=
  { v with settings := { v.settings with config } }

def lastContext? (v : Validator) : Option Context := v.memo.map (·.context)

def validate (v : Validator) (s : Signature) (date : Instant) :
    Except ValidationError Report × Validator :=
  let (outcome, memo) := v.settings.validate date s v.memo
  (outcome, { v with memo })

end Validator
end SignatureTrust
