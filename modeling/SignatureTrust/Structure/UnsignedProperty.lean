import SignatureTrust.Instant.Rfc3339
import SignatureTrust.Signature.Identifiers
import SignatureTrust.Structure.Includes

/-!
# `Structure.UnsignedProperty` — checks on what was added after signing

The collections of references come in pairs and before the timestamps over them; every reference
that there is a collection of values for has its value; a counter-signature signs the value it
stands beside, at any depth; and no identifier is used twice.
-/

set_option autoImplicit false

namespace SignatureTrust.Structure

/-! ## Collections -/

def needsCertificateRefs (s : Signature) : Bool :=
  s.revocationRefs?.isSome || !s.sigAndRefsTimestamps.isEmpty || !s.refsOnlyTimestamps.isEmpty

def certificateRefsFailures (crypto : Crypto) (s : Signature) : List Failure :=
  match s.certificateRefs? with
  | none =>
      if needsCertificateRefs s then
        [.general .completeCertificateRefs
          "C-level properties present without CompleteCertificateRefs"]
      else []
  | some collection =>
      match s.signingCertificate? crypto with
      | none => []
      | some signing =>
          if collection.refs.any fun r => r.isMatch crypto signing then
            [.located .completeCertificateRefs
              ("references the signing certificate '" ++ signing.subject.raw ++ "'")
              "CompleteCertificateRefs"]
          else []

def revocationRefsFailures (s : Signature) : List Failure :=
  match s.certificateRefs?.isSome, s.revocationRefs?.isSome with
  | true, false =>
      [.general .completeRevocationRefs
        "CompleteCertificateRefs present without CompleteRevocationRefs"]
  | false, true =>
      [.general .completeRevocationRefs
        "CompleteRevocationRefs present without CompleteCertificateRefs"]
  | _, _ => []

def certificateValuesFailures (crypto : Crypto) (s : Signature) : List Failure :=
  if s.certificateValues?.isNone then []
  else (s.unmatchedCertificateRefs crypto).map fun r =>
    .located .certificateValuesMatchRefs
      ("no certificate value for " ++ r.issuer.raw ++ " / " ++ r.serial) "CertificateValues"

def revocationValuesFailures (crypto : Crypto) (s : Signature) : List Failure :=
  if s.revocationValues?.isNone then []
  else
    let (crls, ocsps) := s.unmatchedRevocationRefs crypto
    (crls.map fun r =>
      .located .revocationValuesMatchRefs
        ("no CRL value for CRLRef of " ++
          match r.issuer with
          | some n => n.raw
          | none => "unknown issuer")
        "RevocationValues") ++
    ocsps.map fun r =>
      .located .revocationValuesMatchRefs
        ("no OCSP value for OCSPRef produced at " ++ r.producedAt.toMessageText) "RevocationValues"

/-! ## Counter-signatures -/

/-- Whether a reference is to the signature value with an identifier, as a counter-signature's. -/
def countersigns (parentId : String) (r : DataReference) : Bool :=
  r.target? == some parentId &&
    match r.type with
    | some t => t == DataReference.countersignedType
    | none => true

def counterSignatureFailure? (parent : SignatureValue) (counter : SignatureCore) : Option Failure :=
  let label := match counter.id with
    | some id => "CounterSignature '" ++ id ++ "'"
    | none => "CounterSignature"
  match parent.id with
  | none => some (.located .counterSignatureReferences "parent SignatureValue has no Id" label)
  | some parentId =>
      if counter.references.any (countersigns parentId) then none
      else some (.located .counterSignatureReferences
        ("no Reference to parent SignatureValue '" ++ parentId ++ "'") label)

mutual

/-- The failures of the counter-signatures in a signature, each before those inside it. -/
def counterSignatureFailures : Signature → List Failure
  | ⟨core, unsigned⟩ => counterSignatureFailuresIn core.value unsigned

def counterSignatureFailuresIn (parent : SignatureValue) : List UnsignedProperty → List Failure
  | [] => []
  | .counterSignature ⟨core, unsigned⟩ _ :: rest =>
      (counterSignatureFailure? parent core).toList ++
        counterSignatureFailures ⟨core, unsigned⟩ ++ counterSignatureFailuresIn parent rest
  | _ :: rest => counterSignatureFailuresIn parent rest

end

/-! ## Identifiers -/

/-- The elements that occur for the second time, `before` being what has occurred. -/
def secondOccurrences (before : List String) : List String → List String
  | [] => []
  | id :: ids =>
      if before.count id = 1 then id :: secondOccurrences (id :: before) ids
      else secondOccurrences (id :: before) ids

def uniqueIdentifierFailures (s : Signature) : List Failure :=
  (secondOccurrences [] s.elementIds).map fun id =>
    .general .uniqueIdentifiers ("Id '" ++ id ++ "' is used more than once")

end SignatureTrust.Structure
