import SignatureTrust.Signature
import SignatureTrust.Text.Decimal
import SignatureTrust.Verdict

/-!
# `Signature.Integrity` — was anything changed since signing?

Every reference must have the digest of its data, and the signature value must be right for the
signed information. The signed information is what the references stand in, so the two together bind
the data to the signer's key. An algorithm that is not known, or a missing certificate, leaves the
question open.
-/

set_option autoImplicit false

namespace SignatureTrust.Signature

/-- A reference by its identifier, or else by its position and URI. -/
def referenceLabel (r : DataReference) (position : Nat) : String :=
  match r.id with
  | some id => "Reference '" ++ id ++ "'"
  | none => "Reference[" ++ String.ofList (Text.decimal position) ++ "] (" ++ r.uri ++ ")"

def referenceVerdict (crypto : Crypto) (r : DataReference) (position : Nat) : Verdict :=
  let label := referenceLabel r position
  if r.digest.algorithm?.isNone then
    .undetermined .unsupportedAlgorithm (label ++ ": unsupported digest method " ++ r.digest.method)
  else if r.digest.isOf crypto r.data then .valid (label ++ ": digest matches")
  else .invalid .referenceDigestMismatch (label ++ ": digest does not match the referenced data")

def valueVerdict (s : Signature) (crypto : Crypto) (signer : Option Certificate) : Verdict :=
  let algorithm := SignatureAlgorithm.ofUri s.signedInfo.method
  match signer with
  | none => .undetermined .noSigningCertificate "SignatureValue not checked: no signing certificate"
  | some c =>
      if algorithm.digest?.isNone then
        .undetermined .unsupportedAlgorithm ("unsupported signature method " ++ s.signedInfo.method)
      else if crypto.verifies c ⟨s.signedInfo.canonical, algorithm, s.value.value⟩ then
        .valid "SignatureValue verifies over SignedInfo"
      else
        .invalid .signatureValueInvalid
          ("SignatureValue does not verify with '" ++ c.subject.raw ++ "'")

def integrity (s : Signature) (crypto : Crypto) (signer : Option Certificate) : Verdict :=
  .combine "signature integrity"
    ((s.references.zipIdx.map fun (r, i) => referenceVerdict crypto r i) ++
      [s.valueVerdict crypto signer])

end SignatureTrust.Signature
