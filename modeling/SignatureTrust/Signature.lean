import SignatureTrust.Signature.Element

/-!
# `Signature` — a signature with its properties

The signer fixes a `SignatureCore`; whoever keeps the signature alive adds unsigned properties to
it, **in an order that matters**, since an archive timestamp is over what stands before it. A
counter-signature is such a property and a whole signature again, so the two types are mutual, and
what has to reach every counter-signature recurses on them together.
-/

set_option autoImplicit false

namespace SignatureTrust

/-- What the signer made. -/
structure SignatureCore where
  id : Option String
  signedInfo : SignedInfo
  references : List DataReference
  value : SignatureValue
  keyInfo : Option KeyInfo
  signedProperties : Option SignedProperties
  -- the identifier of the element that holds the unsigned properties
  unsignedId : Option String
deriving DecidableEq, Repr

mutual

structure Signature extends SignatureCore where
  unsigned : List UnsignedProperty

inductive UnsignedProperty where
  | signatureTimestamp (t : TimestampElement)
  | certificateRefs (r : CertificateRefs)
  | revocationRefs (r : RevocationRefs)
  | sigAndRefsTimestamp (t : TimestampElement)
  | refsOnlyTimestamp (t : TimestampElement)
  | certificateValues (v : CertificateValues)
  | revocationValues (v : RevocationValues)
  | archiveTimestamp (t : TimestampElement)
  | counterSignature (s : Signature) (canonical : Octets)

end

deriving instance BEq for Signature, UnsignedProperty

namespace UnsignedProperty

def id : UnsignedProperty → Option String
  | .signatureTimestamp t | .sigAndRefsTimestamp t | .refsOnlyTimestamp t | .archiveTimestamp t =>
      t.id
  | .certificateRefs r => r.id
  | .revocationRefs r => r.id
  | .certificateValues v => v.id
  | .revocationValues v => v.id
  | .counterSignature s _ => s.id

/-- What the property adds to the coverage of a later archive timestamp: a timestamp adds its
token. -/
def canonical : UnsignedProperty → Octets
  | .signatureTimestamp t | .sigAndRefsTimestamp t | .refsOnlyTimestamp t | .archiveTimestamp t =>
      t.token.encoding
  | .certificateRefs r => r.canonical
  | .revocationRefs r => r.canonical
  | .certificateValues v => v.canonical
  | .revocationValues v => v.canonical
  | .counterSignature _ canonical => canonical

def elementName : UnsignedProperty → String
  | .signatureTimestamp _ => "SignatureTimeStamp"
  | .certificateRefs _ => "CompleteCertificateRefs"
  | .revocationRefs _ => "CompleteRevocationRefs"
  | .sigAndRefsTimestamp _ => "SigAndRefsTimeStamp"
  | .refsOnlyTimestamp _ => "RefsOnlyTimeStamp"
  | .certificateValues _ => "CertificateValues"
  | .revocationValues _ => "RevocationValues"
  | .archiveTimestamp _ => "ArchiveTimeStamp"
  | .counterSignature _ _ => "CounterSignature"

/-! ## One kind at a time -/

def signatureTimestamp? : UnsignedProperty → Option TimestampElement
  | .signatureTimestamp t => some t
  | _ => none

def sigAndRefsTimestamp? : UnsignedProperty → Option TimestampElement
  | .sigAndRefsTimestamp t => some t
  | _ => none

def refsOnlyTimestamp? : UnsignedProperty → Option TimestampElement
  | .refsOnlyTimestamp t => some t
  | _ => none

def archiveTimestamp? : UnsignedProperty → Option TimestampElement
  | .archiveTimestamp t => some t
  | _ => none

def certificateRefs? : UnsignedProperty → Option CertificateRefs
  | .certificateRefs r => some r
  | _ => none

def revocationRefs? : UnsignedProperty → Option RevocationRefs
  | .revocationRefs r => some r
  | _ => none

def certificateValues? : UnsignedProperty → Option CertificateValues
  | .certificateValues v => some v
  | _ => none

def revocationValues? : UnsignedProperty → Option RevocationValues
  | .revocationValues v => some v
  | _ => none

def counterSignature? : UnsignedProperty → Option Signature
  | .counterSignature s _ => some s
  | _ => none

end UnsignedProperty

namespace Signature

open UnsignedProperty

/-! ## Looking into a signature

Collections may be repeated in a document; the first one counts. -/

def signingCertificateRefs (s : Signature) : List CertificateRef :=
  match s.signedProperties with
  | some p => p.signingCertificate
  | none => []

def signatureTimestamps (s : Signature) : List TimestampElement :=
  s.unsigned.filterMap signatureTimestamp?

def sigAndRefsTimestamps (s : Signature) : List TimestampElement :=
  s.unsigned.filterMap sigAndRefsTimestamp?

def refsOnlyTimestamps (s : Signature) : List TimestampElement :=
  s.unsigned.filterMap refsOnlyTimestamp?

def archiveTimestamps (s : Signature) : List (Nat × TimestampElement) :=
  s.unsigned.zipIdx.filterMap fun (p, i) => p.archiveTimestamp?.map fun t => (i, t)

def certificateRefs? (s : Signature) : Option CertificateRefs :=
  s.unsigned.findSome? UnsignedProperty.certificateRefs?

def revocationRefs? (s : Signature) : Option RevocationRefs :=
  s.unsigned.findSome? UnsignedProperty.revocationRefs?

def certificateValues? (s : Signature) : Option CertificateValues :=
  s.unsigned.findSome? UnsignedProperty.certificateValues?

def revocationValues? (s : Signature) : Option RevocationValues :=
  s.unsigned.findSome? UnsignedProperty.revocationValues?

def counterSignatures (s : Signature) : List Signature := s.unsigned.filterMap counterSignature?

/-! ## Embedded certificates -/

/-- The certificates of the key information, then those of the values, each encoding once. -/
def embeddedCertificates (s : Signature) : List Certificate :=
  let inKeyInfo := match s.keyInfo with
    | some k => k.certificates
    | none => []
  let inValues := match s.certificateValues? with
    | some v => v.certificates
    | none => []
  (inKeyInfo ++ inValues).foldl
    (fun kept c => if kept.any (·.sameEncoding c) then kept else kept ++ [c]) []

/-- The first embedded certificate that the first signing-certificate reference matches. -/
def signingCertificate? (s : Signature) (crypto : Crypto) : Option Certificate := do
  let first ← s.signingCertificateRefs.head?
  s.embeddedCertificates.find? (first.isMatch crypto)

/-! ## References without values -/

def unmatchedCertificateRefs (s : Signature) (crypto : Crypto) : List CertificateRef :=
  match s.certificateRefs? with
  | none => []
  | some collection =>
      let values := s.embeddedCertificates
      collection.refs.filter fun r => !values.any (r.isMatch crypto)

def unmatchedRevocationRefs (s : Signature) (crypto : Crypto) : List CrlRef × List OcspRef :=
  match s.revocationRefs? with
  | none => ([], [])
  | some collection =>
      let crls := match s.revocationValues? with
        | some v => v.crls
        | none => []
      let ocsps := match s.revocationValues? with
        | some v => v.ocsps
        | none => []
      (collection.crls.filter fun r => !crls.any (r.isMatch crypto),
        collection.ocsps.filter fun r => !ocsps.any (r.isMatch crypto))

end Signature
end SignatureTrust
