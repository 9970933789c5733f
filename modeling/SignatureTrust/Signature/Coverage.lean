import SignatureTrust.Signature

/-!
# `Signature.Coverage` — what the timestamps of a signature are over

A timestamp is over a concatenation of canonical octets in a fixed order; each kind of timestamp has
its own. The concatenation has no separators: two signatures with the same coverage need not have
the same parts.
-/

set_option autoImplicit false

namespace SignatureTrust.Signature

/-- Under a signature timestamp: the signature value. -/
def signatureTimestampData (s : Signature) : Octets := s.value.canonical

/-- Under a timestamp over references alone: those to certificates, then those to revocation
evidence. -/
def refsOnlyData (s : Signature) : Octets :=
  (match s.certificateRefs? with
    | some r => r.canonical
    | none => []) ++
  (match s.revocationRefs? with
    | some r => r.canonical
    | none => [])

/-- Under a timestamp over signature and references: the signature value, its timestamps, the
references. -/
def sigAndRefsData (s : Signature) : Octets :=
  s.value.canonical ++ s.signatureTimestamps.flatMap (·.token.encoding) ++ s.refsOnlyData

/-- Under an archive timestamp at a position: the signed data, everything the signer made, and the
unsigned properties that stand before. -/
def archiveData (s : Signature) (position : Nat) : Octets :=
  s.references.flatMap (·.data) ++ s.signedInfo.canonical ++ s.value.canonical ++
    (match s.keyInfo with
      | some k => k.canonical
      | none => []) ++
    (s.unsigned.take position).flatMap (·.canonical)

end SignatureTrust.Signature
