import SignatureTrust.Signature

/-!
# `Signature.Identifiers` — the identifiers within a signature

References between elements go by identifier, so whoever repeats one can redirect a reference. The
list is in document order. Of a counter-signature it has the identifier of the element alone: what
is inside belongs to that signature's list.
-/

set_option autoImplicit false

namespace SignatureTrust.Signature

/-- The identifiers of the signed properties and the timestamps in them. -/
def signedPropertyIds (p : SignedProperties) : List String :=
  p.id.toList ++ (p.allDataTimestamps ++ p.individualDataTimestamps).filterMap (·.id)

def elementIds (s : Signature) : List String :=
  s.id.toList ++ s.signedInfo.id.toList ++ s.references.filterMap (·.id) ++ s.value.id.toList ++
    (s.keyInfo.bind (·.id)).toList ++
    (match s.signedProperties with
      | some p => signedPropertyIds p
      | none => []) ++
    s.unsignedId.toList ++ s.unsigned.filterMap (·.id)

end SignatureTrust.Signature
