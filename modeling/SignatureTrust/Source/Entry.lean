import SignatureTrust.Evidence.Certificate
import SignatureTrust.Instant.Rfc3339
import SignatureTrust.Json

/-!
# `Source.Entry` — a certificate and where it comes from

Trust begins with a certificate from a trusted list and with nothing else, so where a certificate
was found stays with it. A trusted list may also say since when, and until when, the service behind
a certificate was supervised.
-/

set_option autoImplicit false

namespace SignatureTrust

inductive Provenance where
  | trustedList
  -- at an address that another certificate gives for its issuer
  | issuerAddress
  | embedded
  | other
deriving DecidableEq, Repr

structure Service where
  name : String
  start : Instant
  stop : Option Instant
  qualifiers : List String
deriving DecidableEq, Repr

structure Entry where
  certificate : Certificate
  provenance : Provenance
  service : Option Service
deriving DecidableEq, Repr

namespace Provenance

def tag : Provenance → String
  | .trustedList => "TrustedList"
  | .issuerAddress => "Aia"
  | .embedded => "Embedded"
  | .other => "Other"

end Provenance

namespace Service

def isActiveAt (s : Service) (t : Instant) : Bool := t.within s.start s.stop

def toJson (s : Service) : Json :=
  .ofMembers [("name", .ofText s.name), ("start", .ofText s.start.toReportText),
    ("end", .ofOption (fun t => .ofText t.toReportText) s.stop),
    ("qualifiers", .ofList .ofText s.qualifiers)]

end Service

namespace Entry

def plain (c : Certificate) (p : Provenance) : Entry := ⟨c, p, none⟩

def trusted (c : Certificate) (s : Service) : Entry := ⟨c, .trustedList, some s⟩

def isTrusted (e : Entry) : Bool := e.provenance = .trustedList

/-- Whether nothing speaks against the service at an instant: only a trusted list's own service
can. -/
def serviceActiveAt (e : Entry) (t : Instant) : Bool :=
  match e.provenance, e.service with
  | .trustedList, some s => s.isActiveAt t
  | _, _ => true

end Entry
end SignatureTrust
