import SignatureTrust.Discovery.Ancestry
import SignatureTrust.Json
import SignatureTrust.Verdict

/-!
# `Discovery.Trust` — the verdict on a chain

A chain is valid if every certificate of it is resolved well and one of them is trusted. A
certificate that a genuine list or response calls valid is still undetermined while nobody vouches
for the signer of that evidence: **the evidence must itself be resolved**.
-/

set_option autoImplicit false

namespace SignatureTrust

def NoCheckReason.label : NoCheckReason → String
  | .selfSigned => "SelfSigned"
  | .trustedList => "TrustedList"

namespace Context

/-- Whether the evidence behind a resolution is itself without one, or unresolved. -/
def evidenceIsUnverified (c : Context) (r : Resolution) : Bool :=
  match r.evidence? with
  | some h => (c.resolutionAt? h).all (·.isUnresolved)
  | none => false

def statusVerdict (subject : String) (status : Option Status) : Verdict :=
  match status with
  | some s =>
      match s.validity with
      | .revoked =>
          let date := match s.revokedAt with
            | some t => t.toMessageText
            | none => ""
          .invalid .revoked (subject ++ " revoked " ++ date)
      | .unknown => .undetermined .statusUnknown (subject ++ ": status unknown")
      | .valid => .valid (subject ++ ": not revoked")
  | none => .valid (subject ++ ": not revoked")

def linkVerdict (c : Context) (certificate : Certificate) : Verdict :=
  let subject := "'" ++ certificate.subject.raw ++ "'"
  match c.resolutionOf? (.certificate certificate) with
  | none => .undetermined .unresolved (subject ++ " was not processed")
  | some (.noCheckNeeded reason) =>
      .valid (subject ++ ": no revocation check needed (" ++ reason.label ++ ")")
  | some (.unresolved _ .issuerNotFound) =>
      .undetermined .unresolved (subject ++ ": issuer not found")
  | some (.unresolved _ .noRevocationData) =>
      .undetermined .unresolved (subject ++ ": no revocation data")
  | some r =>
      if c.evidenceIsUnverified r then
        .undetermined .unresolved (subject ++ ": revocation evidence could not be verified")
      else statusVerdict subject r.status?

def chainVerdict (c : Context) : Verdict :=
  let chain := c.chain
  let links := chain.map fun e => c.linkVerdict e.certificate
  let anchor :=
    if chain.any (·.isTrusted) then []
    else [.undetermined .noTrustAnchor "chain does not reach a trusted-list certificate"]
  .combine "certificate chain" (links ++ anchor)

end Context

/-- The verdict on the chain of what was discovered, if anything was. -/
def chainVerdict (context : Option Context) : Verdict :=
  match context with
  | some c => c.chainVerdict
  | none => .undetermined .noValidationContext "signing certificate chain was not discovered"

/-! ## Qualification -/

/-- Whether a certificate says that it is qualified, and which trusted service stands behind it. -/
structure Qualification where
  qcCompliance : Bool := false
  qcDevice : Bool := false
  service : Option Service := none
deriving DecidableEq, Repr

namespace Qualification

def isQualified (q : Qualification) : Bool := q.qcCompliance && q.service.isSome

/-- The qualification of a signing certificate; the service is that of the first trusted certificate
above it. -/
def of (signer : Option Certificate) (context : Option Context) : Qualification :=
  match signer with
  | none => {}
  | some c => {
      qcCompliance := c.hasQcStatement Certificate.qcCompliance
      qcDevice := c.hasQcStatement Certificate.qcDevice
      service := (context.bind fun ctx => ctx.trustedParent? c).bind (·.service) }

def toJson (q : Qualification) : Json :=
  let service := match q.service with
    | some s =>
        ("trusted_service", Json.ofText s.name) ::
          if s.qualifiers.isEmpty then []
          else [("service_qualifiers", .ofList .ofText s.qualifiers)]
    | none => []
  .ofMembers ([("qc_compliance", .bool q.qcCompliance), ("qc_sscd", .bool q.qcDevice)] ++ service ++
    [("qualified", .bool q.isQualified)])

end Qualification
end SignatureTrust
