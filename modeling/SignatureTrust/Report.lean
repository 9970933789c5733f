import SignatureTrust.Discovery.Trust
import SignatureTrust.Json.Writer
import SignatureTrust.Level
import SignatureTrust.Structure.Report

/-!
# `Report` — the outcome of a validation

Everything that was found, for one signature and the counter-signatures in it. **The overall
indication is the worst of four**: integrity, chain, the resolution of the signing certificate, and
structure. The other levels describe how far the signature has been built up and do not make it
invalid, and neither do its counter-signatures.

Documents have a fixed order of members; a member without content is left out, except where `null`
says that there is nothing.
-/

set_option autoImplicit false

namespace SignatureTrust

def Validity.tag : Validity → String
  | .valid => "Valid"
  | .revoked => "Revoked"
  | .unknown => "Unknown"

private def timeJson (t : Instant) : Json := .ofText t.toReportText

/-! ## Summaries of evidence -/

structure CertificateSummary where
  certificate : Certificate
  provenance : Provenance
  service : Option String := none
  status : Option Validity := none
  noCheckNeeded : Bool := false

namespace CertificateSummary

def ofEntry (c : Context) (e : Entry) : CertificateSummary :=
  let resolution := c.resolutionOf? (.certificate e.certificate)
  { certificate := e.certificate
    provenance := e.provenance
    service := e.service.map (·.name)
    status := (resolution.bind (·.status?)).map (·.validity)
    noCheckNeeded := resolution.any (·.isNoCheckNeeded) }

def toJson (s : CertificateSummary) : Json :=
  let c := s.certificate
  .ofMembers ([("subject", .ofText c.subject.raw), ("issuer", .ofText c.issuer.raw),
      ("serial", .ofText c.serial.toHex), ("fingerprint", .ofText c.fingerprint),
      ("not_before", timeJson c.notBefore), ("not_after", timeJson c.notAfter),
      ("source", .ofText s.provenance.tag)] ++
    (s.service.map fun n => ("service", Json.ofText n)).toList ++
    (s.status.map fun v => ("status", Json.ofText v.tag)).toList ++
    [("no_check_needed", .bool s.noCheckNeeded)])

end CertificateSummary

def Crl.summaryJson (c : Crl) : Json :=
  .ofMembers ([("issuer", .ofText c.issuer.raw), ("this_update", timeJson c.thisUpdate)] ++
    (c.nextUpdate.map fun t => ("next_update", timeJson t)).toList ++
    [("revoked_count", .ofNat c.revoked.length)])

def OcspResponse.summaryJson (r : OcspResponse) : Json :=
  .ofMembers [("responder", .ofText r.responder.label), ("produced_at", timeJson r.producedAt),
    ("responses", .ofNat r.responses.length)]

/-- What the verdict on a signing certificate rests on. -/
structure EvidenceSummary where
  chain : List CertificateSummary := []
  certificates : List CertificateSummary := []
  crls : List Crl := []
  ocsps : List OcspResponse := []
  passes : Nat := 0

namespace EvidenceSummary

def ofContext (c : Context) : EvidenceSummary :=
  { chain := c.chain.map (CertificateSummary.ofEntry c)
    certificates := c.neededEntries.map (CertificateSummary.ofEntry c)
    crls := c.neededCrls
    ocsps := c.neededOcsps
    passes := c.passes }

def toJson (s : EvidenceSummary) : Json :=
  .ofMembers [("chain", .ofList CertificateSummary.toJson s.chain),
    ("certificates", .ofList CertificateSummary.toJson s.certificates),
    ("crls", .ofList Crl.summaryJson s.crls),
    ("ocsp_responses", .ofList OcspResponse.summaryJson s.ocsps),
    ("discovery_passes", .ofNat s.passes)]

end EvidenceSummary

/-! ## The report -/

structure Report where
  signatureId : Option String
  date : Instant
  signer : Option Certificate
  integrity : Verdict
  chain : Verdict
  levels : LevelVerdicts
  consistency : LevelConsistency
  structural : Structure.Report
  qualification : Qualification
  evidence : EvidenceSummary
  counterSignatures : List Report

namespace Report

def highestLevel? (r : Report) : Option Level := r.levels.highest?

def structureIndication (r : Report) : Indication :=
  if r.structural.isConsistent then .valid else .invalid

def indication (r : Report) : Indication :=
  ((r.integrity.indication.worst r.chain.indication).worst r.levels.bes.indication).worst
    r.structureIndication

def isValid (r : Report) : Bool := r.indication = .valid

mutual

def toJson : Report → Json
  | r@⟨id, date, signer, integrity, chain, levels, consistency, found, qualification, evidence,
      counters⟩ =>
      .ofMembers ([("signature_id", .ofOption .ofText id), ("validation_time", timeJson date),
          ("signing_certificate",
            .ofOption (fun c => CertificateSummary.toJson ⟨c, .embedded, none, none, false⟩)
              signer),
          ("integrity", integrity.toJson), ("chain", chain.toJson), ("levels", levels.toJson),
          ("highest_level", .ofOption (fun l => .ofText l.tag) r.highestLevel?),
          ("level_consistency", consistency.toJson), ("structure", found.toJson),
          ("qualification", qualification.toJson), ("evidence", evidence.toJson)] ++
        if counters.isEmpty then [] else [("counter_signatures", .array (documents counters))])

def documents : List Report → List Json
  | [] => []
  | r :: rs => r.toJson :: documents rs

end

def toText (r : Report) : String := r.toJson.pretty

end Report
end SignatureTrust
