import SignatureTrust.Discovery.Trust
import SignatureTrust.Proofs.Discovery.Agreement
import SignatureTrust.Proofs.Discovery.IssuerLinks
import SignatureTrust.Proofs.Source.Insertion

/-!
# `Proofs.Discovery.LookAhead` — discovery at a date is blind to what is not of that date

Sources in memory hold evidence of any age. A discovery at a date must come out as it did on that
day, so it may not depend on what was added later: lists and responses not yet published, and
certificates whose period does not cover the date. **None of it is ever picked**, and more is true:

> it does not even change what else is picked, wherever it stands (`discover_blind_to_outOfTime`).

Each test that keeps it out comes before a choice: the date of a list or response before the newest
is taken, the period of a certificate before the policy selects. The two runs ask alike and are
answered alike, which is all that `Agreement` asks for.
-/

set_option autoImplicit false

namespace SignatureTrust

/-- What sources in memory hold. -/
structure Holdings where
  trusted : List Entry
  external : List Entry
  crls : List Crl
  responses : List OcspResponse

namespace Holdings

def sources (v : Holdings) (crypto : Crypto) : Sources where
  crypto := crypto
  trustedList := some (CertificateStore.ofEntries .trustedList v.trusted).bySubject
  external := some (CertificateStore.ofEntries .other v.external).bySubject
  crl := some (.ofList v.crls)
  ocsp := some (.ofList v.responses)

/-- The certificate is not valid at the date, and none of these has its encoding. -/
structure OutOfTime (date : Instant) (known : List Entry) (e : Entry) : Prop where
  invalid : e.certificate.isValidAt date = false
  unknown : ∀ k ∈ known, e.certificate.sameEncoding k.certificate = false

/-- The same with more put in, anywhere, none of which is of the date. -/
structure Extends (date : Instant) (v w : Holdings) : Prop where
  trusted : Inserted (OutOfTime date v.trusted) v.trusted w.trusted
  external : Inserted (OutOfTime date v.external) v.external w.external
  crls : Inserted (fun crl => date < crl.thisUpdate) v.crls w.crls
  responses :
    Inserted (fun r => ∀ single ∈ r.responses, date < single.thisUpdate) v.responses w.responses

variable {v w : Holdings} {crypto : Crypto} {config : Config} {date : Instant} {t : Token}

/-! ## Issuers -/

theorem bySubject_inserted {p : Provenance} {xs ys : List Entry}
    (h : Inserted (OutOfTime date xs) xs ys) (name : Name) :
    Inserted (fun e => e.certificate.isValidAt date = false)
      ((CertificateStore.ofEntries p xs).bySubject name)
      ((CertificateStore.ofEntries p ys).bySubject name) := by
  have hstore := h.ofEntries (p := p) fun _ ha => ha.unknown
  exact (hstore.filter fun e => e.certificate.subject.same name).imp fun _ ha => ha.invalid

/-- Whatever came among the candidates is not valid, so the issuers are the same ones. -/
theorem issuers_extends (h : Extends date v w) :
    (w.sources crypto).issuers config date t = (v.sources crypto).issuers config date t := by
  unfold Sources.issuers
  cases t.signerName? with
  | none => rfl
  | some name =>
      have hcandidates : Inserted (fun e => e.certificate.isValidAt date = false)
          ((v.sources crypto).candidates t name) ((w.sources crypto).candidates t name) :=
        ((bySubject_inserted h.trusted name).append (.refl _)).append
          (bySubject_inserted h.external name)
      apply hcandidates.filter_eq
      intro e he
      simp [Sources.accepts, he]

/-! ## Status -/

theorem getAt_crl_extends (h : Extends date v w) (x issuer : Certificate) :
    (CrlSource.ofList w.crls).getAt x issuer date =
      (CrlSource.ofList v.crls).getAt x issuer date := by
  have hpublished : ∀ crl : Crl, date < crl.thisUpdate →
      (CrlSource.concerns issuer crl && decide (crl.thisUpdate ≤ date)) = false := by
    intro crl hl
    simp [Instant.not_le.2 hl]
  exact congrArg (EvidenceSource.newest? (·.thisUpdate)) (h.crls.filter_eq hpublished)

theorem getAt_ocsp_extends (h : Extends date v w) (x issuer : Certificate) :
    (OcspSource.ofList w.responses).getAt x issuer date =
      (OcspSource.ofList v.responses).getAt x issuer date := by
  have hanswered : ∀ r : OcspResponse, (∀ single ∈ r.responses, date < single.thisUpdate) →
      OcspSource.concerns x issuer (fun single =>
          decide (single.thisUpdate ≤ date)) r = false := by
    intro r hr
    cases hf : r.find? x.serial with
    | none => simp [OcspSource.concerns, hf]
    | some single =>
        have hlater : date < single.thisUpdate := hr single (List.mem_of_find?_eq_some hf)
        simp [OcspSource.concerns, hf, Instant.not_le.2 hlater]
  exact congrArg (EvidenceSource.newest? (·.producedAt)) (h.responses.filter_eq hanswered)

theorem check?_extends (h : Extends date v w) (x issuer : Certificate) :
    Status.check? crypto (w.sources crypto).ocsp (w.sources crypto).crl x issuer date =
      Status.check? crypto (v.sources crypto).ocsp (v.sources crypto).crl x issuer date := by
  simp only [sources, Status.check?, Option.bind_some, Status.byOcsp?, Status.byCrl?,
    getAt_ocsp_extends h, getAt_crl_extends h]

/-! ## Discovery -/

theorem agreeAbout_extends (h : Extends date v w) :
    Context.AgreeAbout (v.sources crypto) (w.sources crypto) config date t where
  issuer := congrArg config.issuerPolicy.select (issuers_extends h)
  status := fun _ _ => check?_extends h _ _

/-- **No look-ahead.** Discovery at a date makes the same context from sources that hold more, if
none of it is of that date. -/
theorem discover_blind_to_outOfTime (t : Token) (date : Instant) (crypto : Crypto) (config : Config)
    {v w : Holdings} (h : Extends date v w) :
    ∃ c, (Context.ofTarget t date).discover (v.sources crypto) config = .ok c ∧
      (Context.ofTarget t date).discover (w.sources crypto) config = .ok c := by
  obtain ⟨c, hc, hd⟩ := Context.exists_discovered t date (v.sources crypto) config
  refine ⟨c, hc, Context.discover_of_agreeOn ?_ hc⟩
  intro i s r _ _ _
  rw [hd.date]
  exact agreeAbout_extends h

end Holdings

namespace Specimen

open Holdings

def holdings : Holdings := ⟨[.plain root .trustedList], [], [list], []⟩

/-- The root's earlier certificate for the same key. -/
def formerRoot : Certificate := { root with encoding := [7], notAfter := ⟨3⟩ }

/-- What the root signed at 6: a list and a response, both of which say that the leaf is revoked. -/
def laterList : Crl :=
  { list with encoding := [8], thisUpdate := ⟨6⟩, revoked := [⟨leaf.serial, ⟨1⟩⟩] }

def laterResponse : OcspResponse where
  encoding := [9]
  responder := .name ⟨"CN=Root"⟩
  producedAt := ⟨6⟩
  responses := [⟨leaf.serial, .revoked ⟨1⟩, ⟨6⟩, none⟩]
  signed := signedWith 0
  certificates := []

def laterHoldings : Holdings :=
  ⟨[.plain formerRoot .trustedList, .plain root .trustedList], [.plain formerRoot .other],
    [list, laterList], [laterResponse]⟩

theorem extends_holdings : Extends ⟨5⟩ holdings laterHoldings where
  trusted := .put ⟨by decide, by decide⟩ (.keep _ .nil)
  external := .put ⟨by decide, by decide⟩ .nil
  crls := .keep _ (.put (by decide) .nil)
  responses := .put (by decide) .nil

/-- At 5 the leaf's chain is valid, whatever the root will say at 6. -/
theorem leaf_blind_to_later : Extends ⟨5⟩ holdings laterHoldings ∧
    ∃ c, (Context.ofTarget (.certificate leaf) ⟨5⟩).discover
      (holdings.sources crypto) {} = .ok c ∧
      (Context.ofTarget (.certificate leaf) ⟨5⟩).discover
        (laterHoldings.sources crypto) {} = .ok c ∧
      (chainVerdict (some c)).isValid = true := by
  obtain ⟨c, hc, hlater⟩ :=
    discover_blind_to_outOfTime (.certificate leaf) ⟨5⟩ crypto {} extends_holdings
  have hrun : ((Context.ofTarget (.certificate leaf) ⟨5⟩).discover (holdings.sources crypto)
      {}).toOption.any (fun c => (chainVerdict (some c)).isValid) = true := by decide +kernel
  rw [hc] at hrun
  exact ⟨extends_holdings, c, hc, hlater, hrun⟩

end Specimen
end SignatureTrust
