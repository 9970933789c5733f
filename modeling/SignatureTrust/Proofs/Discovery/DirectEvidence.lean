import SignatureTrust.Proofs.Discovery.Collected
import SignatureTrust.Proofs.Discovery.FixedPoint
import SignatureTrust.Proofs.Discovery.LookAhead

/-!
# `Proofs.Discovery.DirectEvidence` — whether the signer of evidence is found twice

Who signed a list or a response is asked twice. For a status there is a candidate, the issuer of the
certificate, and the signature is tested with its key. When the evidence is resolved itself nobody
is at hand: a name is read off it, and whoever has that name is tried. Where the issuer signed the
evidence itself, the second search should come upon the issuer again.

> It does for every list, and for every response that **leads to the issuer's name**
> (`direct_evidence_checked_iff`).

A response that names its responder by the key leads there only through a certificate that comes
along, and an issuer has no reason to send its own. Without one the response is unresolved, and so
is the status that it gave (`Keyed`).
-/

set_option autoImplicit false

namespace SignatureTrust

namespace Sources

variable {sources : Sources} {config : Config} {date : Instant} {t : Token} {e : Entry}
  {x : Certificate}

/-- Certificates and revocation lists come from lists, which are asked by name. -/
structure ListBacked (sources : Sources) : Prop where
  trusted : ∀ source ∈ sources.trustedList, source.IsList
  external : ∀ source ∈ sources.external, source.IsList
  crl : ∀ source ∈ sources.crl, source.AnswersByName

theorem listBacked_holdings (v : Holdings) (crypto : Crypto) : (v.sources crypto).ListBacked where
  trusted _ h := Option.some.inj h ▸ CertificateSource.isList_bySubject _
  external _ h := Option.some.inj h ▸ CertificateSource.isList_bySubject _
  crl _ h := Option.some.inj h ▸ CrlSource.answersByName_ofList _

/-- The search found nobody for what stands under the key of evidence, though the issuer signed the
evidence. -/
inductive Unfindable (sources : Sources) (config : Config) (date : Instant) (issuer : Certificate) :
    RevocationEvidence → Token → Prop
  -- the responder is named by the key, and its certificate did not come along
  | nameless {r : OcspResponse} {digest : Octets} (byKey : r.responder = .keyDigest digest)
      (alone : r.responderCertificate? = none) : Unfindable _ _ _ _ (.ocsp r) (.ocsp r)
  -- the certificate that came along for the key has another name than the issuer, and nobody with
  -- that name will do
  | otherName {r : OcspResponse} {digest : Octets} {along : Certificate}
      (byKey : r.responder = .keyDigest digest) (came : r.responderCertificate? = some along)
      (another : issuer.subject.same along.subject = false)
      (nobody : sources.issuers config date (.ocsp r) = []) : Unfindable _ _ _ _ (.ocsp r) (.ocsp r)
  -- another response has the key
  | mistaken {r filed : OcspResponse} (another : filed ≠ r)
      (nobody : sources.issuers config date (.ocsp filed) = []) :
      Unfindable _ _ _ _ (.ocsp r) (.ocsp filed)

theorem Unfindable.issuers_eq_nil {issuer : Certificate}
    {evidence : RevocationEvidence} (h : Unfindable sources config date issuer evidence t) :
    sources.issuers config date t = [] := by
  cases h with
  | @nameless r digest byKey alone =>
      have hname : (Token.ocsp r).signerName? = none := by
        simp [Token.signerName?, OcspResponse.responderName?, byKey, alone]
      rw [issuers, hname]
  | otherName _ _ _ nobody | mistaken _ nobody => exact nobody

/-! ## Who is found for a certificate is found for what it signed -/

/-- A certificate brings no candidates, so a candidate for it is in a list. -/
theorem ListBacked.mem_candidates {name name' : Name}
    (hlists : sources.ListBacked) (he : e ∈ sources.candidates (.certificate x) name)
    (hsame : e.certificate.subject.same name' = true) :
    e ∈ sources.candidates t name' := by
  unfold candidates at he ⊢
  rcases List.mem_append.1 he with he | he
  · rcases List.mem_append.1 he with he | he
    · refine List.mem_append_left _ (List.mem_append_left _ ?_)
      cases hlist : sources.trustedList with
      | none => rw [hlist] at he; cases he
      | some source =>
          rw [hlist] at he
          exact (hlists.trusted source hlist).mem_of_same he hsame
    · cases he
  · refine List.mem_append_right _ ?_
    cases hlist : sources.external with
    | none => rw [hlist] at he; cases he
    | some source =>
        rw [hlist] at he
        exact (hlists.external source hlist).mem_of_same he hsame

/-- Who is found for a certificate is among the issuers of whatever it signed, where that asks for
its name. -/
theorem ListBacked.mem_issuers (hlists : sources.ListBacked)
    (search : sources.issuer? config date (.certificate x) = some e)
    (hasks : t.AsksFor e.certificate) (hsigned : t.isSignedBy sources.crypto e.certificate = true) :
    e ∈ sources.issuers config date t := by
  obtain ⟨name, hname, hsubject⟩ := hasks
  obtain ⟨_, -, hcandidate, haccepts⟩ := candidate_of_issuer? search
  obtain ⟨hvalid, hwindow, -⟩ := accepts_iff.1 haccepts
  rw [issuers, hname]
  exact List.mem_filter.2 ⟨hlists.mem_candidates hcandidate hsubject,
    accepts_iff.2 ⟨hvalid, hwindow, hsigned⟩⟩

/-- Of a response that the issuer signed, and for which nobody is found, the name does not lead to
the issuer. -/
theorem ListBacked.unfindable_of_response {r : OcspResponse} (hlists : sources.ListBacked)
    (search : sources.issuer? config date (.certificate x) = some e)
    (direct : (Token.ocsp r).isSignedBy sources.crypto e.certificate = true)
    (nobody : sources.issuers config date (.ocsp r) = []) :
    Unfindable sources config date e.certificate (.ocsp r) (.ocsp r) := by
  have hno : ¬ (Token.ocsp r).AsksFor e.certificate := fun hasks => by
    have hfound := hlists.mem_issuers search hasks direct
    rw [nobody] at hfound
    cases hfound
  rcases Token.asksFor_of_isSignedBy direct with
    hasks | ⟨r', digest, hr, byKey⟩ | ⟨_, hstamp⟩
  · exact absurd hasks hno
  · obtain rfl := Token.ocsp.inj hr
    cases hcame : r.responderCertificate? with
    | none => exact .nameless byKey hcame
    | some along =>
        refine .otherName byKey hcame (Bool.eq_false_iff.2 fun hsame =>
          hno ⟨along.subject, ?_, hsame⟩) nobody
        simp [Token.signerName?, OcspResponse.responderName?, byKey, hcame]
  · cases hstamp

end Sources

namespace Context

variable {sources : Sources} {config : Config} {t : Token} {date : Instant} {c : Context}
variable {h : Handle} {s : Slot} {evidence : RevocationEvidence} {issuer : Certificate}
  {r : Resolution}

/-- A status is recorded for a certificate, and the issuer that it names signed the evidence that it
rests on. -/
inductive RestsDirectly (c : Context) (crypto : Crypto) (issuer : Certificate)
    (evidence : RevocationEvidence) :
    Resolution → Prop
  | intro {h j : Handle} {i : Option Handle} {s : Slot}
      {status : Status} (there : c.slot? h = some s) (kind : s.token.certificate?.isSome = true)
      (recorded : s.resolution = some (.checked j (some status) i))
      (named : status.issuer = some issuer) (rests : status.evidence = some evidence)
      (direct : evidence.token.isSignedBy crypto issuer = true) :
      RestsDirectly _ _ _ _ (.checked j (some status) i)

/-! ## What is recorded for evidence -/

/-- Everything that is no certificate is checked or unresolved, and which of the two depends on the
search. -/
theorem Discovered.resolution_cases (hd : Discovered sources config t date c) (hall : c.Resolved)
    (hs : c.slot? h = some s) (hkind : s.token.certificate? = none) :
    (sources.issuers config date s.token = [] ∧
      s.resolution = some (.unresolved none .issuerNotFound)) ∨
      (sources.issuers config date s.token ≠ [] ∧
        ∃ k, s.resolution = some (.checked k none none)) := by
  obtain ⟨r, hr⟩ := Option.isSome_iff_exists.1 (hall s (List.mem_of_getElem? hs))
  have hwaits : onArrival s.token s.provenance = none := onArrival_eq_none fun ⟨x, hx, _⟩ => by
    rw [hx] at hkind
    cases hkind
  have hgrounded := (hd.settles hs).later hwaits hr
  generalize s.token = token at hgrounded hkind ⊢
  cases hgrounded with
  | noIssuer search =>
      rw [hd.date] at search
      exact .inl ⟨Sources.issuer?_eq_none_iff.1 search, hr⟩
  | noStatus _ _ _ | status _ _ _ _ _ => cases hkind
  | signer _ search _ =>
      rw [hd.date] at search
      exact .inr ⟨List.ne_nil_of_mem (Sources.mem_issuers_of_issuer? search), _, hr⟩

/-- A target beside which there is anything names something. -/
theorem Tidy.exists_names_of_ne (ht : c.Tidy) (hs : c.slot? h = some s) (hn : h ≠ target) :
    ∃ k, c.Names target k := by
  rcases Relation.ReflTransGen.cases_head (NamedBefore.linked ht.named hs) with he | ⟨k, hk, -⟩
  · exact absurd he.symm hn
  · exact ⟨k, hk⟩

/-- Where there is a certificate beside it, the target has a signer. -/
theorem Discovered.issuers_ne_nil_of_target (hd : Discovered sources config t date c)
    (ht : c.Tidy) (hall : c.Resolved) (hs : c.slot? target = some s)
    (hkind : s.token.certificate? = none) {i : Handle} {a : Slot} (ha : c.slot? i = some a)
    (hcertificate : a.token.certificate?.isSome = true) :
    sources.issuers config date s.token ≠ [] := by
  rcases hd.resolution_cases hall hs hkind with ⟨-, hr⟩ | ⟨hfound, -⟩
  · have hn : i ≠ target := by
      rintro rfl
      obtain rfl := Option.some.inj (ha.symm.trans hs)
      rw [hkind] at hcertificate
      cases hcertificate
    obtain ⟨k, r, hrec, hnames⟩ := ht.exists_names_of_ne ha hn
    obtain rfl : Resolution.unresolved none .issuerNotFound = r := by
      simpa [resolutionAt?, hs, hr] using hrec
    rcases hnames with hnames | hnames <;> cases hnames
  · exact hfound

/-! ## What stands under the key of evidence -/

/-- **Nobody is found for what stands under the key of evidence that the issuer signed, exactly
where it is unfindable.** -/
theorem Discovered.issuers_eq_nil_iff {x : Certificate} {e : Entry} {status : Status}
    (hd : Discovered sources config t date c) (htidy : c.Tidy) (hall : c.Resolved)
    (hlists : sources.ListBacked) (search : sources.issuer? config date (.certificate x) = some e)
    (answered : Status.Answered sources.crypto sources.ocsp sources.crl x e.certificate date status
      evidence)
    (direct : evidence.token.isSignedBy sources.crypto e.certificate = true)
    (hs : c.slot? h = some s) (hkey : s.token.key = evidence.token.key) {i : Handle} {a : Slot}
    (ha : c.slot? i = some a) (hcertificate : a.token.certificate?.isSome = true) :
    sources.issuers config date s.token = [] ↔
      Sources.Unfindable sources config date e.certificate evidence s.token := by
  refine ⟨fun nobody => ?_, Sources.Unfindable.issuers_eq_nil⟩
  have hn : h ≠ target := by
    rintro rfl
    exact hd.issuers_ne_nil_of_target htidy hall hs
      (Token.certificate?_of_evidence_key hkey) ha hcertificate nobody
  cases evidence with
  | crl l =>
      obtain ⟨l', ht, -⟩ := Token.eq_crl_of_key hkey
      obtain rfl := hd.eq_list_of_key hlists.crl hs hn hkey ht answered
      have hasks : (Token.crl l').AsksFor e.certificate :=
        ⟨l'.issuer, rfl, (Bool.and_eq_true_iff.1 direct).1⟩
      have hfound := hlists.mem_issuers search hasks direct
      rw [← ht, nobody] at hfound
      cases hfound
  | ocsp r =>
      obtain ⟨r', ht, -⟩ := Token.eq_ocsp_of_key hkey
      rw [ht] at nobody ⊢
      by_cases hsame : r' = r
      · subst hsame
        exact hlists.unfindable_of_response search direct nobody
      · exact .mistaken hsame nobody

/-- **Evidence that the issuer signed is checked itself, exactly where its signer can be found**,
and the status that rests on it is discarded exactly where not. A list is always found; a response
is, if it leads to the issuer's name. -/
theorem direct_evidence_checked_iff (t : Token) (date : Instant) (config : Config)
    (hlists : sources.ListBacked) :
    ∃ c, (ofTarget t date).discover sources config = .ok c ∧ (c.Resolved →
      ∀ {issuer : Certificate} {evidence : RevocationEvidence} {r : Resolution},
        c.RestsDirectly sources.crypto issuer evidence r →
          ∃ h s, r.evidence? = some h ∧ c.slot? h = some s ∧
            s.token.key = evidence.token.key ∧
            ((∃ k, s.resolution = some (.checked k none none)) ↔
              ¬ Sources.Unfindable sources config date issuer evidence s.token) ∧
            (s.resolution = some (.unresolved none .issuerNotFound) ↔
              Sources.Unfindable sources config date issuer evidence s.token) ∧
            (c.evidenceIsUnverified r = true ↔
              Sources.Unfindable sources config date issuer evidence s.token)) := by
  obtain ⟨c, hc, hd⟩ := exists_discovered t date sources config
  have htidy : c.Tidy := tidy_of_discover hc
  refine ⟨c, hc, ?_⟩
  intro hall issuer evidence r hrests
  cases hrests with
  | @intro i j k a status there kind recorded named rests direct =>
      obtain ⟨x, e, h, search, hissuer, rfl, filed, answered⟩ :=
        (hd.grounded_of_link ⟨⟨_, there⟩, recorded, rfl⟩).filed_of_status rests
      obtain rfl := Option.some.inj (named.symm.trans hissuer)
      rw [hd.date] at search answered
      obtain ⟨s, hs, hkey⟩ := hd.filed.slot_of_handleOf? filed
      refine ⟨h, s, rfl, hs, hkey, ?_⟩
      rw [← hd.issuers_eq_nil_iff htidy hall hlists search answered direct hs hkey there kind]
      rcases hd.resolution_cases hall hs (Token.certificate?_of_evidence_key hkey) with
        ⟨nobody, hr⟩ | ⟨found, k, hr⟩
      · simp [nobody, hr, evidenceIsUnverified, Resolution.evidence?, resolutionAt?, hs,
          Resolution.isUnresolved]
      · simp [found, hr, evidenceIsUnverified, Resolution.evidence?, resolutionAt?, hs,
          Resolution.isUnresolved]

/-- The issuer that the status at a handle names, and what it rests on. -/
def statusAt? (c : Context) (h : Handle) : Option (Option Certificate × Option Token) :=
  (c.resolutionAt? h).bind fun r => r.status?.map fun s => (s.issuer, s.evidence.map (·.token))

theorem Discovered.restsDirectly_of_statusAt? (hd : Discovered sources config t date c)
    (hstatus : c.statusAt? h = some (some issuer, some evidence.token))
    (direct : evidence.token.isSignedBy sources.crypto issuer = true) :
    ∃ r, c.resolutionAt? h = some r ∧ c.RestsDirectly sources.crypto issuer evidence r := by
  obtain ⟨r, hr, hstatus⟩ := Option.bind_eq_some_iff.1 hstatus
  obtain ⟨status, hst, hpair⟩ := Option.map_eq_some_iff.1 hstatus
  obtain ⟨named, hevidence⟩ := Prod.mk.inj hpair
  obtain ⟨used, rests, htoken⟩ := Option.map_eq_some_iff.1 hevidence
  obtain rfl := RevocationEvidence.eq_of_token htoken
  obtain ⟨s, j, i, rfl, hs, hkind, hrec⟩ := hd.slot_of_status? hr hst
  exact ⟨_, hr, .intro hs hkind hrec named rests direct⟩

end Context

namespace Specimen

open Context

/-- The root signed the list behind the leaf's status, and is found for the list again. -/
theorem leaf_list_checked : (holdings.sources crypto).ListBacked ∧
    ∃ c, (ofTarget (.certificate leaf) ⟨5⟩).discover (holdings.sources crypto) {} = .ok c ∧
      ∃ r, c.RestsDirectly crypto root (.crl list) r ∧ c.evidenceIsUnverified r = false := by
  have hlists : (holdings.sources crypto).ListBacked := Sources.listBacked_holdings holdings crypto
  obtain ⟨c, hc, hchecked⟩ := direct_evidence_checked_iff (.certificate leaf) ⟨5⟩ {} hlists
  have hrun : ((ofTarget (.certificate leaf) ⟨5⟩).discover
      (holdings.sources crypto) {}).toOption.any (fun c =>
      c.slots.all (·.resolution.isSome) &&
        decide (c.statusAt? target = some (some root, some (.crl list)))) = true := by
          decide +kernel
  obtain ⟨c', hc', hd, htest⟩ := exists_discovered_of_any hrun
  obtain rfl := Except.ok.inj (hc.symm.trans hc')
  obtain ⟨hall, hused⟩ := Bool.and_eq_true_iff.1 htest
  have hstatus : c.statusAt? target = some (some root, some (RevocationEvidence.crl list).token) :=
    of_decide_eq_true hused
  obtain ⟨r, -, hrests⟩ := hd.restsDirectly_of_statusAt? hstatus (by decide +kernel)
  obtain ⟨_, _, -, -, -, -, -, hverified⟩ := hchecked (List.all_eq_true.1 hall) hrests
  refine ⟨hlists, c, hc, r, hrests, Bool.eq_false_iff.2 fun h => ?_⟩
  cases hverified.1 h

end Specimen

namespace Keyed

open Context Specimen

/-- A key with an encoding that can be read, as its digest is taken of what is read. -/
def key : Octets := [0x30, 0x0B, 0x30, 0x05, 0x06, 0x03, 0x2A, 0x03, 0x04, 0x03, 0x02, 0x00, 0x05]

def signedByRoot : SignedContent := ⟨[], .other "", key⟩

def root : Certificate := { Specimen.root with publicKey := key, signed := signedByRoot }

def leaf : Certificate := { Specimen.leaf with signed := signedByRoot }

/-- The root says that the leaf is good. It names itself by its key, and sends no certificate. -/
def response : OcspResponse where
  encoding := [2]
  responder := .keyDigest (root.keyDigest?.getD [])
  producedAt := ⟨0⟩
  responses := [⟨leaf.serial, .good, ⟨0⟩, none⟩]
  signed := signedByRoot
  certificates := []

def holdings : Holdings := ⟨[.plain root .trustedList], [], [], [response]⟩

/-- The response gives the leaf its status, and is unresolved: nobody's name is on it. -/
theorem response_unresolved :
    ∃ c, (ofTarget (.certificate leaf) ⟨5⟩).discover (holdings.sources crypto) {} = .ok c ∧
      c.Resolved ∧
      (∃ r, c.RestsDirectly crypto root (.ocsp response) r ∧
        c.evidenceIsUnverified r = true) ∧
      (∃ r, c.resolutionOf? (.ocsp response) = some r ∧ r.isUnresolved = true) ∧
      (SignatureTrust.chainVerdict (some c)).isValid = false := by
  have hrun : ((ofTarget (.certificate leaf) ⟨5⟩).discover
      (holdings.sources crypto) {}).toOption.any (fun c =>
      c.slots.all (·.resolution.isSome) &&
        (decide (c.statusAt? target = some (some root, some (.ocsp response))) &&
          ((c.resolutionAt? target).any c.evidenceIsUnverified &&
            ((c.resolutionOf? (.ocsp response)).any (·.isUnresolved) &&
              !(SignatureTrust.chainVerdict (some c)).isValid)))) = true := by decide +kernel
  obtain ⟨c, hc, hd, htest⟩ := exists_discovered_of_any hrun
  simp only [Bool.and_eq_true, Bool.not_eq_true', decide_eq_true_eq, Option.any_eq_true] at htest
  obtain ⟨hall, hused, ⟨r', hr', hunverified⟩, hunresolved, hinvalid⟩ := htest
  have hstatus : c.statusAt? target =
      some (some root, some (RevocationEvidence.ocsp response).token) := hused
  obtain ⟨r, hr, hrests⟩ := hd.restsDirectly_of_statusAt? hstatus (by decide +kernel)
  obtain rfl := Option.some.inj (hr.symm.trans hr')
  exact ⟨c, hc, List.all_eq_true.1 hall, ⟨r, hrests, hunverified⟩, hunresolved, hinvalid⟩

end Keyed
end SignatureTrust
