import Mathlib.Tactic.ByContra
import SignatureTrust.Proofs.Discovery.Collected
import SignatureTrust.Proofs.Discovery.TrustPath
import SignatureTrust.Proofs.Status.Forgery

/-!
# `Proofs.Discovery.StatusWithin` — a status computed again from what was collected

The status on record was given by sources that know more than the context does. From the collected
evidence alone it can be computed again, and one would like it to come out the same. For sources in
memory that seems plain: what is collected is some of what they have, in another order perhaps, and
the evidence that the status rests on is some of it.

For lists it is so. All the lists that are collected under an issuer's name are one list, as a
source in memory chooses by that name alone. A response is chosen for a certificate, so one that was
collected for **another certificate** was never compared with the evidence of this one, and it may
have an answer about it:

> The status comes out as recorded, unless a response that was collected for another certificate is
> the newest of those collected; then the status is what that response says
> (`statusWithin?_eq_recorded_or_intruded`).

Beside a response on record such an intruder is exactly as old, and only the order of collection
lets it in. Beside a list on record, the source's own choice was a response at least as new, which
gave no answer or *unknown*.

Two more things have to be excepted. The target is not part of its own evidence; and where the
handle on record leads to another certificate than the issuer that was found, that other one is
asked about. `Recomputed` has runs for all of these.
-/

set_option autoImplicit false

namespace SignatureTrust

open EvidenceSource

/-- Whether a certificate is revoked, and since when. -/
def Status.outcome (s : Status) : Validity × Option Instant := (s.validity, s.revokedAt)

namespace Sources

/-- The same sources of certificates, with revocation evidence in memory. -/
def withLists (sources : Sources) (crls : List Crl) (responses : List OcspResponse) : Sources :=
  { sources with crl := some (.ofList crls), ocsp := some (.ofList responses) }

/-- Among the responses that can come up, the digest determines a response. -/
def DigestsTell (sources : Sources) (t : Token) (date : Instant) : Prop :=
  ∀ {r r' : OcspResponse}, sources.ComesUp t date (.ocsp r) →
    sources.ComesUp t date (.ocsp r') →
    DigestAlgorithm.sha256.digest r.encoding = DigestAlgorithm.sha256.digest r'.encoding → r = r'

end Sources

namespace Context

variable {sources : Sources} {config : Config} {t : Token} {date : Instant} {c : Context}
  {crypto : Crypto}
variable {crls : List Crl} {responses : List OcspResponse} {l : Crl} {r : OcspResponse}
variable {h : Handle} {x issuer : Certificate} {s : Status} {evidence : RevocationEvidence}

/-- A certificate is checked, and the handles on record lead to the issuer and the evidence that its
status names. The evidence is not the target. -/
inductive Standing (c : Context) (h : Handle) (x issuer : Certificate) (s : Status)
    (evidence : RevocationEvidence) : Prop
  | intro {j i : Handle} (there : c.token? h = some (.certificate x))
      (recorded : c.resolutionAt? h = some (.checked j (some s) (some i)))
      (named : s.issuer = some issuer) (issuerThere : c.token? j = some (.certificate issuer))
      (rests : s.evidence = some evidence) (evidenceThere : c.token? i = some evidence.token)
      (apart : i ≠ target) :
      Standing c h x issuer s evidence

/-- Of the collected responses the newest is not the one that the status rests on, if it rests on
one. -/
structure Intrudes (c : Context) (x issuer : Certificate) (evidence : RevocationEvidence)
    (r : OcspResponse) : Prop where
  newest : Status.IsNewest c.neededOcsps c.neededCrls x issuer c.date (.ocsp r)
  other : evidence ≠ .ocsp r

/-- A response is on record as the evidence for a certificate at another handle. -/
def ServesOther (c : Context) (h : Handle) (r : OcspResponse) : Prop :=
  ∃ i k y, i ≠ h ∧ c.token? i = some (.certificate y) ∧
    (c.resolutionAt? i).bind (·.evidence?) = some k ∧
    c.token? k = some (.ocsp r)

/-- For every certificate that is checked the status comes out as recorded. -/
def StatusesAgree (c : Context) (crypto : Crypto) : Prop :=
  ∀ {h j : Handle} {i? : Option Handle} {s? : Option Status} {x : Certificate},
    c.token? h = some (.certificate x) →
    c.resolutionAt? h = some (.checked j s? i?) →
      ∃ s s', s? = some s ∧ c.statusWithin? crypto x = some s' ∧ s'.outcome = s.outcome

/-! ## What is collected -/

/-- A collected piece of evidence was given by a source. -/
theorem Discovered.answered_of_needed (hd : Discovered sources config t date c)
    (hneeded : evidence.token ∈ c.neededTokens) :
    ∃ y z status,
      Status.Answered sources.crypto sources.ocsp sources.crl y z date status evidence := by
  obtain ⟨k, a, hk, ha, htoken⟩ :=
    exists_slot?_of_mem_drop (hd.gathered.mem_after_first hneeded)
  have hkind : a.token.certificate? = none :=
    Token.certificate?_of_evidence_key (congrArg Token.key htoken)
  obtain ⟨used, y, z, status, token, answered⟩ := hd.answered_of_slot ha hk hkind
  obtain rfl := RevocationEvidence.eq_of_token (token.symm.trans htoken)
  exact ⟨y, z, status, answered⟩

theorem mem_neededCrls_iff :
    (RevocationEvidence.crl l).token ∈ c.neededTokens ↔ l ∈ c.neededCrls := by
  simp [neededTokens, RevocationEvidence.token]

theorem mem_neededOcsps_iff :
    (RevocationEvidence.ocsp r).token ∈ c.neededTokens ↔ r ∈ c.neededOcsps := by
  simp [neededTokens, RevocationEvidence.token]

theorem Discovered.mem_of_mem_neededOcsps
    (hd : Discovered (sources.withLists crls responses) config t date c)
    (hr : r ∈ c.neededOcsps) : r ∈ responses := by
  obtain ⟨_, _, _, answered⟩ := hd.answered_of_needed (mem_neededOcsps_iff.2 hr)
  cases answered with
  | byResponse asked given _ =>
      obtain rfl := Option.some.inj asked
      exact OcspSource.mem_of_getAt_ofList given

/-- Of the collected lists an issuer's is the one that the source has for that issuer. -/
theorem Discovered.getAt_crls_of_needed
    (hd : Discovered (sources.withLists crls responses) config t date c)
    (hgiven : (CrlSource.ofList c.neededCrls).getAt x issuer date = some l) :
    (CrlSource.ofList crls).getAt x issuer date = some l := by
  obtain ⟨hmem, htest⟩ := List.mem_filter.1 (mem_of_newest? hgiven)
  have hissuer : l.issuer.same issuer.subject = true := (Bool.and_eq_true_iff.1 htest).1
  obtain ⟨y, z, _, answered⟩ := hd.answered_of_needed (mem_neededCrls_iff.2 hmem)
  cases answered with
  | byList asked given status =>
      obtain rfl := Option.some.inj asked
      -- the issuer that the list was collected for has the name of this one
      have hother : z.subject.same issuer.subject = true := by
        apply Name.same_trans (b := l.issuer) _ hissuer
        rw [Name.same_comm]
        exact Status.concerns_of_ofCrl? status
      have hsame : (CrlSource.ofList crls).getAt y z date =
          (CrlSource.ofList crls).getAt x issuer date :=
        CrlSource.answersByName_ofList crls hother
      rw [← hsame]
      exact given

theorem Discovered.getAt_neededCrls
    (hd : Discovered (sources.withLists crls responses) config t date c) (x issuer : Certificate) :
    (CrlSource.ofList c.neededCrls).getAt x issuer date =
      (CrlSource.ofList crls).getAt x issuer date ∨
      (CrlSource.ofList c.neededCrls).getAt x issuer date = none := by
  cases hgiven : (CrlSource.ofList c.neededCrls).getAt x issuer date with
  | none => exact .inr rfl
  | some l => exact .inl (hd.getAt_crls_of_needed hgiven).symm

/-! ## The two ways to the status -/

theorem Standing.needed (hs : c.Standing h x issuer s evidence) (hg : c.Gathered) :
    evidence.token ∈ c.neededTokens := by
  obtain ⟨-, -, -, -, -, evidenceThere, apart⟩ := hs
  obtain ⟨a, ha, htoken⟩ := Option.map_eq_some_iff.1 evidenceThere
  cases evidence with
  | crl l => exact mem_neededCrls_iff.2 (hg.mem_crls ha apart htoken)
  | ocsp r => exact mem_neededOcsps_iff.2 (hg.mem_ocsps ha apart htoken)

/-- What is recorded as checked has its grounds. -/
theorem Discovered.slot_of_checked {u : Token} {j : Handle} {i? : Option Handle}
    {s? : Option Status} (hd : Discovered sources config t date c) (there : c.token? h = some u)
    (recorded : c.resolutionAt? h = some (.checked j s? i?)) :
    ∃ a, c.slot? h = some a ∧ a.token = u ∧
      Grounded sources config c u (.checked j s? i?) := by
  obtain ⟨a, ha, rfl⟩ := Option.map_eq_some_iff.1 there
  have hrec : a.resolution = some (.checked j s? i?) := by simpa [resolutionAt?, ha] using recorded
  exact ⟨a, ha, rfl, hd.grounded_of_link ⟨⟨h, ha⟩, hrec, rfl⟩⟩

/-- The recorded status is what the sources answer. -/
theorem Discovered.checkWithin?_of_standing
    (hd : Discovered (sources.withLists crls responses) config t date c)
    (hs : c.Standing h x issuer s evidence) :
    Status.checkWithin? sources.crypto responses crls x issuer date = some s ∧
      s.evidence = some evidence := by
  obtain ⟨there, recorded, named, -, rests, -, -⟩ := hs
  obtain ⟨_, -, -, hgrounded⟩ := hd.slot_of_checked there recorded
  cases hgrounded with
  | status _ _ answer _ _ =>
      rw [hd.date] at answer
      obtain rfl := Option.some.inj ((Status.isAbout_of_check? answer).issuer.symm.trans named)
      exact ⟨answer, rests⟩

/-- A certificate that is checked is not trusted, and its issuer within the context is the one at
the handle on record. -/
theorem Discovered.statusWithin?_of_checked {j : Handle} {i? : Option Handle} {s? : Option Status}
    (hd : Discovered sources config t date c) (there : c.token? h = some (.certificate x))
    (recorded : c.resolutionAt? h = some (.checked j s? i?))
    (issuerThere : c.token? j = some (.certificate issuer)) :
    c.statusWithin? crypto x =
      Status.checkWithin? crypto c.neededOcsps c.neededCrls x issuer date := by
  obtain ⟨a, ha, htoken⟩ := Option.map_eq_some_iff.1 there
  obtain ⟨b, hb, htoken'⟩ := Option.map_eq_some_iff.1 issuerThere
  have he := entryAt?_of_slot ha htoken
  have huntrusted : Entry.isTrusted ⟨x, a.provenance, a.service⟩ = false := by
    apply Bool.eq_false_iff.2
    intro htrusted
    obtain ⟨_, hexempt⟩ := hd.exempt_of_trusted he htrusted
    rw [recorded] at hexempt
    cases hexempt
  have hhandle := hd.filed.handleOf?_of_entryAt? he
  have hissuer : c.issuerWithin? x = some ⟨issuer, b.provenance, b.service⟩ := by
    have hresolution : c.resolutionOf? (.certificate x) = some (.checked j s? i?) :=
      (hd.filed.resolutionOf?_of_entryAt? he).trans recorded
    simp [issuerWithin?, hresolution, Resolution.issuer?, entryAt?_of_slot hb htoken']
  simp [statusWithin?, certificateHandle?, hhandle, he, huntrusted, hissuer, hd.date,
    Status.checkWithin?]

theorem Discovered.statusWithin?_of_standing (hd : Discovered sources config t date c)
    (hs : c.Standing h x issuer s evidence) :
    c.statusWithin? crypto x =
      Status.checkWithin? crypto c.neededOcsps c.neededCrls x issuer date := by
  obtain ⟨there, recorded, -, issuerThere, -, -, -⟩ := hs
  exact hd.statusWithin?_of_checked there recorded issuerThere

/-! ## Where nothing intrudes -/

/-- If nothing intrudes, the newest of the collected responses is the newest of all of them. -/
theorem Discovered.getAt_neededOcsps
    (hd : Discovered (sources.withLists crls responses) config t date c)
    (hs : c.Standing h x issuer s evidence) (hnone : ∀ r, ¬ c.Intrudes x issuer evidence r) :
    (OcspSource.ofList c.neededOcsps).getAt x issuer date =
      (OcspSource.ofList responses).getAt x issuer date ∨
      (OcspSource.ofList c.neededOcsps).getAt x issuer date = none := by
  cases hgiven : (OcspSource.ofList c.neededOcsps).getAt x issuer date with
  | none => exact .inr rfl
  | some r =>
      left
      obtain ⟨hcheck, rests⟩ := hd.checkWithin?_of_standing hs
      have hrests : evidence = .ocsp r := by
        by_contra hother
        exact hnone r ⟨by rw [hd.date]; exact Status.isNewest_ocsp_iff.2 hgiven, hother⟩
      have hnewest := Status.isNewest_of_checkWithin? hcheck rests
      rw [hrests] at hnewest
      exact (Status.isNewest_ocsp_iff.1 hnewest).symm

theorem Discovered.statusWithin?_eq_recorded
    (hd : Discovered (sources.withLists crls responses) config t date c)
    (hs : c.Standing h x issuer s evidence) (hnone : ∀ r, ¬ c.Intrudes x issuer evidence r) :
    c.statusWithin? sources.crypto x = some s := by
  obtain ⟨hcheck, rests⟩ := hd.checkWithin?_of_standing hs
  have hocsp := hd.getAt_neededOcsps hs hnone
  have hcrl := hd.getAt_neededCrls x issuer
  have hneeded := hs.needed hd.gathered
  rw [hd.statusWithin?_of_standing hs, ← hcheck]
  rw [Status.checkWithin?_eq_orElse] at hcheck
  simp only [Status.checkWithin?_eq_orElse]
  -- the evidence behind the status is collected, so the source of its kind has an answer
  apply Status.orElse_congr
  · exact hocsp.imp (fun h => by rw [h]) (fun h => by rw [h, Option.bind_none])
  · exact hcrl.imp (fun h => by rw [h]) (fun h => by rw [h, Option.bind_none])
  · intro s' hs' hfirst
    obtain rfl := Option.some.inj (hs'.symm.trans hcheck)
    obtain ⟨r, -, hr⟩ := Option.bind_eq_some_iff.1 hfirst
    obtain rfl := Option.some.inj (rests.symm.trans (Status.isAbout_of_ofResponse? hr).2)
    rw [hocsp.resolve_right
      (Status.getAt_ne_none_of_ofResponse? (mem_neededOcsps_iff.1 hneeded) hr)]
  · intro s' hs' hfallback
    obtain rfl := Option.some.inj (hs'.symm.trans hcheck)
    obtain ⟨l, -, hl⟩ := Option.bind_eq_some_iff.1 hfallback
    obtain rfl := Option.some.inj (rests.symm.trans (Status.isAbout_of_ofCrl? hl).2)
    rw [hcrl.resolve_right (Status.getAt_ne_none_of_ofCrl? (mem_neededCrls_iff.1 hneeded) hl)]

/-! ## Where a response intrudes -/

theorem Intrudes.getAt (hi : c.Intrudes x issuer evidence r) :
    (OcspSource.ofList c.neededOcsps).getAt x issuer c.date = some r :=
  Status.isNewest_ocsp_iff.1 hi.newest

theorem Intrudes.mem (hi : c.Intrudes x issuer evidence r) : r ∈ c.neededOcsps :=
  OcspSource.mem_of_getAt_ofList hi.getAt

/-- The intruder is asked, and then the collected lists. -/
theorem Discovered.statusWithin?_of_intrudes (hd : Discovered sources config t date c)
    (hs : c.Standing h x issuer s evidence) (hi : c.Intrudes x issuer evidence r) :
    c.statusWithin? crypto x = Status.orElse (Status.ofResponse? crypto x issuer date r)
      (Status.byCrl? crypto (.ofList c.neededCrls) x issuer date) := by
  have hgiven := hi.getAt
  rw [hd.date] at hgiven
  rw [hd.statusWithin?_of_standing hs, Status.checkWithin?_eq_orElse, hgiven]
  rfl

/-- Each of the two was there when the other was chosen. -/
theorem Discovered.producedAt_of_intrudes {r₀ : OcspResponse}
    (hd : Discovered (sources.withLists crls responses) config t date c)
    (hs : c.Standing h x issuer s (.ocsp r₀)) (hi : c.Intrudes x issuer (.ocsp r₀) r) :
    r.producedAt = r₀.producedAt := by
  obtain ⟨hcheck, rests⟩ := hd.checkWithin?_of_standing hs
  have hgiven := hi.getAt
  have hgiven₀ := Status.isNewest_ocsp_iff.1 (Status.isNewest_of_checkWithin? hcheck rests)
  rw [hd.date] at hgiven
  obtain ⟨hr, hconcerns⟩ := List.mem_filter.1 (mem_of_newest? hgiven)
  obtain ⟨-, hconcerns₀⟩ := List.mem_filter.1 (mem_of_newest? hgiven₀)
  apply Instant.le_antisymm
  · exact (newest?_eq_some_iff.1 hgiven₀).le_of_mem
      (List.mem_filter.2 ⟨hd.mem_of_mem_neededOcsps hr, hconcerns⟩)
  · have hr₀ : r₀ ∈ c.neededOcsps := mem_neededOcsps_iff.1 (hs.needed hd.gathered)
    exact (newest?_eq_some_iff.1 hgiven).le_of_mem (List.mem_filter.2 ⟨hr₀, hconcerns₀⟩)

/-- Whoever names a response names it as evidence, and is a certificate. -/
theorem Discovered.certificate_of_names {i k : Handle} (hd : Discovered sources config t date c)
    (ho : c.Orderly) (hn : c.Names i k) (htoken : c.token? k = some (.ocsp r)) :
    (∃ y, c.token? i = some (.certificate y)) ∧
      (c.resolutionAt? i).bind (·.evidence?) = some k := by
  obtain ⟨res, hres, hnames⟩ := hn
  obtain ⟨a, ha, hrec⟩ := Option.bind_eq_some_iff.1 hres
  have hevidence : res.evidence? = some k := by
    apply hnames.resolve_left
    intro hissuer
    -- at the handle of an issuer is a certificate
    obtain ⟨y, hy⟩ := (ho.resolved ha).issuer hrec hissuer
    rw [htoken] at hy
    cases hy
  refine ⟨?_, by rw [hres, Option.bind_some, hevidence]⟩
  cases res with
  | noCheckNeeded _ | unresolved _ _ => cases hevidence
  | checked j s? k? =>
      have there : c.token? i = some a.token := by rw [token?, ha, Option.map_some]
      obtain ⟨_, -, -, hgrounded⟩ := hd.slot_of_checked there hres
      rw [there]
      generalize a.token = u at hgrounded
      cases hgrounded with
      | status _ _ _ _ _ => exact ⟨_, rfl⟩
      | signer _ _ _ => cases hevidence

theorem Discovered.servesOther_of_intrudes (hd : Discovered sources config t date c)
    (ht : c.Tidy) (hs : c.Standing h x issuer s evidence) (hi : c.Intrudes x issuer evidence r) :
    c.ServesOther h r := by
  obtain ⟨k, a, hk, ha, htoken⟩ :=
    exists_slot?_of_mem_drop (hd.gathered.mem_after_first (mem_neededOcsps_iff.2 hi.mem))
  have htoken' : c.token? k = some (.ocsp r) := by rw [token?, ha, Option.map_some, htoken]; rfl
  obtain ⟨i, -, hnames⟩ := ht.named ha hk
  obtain ⟨⟨y, hy⟩, hevidence⟩ := hd.certificate_of_names ht.orderly hnames htoken'
  refine ⟨i, k, y, ?_, hy, hevidence, htoken'⟩
  rintro rfl
  obtain ⟨-, recorded, -, -, -, evidenceThere, -⟩ := hs
  obtain rfl : _ = k := by simpa [recorded, Resolution.evidence?] using hevidence
  rw [htoken'] at evidenceThere
  exact hi.other (RevocationEvidence.eq_of_token (Option.some.inj evidenceThere).symm)

/-! ## Which certificates stand -/

/-- Where keys tell tokens apart, whatever is checked stands, unless its status rests on the
target. -/
theorem Discovered.standing_of_distinct {j : Handle} {i? : Option Handle} {s? : Option Status}
    (hd : Discovered (sources.withLists crls responses) config t date c)
    (hdist : (sources.withLists crls responses).Distinct t)
    (hdigest : (sources.withLists crls responses).DigestsTell t date)
    (there : c.token? h = some (.certificate x))
    (recorded : c.resolutionAt? h = some (.checked j s? i?)) :
    (i? = some target ∧ ∃ a : RevocationEvidence, t = a.token) ∨
      ∃ s issuer evidence, s? = some s ∧ c.Standing h x issuer s evidence := by
  obtain ⟨a, ha, htoken, hgrounded⟩ := hd.slot_of_checked there recorded
  cases hgrounded with
  | signer kind _ _ => cases kind
  | @status _ e _ i s evidence search filed answer rests evidenceFiled =>
      obtain ⟨b, hb, hissuer⟩ :=
        hd.filed_itself hdist filed (hd.knows_found ha (htoken ▸ search))
      obtain ⟨k, hk, hkey⟩ := hd.filed.slot_of_handleOf? evidenceFiled
      by_cases hn : i = target
      · -- the target has the key of evidence, and so is evidence
        subst hn
        obtain ⟨ht, -, -⟩ := hd.eq_target hk
        exact .inl ⟨rfl, RevocationEvidence.exists_of_key (ht ▸ hkey)⟩
      · right
        rw [hd.date] at answer
        obtain ⟨used, hused, answered⟩ := Status.answered_of_check? answer
        obtain rfl := Option.some.inj (hused.symm.trans rests)
        have hfiled : k.token = used.token := by
          cases used with
          | crl l =>
              obtain ⟨l', hl', -⟩ := Token.eq_crl_of_key hkey
              have hname : ∀ source ∈ (sources.withLists crls responses).crl,
                  source.AnswersByName := by
                intro source hsource
                obtain rfl : CrlSource.ofList crls = source := Option.some.inj hsource
                exact CrlSource.answersByName_ofList crls
              rw [hl', hd.eq_list_of_key hname hk hn hkey hl' answered]
              rfl
          | ocsp r =>
              obtain ⟨r', hr', digest⟩ := Token.eq_ocsp_of_key hkey
              rw [hr', hdigest (hd.comesUp_of_slot hk hr') (.answers answered) digest]
              rfl
        have hnamed : s.issuer = some e.certificate := (Status.isAbout_of_check? answer).issuer
        exact ⟨s, e.certificate, used, rfl, .intro there recorded hnamed
          (by simp [token?, hb, hissuer]) rests (by simp [token?, hk, hfiled]) hn⟩

/-! ## Together -/

/-- **A status computed again from the collected evidence is the recorded one, or an intruder's.**
Where keys tell tokens apart, this is so of every certificate that is checked, unless its status
rests on the target. -/
theorem statusWithin?_eq_recorded_or_intruded (t : Token) (date : Instant) (sources : Sources)
    (crls : List Crl) (responses : List OcspResponse) (config : Config) :
    ∃ c, (ofTarget t date).discover (sources.withLists crls responses) config = .ok c ∧
      (∀ {h : Handle} {x issuer : Certificate} {s : Status} {evidence : RevocationEvidence},
        c.Standing h x issuer s evidence →
          ((∀ r, ¬ c.Intrudes x issuer evidence r) →
            c.statusWithin? sources.crypto x = some s) ∧
          ∀ r, c.Intrudes x issuer evidence r → c.ServesOther h r ∧
            (∀ r₀, evidence = .ocsp r₀ → r.producedAt = r₀.producedAt) ∧
            c.statusWithin? sources.crypto x =
              Status.orElse (Status.ofResponse? sources.crypto x issuer date r)
              (Status.byCrl? sources.crypto (.ofList c.neededCrls) x issuer date)) ∧
      ((sources.withLists crls responses).Distinct t →
        (sources.withLists crls responses).DigestsTell t date →
        ∀ {h j : Handle} {i? : Option Handle} {s? : Option Status} {x : Certificate},
          c.token? h = some (.certificate x) → c.resolutionAt? h = some (.checked j s? i?) →
            (i? = some target ∧ ∃ a : RevocationEvidence, t = a.token) ∨
              ∃ s issuer evidence, s? = some s ∧ c.Standing h x issuer s evidence) := by
  obtain ⟨c, hc, hd⟩ := exists_discovered t date (sources.withLists crls responses) config
  have ht : c.Tidy := tidy_of_discover hc
  refine ⟨c, hc, ?_, fun hdist hdigest => hd.standing_of_distinct hdist hdigest⟩
  intro h x issuer s evidence hs
  refine ⟨hd.statusWithin?_eq_recorded hs, ?_⟩
  intro r hi
  refine ⟨hd.servesOther_of_intrudes ht hs hi, ?_, hd.statusWithin?_of_intrudes hs hi⟩
  rintro r₀ rfl
  exact hd.producedAt_of_intrudes hs hi

/-- What the status on record for the token at a handle says. -/
def outcomeAt? (c : Context) (h : Handle) : Option (Validity × Option Instant) :=
  ((c.resolutionAt? h).bind (·.status?)).map Status.outcome

/-- What the status computed again for the certificate at a handle says. -/
def outcomeWithin? (c : Context) (crypto : Crypto) (h : Handle) :
    Option (Validity × Option Instant) :=
  (c.entryAt? h).bind fun e => (c.statusWithin? crypto e.certificate).map Status.outcome

/-- Where there is an outcome on record, a certificate was checked. -/
theorem Discovered.checked_of_outcomeAt? {outcome : Validity × Option Instant}
    (hd : Discovered sources config t date c) (ho : c.outcomeAt? h = some outcome) :
    ∃ x j s i?, c.token? h = some (.certificate x) ∧
      c.resolutionAt? h = some (.checked j (some s) i?) ∧
      s.outcome = outcome := by
  obtain ⟨s, hs, houtcome⟩ := Option.map_eq_some_iff.1 ho
  obtain ⟨res, hres, hstatus⟩ := Option.bind_eq_some_iff.1 hs
  obtain ⟨a, j, i?, rfl, ha, hkind, -⟩ := hd.slot_of_status? hres hstatus
  obtain ⟨x, hx⟩ := Option.isSome_iff_exists.1 hkind
  exact ⟨x, j, s, i?, by simp [token?, ha, Token.eq_of_certificate? hx], hres, houtcome⟩

theorem Discovered.outcomeWithin?_of_agree {outcome : Validity × Option Instant}
    (hd : Discovered sources config t date c) (hagree : c.StatusesAgree crypto)
    (ho : c.outcomeAt? h = some outcome) : c.outcomeWithin? crypto h = some outcome := by
  obtain ⟨x, j, s, i?, there, hres, rfl⟩ := hd.checked_of_outcomeAt? ho
  obtain ⟨a, ha, htoken⟩ := Option.map_eq_some_iff.1 there
  obtain ⟨s₁, s', hs₁, hagain, houtcome⟩ := hagree there hres
  obtain rfl := Option.some.inj hs₁
  simp [outcomeWithin?, entryAt?_of_slot ha htoken, hagain, houtcome]

/-- A run that ends with a status that comes out otherwise. -/
theorem exists_not_statusesAgree (h : Handle) (outcome : Validity × Option Instant)
    (hrun : ((ofTarget t date).discover sources config).toOption.any (fun c =>
      decide (c.outcomeAt? h = some outcome) &&
        !decide (c.outcomeWithin? crypto h = some outcome)) = true) :
    ∃ c, (ofTarget t date).discover sources config = .ok c ∧ ¬ c.StatusesAgree crypto := by
  obtain ⟨c, hc, hd, htest⟩ := exists_discovered_of_any hrun
  refine ⟨c, hc, ?_⟩
  intro hagree
  simp only [Bool.and_eq_true, Bool.not_eq_true', decide_eq_true_eq,
    decide_eq_false_iff_not] at htest
  exact htest.2 (hd.outcomeWithin?_of_agree hagree htest.1)

end Context

namespace Specimen

open Context

theorem distinct_withList : (sources.withLists [list] []).Distinct (.certificate leaf) := by
  have hknows : ∀ {x : Certificate}, (sources.withLists [list] []).Knows (.certificate leaf) x →
      sources.Knows (.certificate leaf) x := by
    intro x hx
    cases hx with
    | target is => exact .target is
    | withTarget along => exact .withTarget along
    | returned returns =>
        apply Sources.Knows.returned
        cases returns with
        | trusted asked given => exact .trusted asked given
        | external asked given => exact .external asked given
    | withResponse asked given _ =>
        obtain rfl := Option.some.inj asked
        cases given
  intro a b ha hb
  exact distinct_leaf (hknows ha) (hknows hb)

/-- No response comes up. -/
theorem digestsTell_withList :
    (sources.withLists [list] []).DigestsTell (.certificate leaf) ⟨5⟩ := by
  intro r r' hr
  cases hr with
  | target is => cases is
  | answers answered =>
      cases answered with
      | byResponse asked given _ =>
          obtain rfl := Option.some.inj asked
          cases given

/-- The leaf's status rests on the root's list, and there is no response that could intrude. -/
theorem leaf_statusWithin : (sources.withLists [list] []).Distinct (.certificate leaf) ∧
    (sources.withLists [list] []).DigestsTell (.certificate leaf) ⟨5⟩ ∧
    ∃ c, (ofTarget (.certificate leaf) ⟨5⟩).discover
      (sources.withLists [list] []) {} = .ok c ∧
      ∃ s issuer evidence, c.Standing target leaf issuer s evidence ∧
        s.outcome = (.valid, none) ∧
        c.statusWithin? crypto leaf = some s := by
  obtain ⟨c, hc, hstatus, hstands⟩ :=
    statusWithin?_eq_recorded_or_intruded (.certificate leaf) ⟨5⟩ sources [list] [] {}
  have hrun : ((ofTarget (.certificate leaf) ⟨5⟩).discover
      (sources.withLists [list] []) {}).toOption.any (fun c =>
      decide (c.neededOcsps = []) &&
        decide (c.outcomeAt? target = some (.valid, none))) = true := by
    decide +kernel
  obtain ⟨c', hc', hd, htest⟩ := exists_discovered_of_any hrun
  obtain rfl := Except.ok.inj (hc.symm.trans hc')
  simp only [Bool.and_eq_true, decide_eq_true_eq] at htest
  obtain ⟨hresponses, houtcome⟩ := htest
  obtain ⟨x, j, s, i?, there, hres, hvalid⟩ := hd.checked_of_outcomeAt? houtcome
  have hx : c.targetCertificate? = some x := by
    simp [targetCertificate?, targetToken?, there, Token.certificate?]
  obtain rfl := Option.some.inj (hd.targetCertificate?.symm.trans hx)
  refine ⟨distinct_withList, digestsTell_withList, c, hc, ?_⟩
  rcases hstands distinct_withList digestsTell_withList there hres with
    ⟨-, a, ha⟩ | ⟨_, issuer, evidence, hsome, hstanding⟩
  · cases a <;> cases ha
  · obtain rfl := Option.some.inj hsome
    refine ⟨s, issuer, evidence, hstanding, hvalid, (hstatus hstanding).1 ?_⟩
    intro r hintrudes
    have hmem := hintrudes.mem
    rw [hresponses] at hmem
    cases hmem

end Specimen

namespace Recomputed

open Context Specimen CrossCertified

/-- A responder of the root's. -/
def responder : Certificate := certificate "CN=OCSP" "CN=Root" 3 2 0

/-- A response that the responder signed, at 1. -/
def byResponder (responses : List SingleResponse) : OcspResponse where
  encoding := [1]
  responder := .name responder.subject
  producedAt := ⟨1⟩
  responses := responses
  signed := signedWith 2
  certificates := [responder]

def byRoot (producedAt : Int) (responses : List SingleResponse) : OcspResponse where
  encoding := [2]
  responder := .name root.subject
  producedAt := ⟨producedAt⟩
  responses := responses
  signed := signedWith 0
  certificates := []

/-- What is said about a certificate at 1. -/
def single (x : Certificate) (answer : OcspAnswer) : SingleResponse :=
  ⟨x.serial, answer, ⟨1⟩, none⟩

/-- The responder's answer about itself, passed over for the root's *unknown* and a list. -/
def passedOver : List OcspResponse :=
  [byResponder [single leaf .good, single responder (.revoked ⟨1⟩)],
    byRoot 2 [single responder .unknown]]

/-- Two responses of one age that contradict each other about the leaf. -/
def contradictory : List OcspResponse :=
  [byRoot 1 [single leaf (.revoked ⟨1⟩), single responder .good],
    byResponder [single leaf .good]]

/-- **Statuses come out otherwise**: the responder is revoked by the response that was collected for
the leaf; the leaf by the one that was collected for the responder, as it came later; the
certificate of the root has no status without the target; and a certificate that is recorded as its
own issuer has none either. -/
theorem statuses_come_out_otherwise :
    (∃ c, (ofTarget (.certificate leaf) ⟨5⟩).discover
      (sources.withLists [list] passedOver) {} = .ok c ∧
      ¬ c.StatusesAgree crypto) ∧
    (∃ c, (ofTarget (.certificate leaf) ⟨5⟩).discover
      (sources.withLists [] contradictory) {} = .ok c ∧
      ¬ c.StatusesAgree crypto) ∧
    (∃ c, (ofTarget (.crl firstList) ⟨5⟩).discover
      ((sourcesWith firstList).withLists [firstList, list] []) {} = .ok c ∧
      ¬ c.StatusesAgree crypto) ∧
    ∃ c, (ofTarget (.certificate Collision.twin) ⟨5⟩).discover
      (sources.withLists [list] []) {} = .ok c ∧
      ¬ c.StatusesAgree crypto := by
  refine ⟨exists_not_statusesAgree ⟨3⟩ (.valid, none) (by decide +kernel), ?_, ?_, ?_⟩
  · exact exists_not_statusesAgree target (.valid, none) (by decide +kernel)
  · exact exists_not_statusesAgree ⟨2⟩ (.valid, none) (by decide +kernel)
  · exact exists_not_statusesAgree target (.valid, none) (by decide +kernel)

end Recomputed
end SignatureTrust
