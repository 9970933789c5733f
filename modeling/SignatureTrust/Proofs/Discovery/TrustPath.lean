import Mathlib.Data.List.Chain
import SignatureTrust.Proofs.Discovery.ChainVerdict
import SignatureTrust.Proofs.Discovery.IssuerLinks

/-!
# `Proofs.Discovery.TrustPath` — a valid chain is a path to a trusted list

The verdict on a chain looks at one certificate at a time and asks only that *some* certificate be
trusted. That is enough for a path, because **nothing stands above a trusted certificate**: it needs
no check, so it has no issuer, so the chain ends there. Every other certificate of a valid chain has
a tail behind it, hence an issuer, hence a status.

The walk is by induction on the bound of `chainFrom`, and never asks why the chain stopped: a chain
that was cut off, or went round in a cycle, has no trusted certificate in it.
-/

set_option autoImplicit false

namespace SignatureTrust.Context

variable {sources : Sources} {config : Config} {t : Token} {date : Instant} {c : Context}
variable {h h' : Handle} {e e' : Entry} {r : Resolution}

/-! ## What one step up rests on -/

/-- A recorded piece of evidence was itself traced to whoever signed it. -/
inductive EvidenceTraced (crypto : Crypto) (date : Instant) (c : Context) (i : Handle)
    (evidence : RevocationEvidence) : Prop
  | intro {s : Slot} {r : Resolution} {j : Handle} {signer : Entry}
      (there : c.slot? i = some s) (kind : s.token.certificate? = none)
      (key : s.token.key = evidence.token.key) (resolved : s.resolution = some r)
      (issuer : r.issuer? = some j) (signerThere : c.entryAt? j = some signer)
      (signed : s.token.isSignedBy crypto signer.certificate = true)
      (valid : signer.certificate.isValidAt date = true) : EvidenceTraced _ _ _ _ _

/-- A certificate and its issuer, with a status that says valid and rests on evidence that was
traced. -/
structure SoundLink (crypto : Crypto) (date : Instant) (c : Context) (e e' : Entry) : Prop where
  signed : (Token.certificate e.certificate).isSignedBy crypto e'.certificate = true
  valid : e'.certificate.isValidAt date = true
  recorded : ∃ h i status evidence,
    c.resolutionOf? (.certificate e.certificate) = some (.checked h (some status) (some i)) ∧
    c.entryAt? h = some e' ∧
    status.IsAbout e.certificate e'.certificate date ∧ status.validity = .valid ∧
    status.evidence = some evidence ∧ EvidenceTraced crypto date c i evidence

/-- Certificates from a target up to a trusted list, the last one being the only trusted one. -/
structure TrustPath (sources : Sources) (config : Config) (date : Instant) (c : Context)
    (x : Certificate) (below : List Entry) (anchor : Entry) : Prop where
  starts : below.head?.map (·.certificate) = some x
  links : List.IsChain (SoundLink sources.crypto date c) (below ++ [anchor])
  untrusted : ∀ e ∈ below, e.isTrusted = false
  trusted : anchor.isTrusted = true
  returned : sources.Returns anchor
  supervised : config.checkServiceWindow = true → anchor.serviceActiveAt date = true

/-- Evidence that does not count as unverified has a signer on record. -/
theorem Discovered.link_of_verified (hd : Discovered sources config t date c)
    {i : Handle} {s : Option Status}
    {evidence : RevocationEvidence} (filed : c.handleOf? evidence.token = some i)
    (verified : c.evidenceIsUnverified (.checked h s (some i)) = false) :
    ∃ slot r j, c.slot? i = some slot ∧ slot.token.key = evidence.token.key ∧
      c.Link slot r j := by
  obtain ⟨slot, hs, hkey⟩ := hd.filed.slot_of_handleOf? filed
  have hkind : slot.token.certificate? = none := Token.certificate?_of_evidence_key hkey
  have harrival : onArrival slot.token slot.provenance = none := by
    cases hk : slot.token <;> simp_all [onArrival, Token.certificate?]
  cases hr : slot.resolution with
  | none => simp [evidenceIsUnverified, Resolution.evidence?, resolutionAt?, hs, hr] at verified
  | some r =>
      have hresolved : r.isUnresolved = false := by
        simpa [evidenceIsUnverified, Resolution.evidence?, resolutionAt?, hs, hr] using verified
      obtain ⟨j, hj⟩ := ((hd.settles hs).later harrival hr).issuer?_of_settled hresolved
      exact ⟨slot, r, j, hs, hkey, ⟨i, hs⟩, hr, hj⟩

/-- Evidence that does not count as unverified was traced. -/
theorem Discovered.evidenceTraced (hd : Discovered sources config t date c)
    (hdist : sources.Distinct t) {i : Handle} {s : Option Status}
    {evidence : RevocationEvidence} (filed : c.handleOf? evidence.token = some i)
    (verified : c.evidenceIsUnverified (.checked h s (some i)) = false) :
    EvidenceTraced sources.crypto date c i evidence := by
  obtain ⟨slot, r, j, hs, hkey, hl⟩ := hd.link_of_verified filed verified
  obtain ⟨signer, hsigner, vouches⟩ := hd.linksGenuine_of_distinct hdist hl
  exact .intro hs (Token.certificate?_of_evidence_key hkey) hkey hl.recorded hl.issuer hsigner
    vouches.signed vouches.valid

/-- **One step up in a valid chain is sound.** -/
theorem Discovered.soundLink (hd : Discovered sources config t date c) (hdist : sources.Distinct t)
    (he : c.entryAt? h = some e) (hv : (c.linkVerdict e.certificate).isValid = true)
    (hn : c.next? h = some h') :
    ∃ e', c.entryAt? h' = some e' ∧ SoundLink sources.crypto date c e e' := by
  obtain ⟨s, hs, ht, -⟩ := slot_of_entryAt? he
  obtain ⟨r, hres, hpass⟩ := isValid_linkVerdict_iff.1 hv
  have hat : c.resolutionAt? h = some r := by rw [← hd.filed.resolutionOf?_of_entryAt? he, hres]
  have hrec : s.resolution = some r := by simpa [resolutionAt?, hs] using hat
  have hissuer : r.issuer? = some h' := by
    simp only [next?, hat, Option.bind_some] at hn
    cases hi : r.issuer? with
    | none => simp [hi] at hn
    | some j =>
        simp only [hi, Option.ite_none_left_eq_some, Option.some.injEq] at hn
        rw [hn.2]
  have hl : c.Link s r h' := ⟨⟨h, hs⟩, hrec, hissuer⟩
  obtain ⟨e', he', vouches⟩ := hd.linksGenuine_of_distinct hdist hl
  refine ⟨e', he', ht ▸ vouches.signed, vouches.valid, ?_⟩
  have hg := hd.grounded_of_link hl
  rw [ht] at hg
  -- of the resolutions a certificate can have, only a status passes and names an issuer
  cases hg with
  | noIssuer _ | noStatus _ _ _ => cases hpass.settled
  | signer kind _ _ => cases kind
  | @status _ y _ i status evidence search filed answer rests evidenceFiled =>
      cases hissuer
      have habout := Status.isAbout_of_check? answer
      obtain ⟨status', hst, hisu⟩ := vouches.status (by rw [ht]; rfl) rfl
      cases hst
      exact ⟨h', i, status, evidence, hres, he',
        ⟨habout.certificate, hisu, habout.date.trans hd.date⟩, hpass.valid rfl, rests,
        hd.evidenceTraced hdist evidenceFiled hpass.verified⟩

/-! ## Trusted certificates -/

/-- For a trusted certificate nothing has to be looked up. -/
theorem Discovered.exempt_of_trusted (hd : Discovered sources config t date c)
    (he : c.entryAt? h = some e) (htrust : e.isTrusted = true) :
    ∃ reason, c.resolutionAt? h = some (.noCheckNeeded reason) := by
  obtain ⟨s, hs, ht, hp⟩ := slot_of_entryAt? he
  have hlist : s.provenance = .trustedList := by simpa [Entry.isTrusted, ← hp] using htrust
  have harrival : ∃ reason, onArrival s.token s.provenance = some (.noCheckNeeded reason) := by
    rw [ht, hlist]
    cases hself : e.certificate.isSelfIssued <;> simp [onArrival, hself]
  obtain ⟨reason, ha⟩ := harrival
  exact ⟨reason, by simp [resolutionAt?, hs, (hd.settles hs).arrival ha]⟩

/-- Nothing stands above a trusted certificate. -/
theorem Discovered.next?_of_trusted (hd : Discovered sources config t date c)
    (he : c.entryAt? h = some e) (htrust : e.isTrusted = true) : c.next? h = none := by
  obtain ⟨reason, hr⟩ := hd.exempt_of_trusted he htrust
  simp [next?, hr, Resolution.issuer?]

/-- A trusted certificate came from a source that said so, and was supervised. -/
theorem Discovered.returned_of_trusted (hd : Discovered sources config t date c)
    (he : c.entryAt? h = some e) (htrust : e.isTrusted = true) :
    sources.Returns e ∧ (config.checkServiceWindow = true → e.serviceActiveAt date = true) := by
  obtain ⟨s, hs, -, hp⟩ := slot_of_entryAt? he
  have hlist : e.provenance = .trustedList := by simpa [Entry.isTrusted] using htrust
  have hn : h ≠ target := by
    rintro rfl
    obtain ⟨-, hother, -⟩ := hd.eq_target hs
    rw [← hp, hother] at hlist
    cases hlist
  obtain ⟨_, _, -, search⟩ := hd.found_of_entryAt? he hn
  refine ⟨?_, fun hw => Sources.supervised_of_issuer? search hw⟩
  rcases Sources.returns_of_issuer? search with hr | ⟨x, -, rfl⟩
  · exact hr
  · cases hlist

/-! ## The walk -/

theorem chainFrom_none {steps : Nat} : c.chainFrom steps none = [] := by cases steps <;> rfl

theorem chainFrom_succ {steps : Nat} (he : c.entryAt? h = some e) :
    c.chainFrom (steps + 1) (some h) = e :: c.chainFrom steps (c.next? h) := by
  simp [chainFrom, he]

theorem entryAt?_of_chainFrom {steps : Nat} {start : Option Handle}
    (hc : c.chainFrom steps start ≠ []) :
    ∃ h, start = some h ∧ (c.chainFrom steps start).head? = c.entryAt? h := by
  cases steps with
  | zero => exact absurd rfl hc
  | succ steps =>
      cases start with
      | none => exact absurd rfl hc
      | some h =>
          refine ⟨h, rfl, ?_⟩
          cases he : c.entryAt? h with
          | none => simp [chainFrom, he] at hc
          | some e => simp [chainFrom, he]

/-- Walking up through valid certificates until there is a trusted one. -/
theorem Discovered.walk (hd : Discovered sources config t date c)
    (hdist : sources.Distinct t) (steps : Nat) (h : Handle)
    (hvalid : ∀ e ∈ c.chainFrom steps (some h), (c.linkVerdict e.certificate).isValid = true)
    (htrust : ∃ e ∈ c.chainFrom steps (some h), e.isTrusted = true) :
    ∃ below anchor, c.chainFrom steps (some h) = below ++ [anchor] ∧
      List.IsChain (SoundLink sources.crypto date c) (below ++ [anchor]) ∧
      (∀ e ∈ below, e.isTrusted = false) ∧ anchor.isTrusted = true ∧
        ∃ i, c.entryAt? i = some anchor := by
  induction steps generalizing h with
  | zero =>
      obtain ⟨e, he, -⟩ := htrust
      cases he
  | succ steps ih =>
      cases he : c.entryAt? h with
      | none =>
          obtain ⟨e, hmem, -⟩ := htrust
          simp [chainFrom, he] at hmem
      | some e =>
          rw [chainFrom_succ he] at hvalid htrust ⊢
          cases ht : e.isTrusted with
          | true =>
              -- the chain ends here
              rw [hd.next?_of_trusted he ht]
              exact ⟨[], e, by rw [chainFrom_none]; rfl, .singleton e, by simp, ht, h, he⟩
          | false =>
              -- the trusted certificate is further up, so there is a next one
              have htail : ∃ e' ∈ c.chainFrom steps (c.next? h), e'.isTrusted = true := by
                simpa [ht] using htrust
              obtain ⟨a, ha, -⟩ := id htail
              obtain ⟨h', hn, hhead⟩ := entryAt?_of_chainFrom (List.ne_nil_of_mem ha)
              rw [hn] at htail hhead ⊢
              rw [hn] at hvalid
              obtain ⟨below, anchor, heq, hchain, huntrusted, hanchor⟩ :=
                ih h' (fun x hx => hvalid x (List.mem_cons_of_mem e hx)) htail
              obtain ⟨e', he', hlink⟩ := hd.soundLink hdist he (hvalid e List.mem_cons_self) hn
              refine ⟨e :: below, anchor, by rw [heq, List.cons_append], ?_, ?_, hanchor⟩
              · rw [List.cons_append, List.isChain_cons]
                refine ⟨?_, hchain⟩
                intro x hx
                rw [← heq, hhead, he'] at hx
                obtain rfl := Option.mem_some_iff.1 hx
                exact hlink
              · simpa [ht] using huntrusted

/-- A certificate is the start of its own chain. -/
theorem Discovered.chain_of_certificate {x : Certificate}
    (hd : Discovered sources config (.certificate x) date c) :
    c.chain = c.chainFrom (c.size + 1) (some target) ∧
      c.entryAt? target = some (.plain x .other) := by
  obtain ⟨s, hs, ht, hp, hservice⟩ := hd.first
  refine ⟨by simp [chain, chainStart?, hd.targetCertificate?], ?_⟩
  rw [entryAt?_of_slot hs ht, hp, hservice]
  rfl

/-- **A valid chain is a path from its target to a trusted list**, where issuer and serial determine
a certificate. -/
theorem trustPath_of_valid (x : Certificate) (date : Instant) (sources : Sources) (config : Config)
    (hdist : sources.Distinct (.certificate x)) :
    ∃ c, (ofTarget (.certificate x) date).discover sources config = .ok c ∧
      ((SignatureTrust.chainVerdict (some c)).isValid = true →
        ∃ below anchor, c.chain = below ++ [anchor] ∧
          TrustPath sources config date c x below anchor) := by
  obtain ⟨c, hc, hd⟩ := exists_discovered (.certificate x) date sources config
  refine ⟨c, hc, ?_⟩
  intro hv
  obtain ⟨hvalid, htrust⟩ := isValid_chainVerdict_iff.1 hv
  obtain ⟨hchain, hfirst⟩ := hd.chain_of_certificate
  rw [hchain] at hvalid htrust
  obtain ⟨below, anchor, heq, links, untrusted, trusted, i, hi⟩ :=
    hd.walk hdist _ target hvalid htrust
  obtain ⟨returned, supervised⟩ := hd.returned_of_trusted hi trusted
  have hhead : (below ++ [anchor]).head? = some (.plain x .other) := by
    obtain ⟨e, he, -⟩ := htrust
    obtain ⟨h, hh, hhead⟩ := entryAt?_of_chainFrom (List.ne_nil_of_mem he)
    obtain rfl := Option.some.inj hh
    rw [← heq, hhead, hfirst]
  refine ⟨below, anchor, hchain.trans heq, ?_, links, untrusted, trusted, returned, supervised⟩
  cases below with
  | nil =>
      -- the target is nobody's trusted certificate
      obtain rfl : anchor = .plain x .other := Option.some.inj hhead
      cases trusted
  | cons e rest =>
      obtain rfl : e = .plain x .other := Option.some.inj hhead
      rfl

end SignatureTrust.Context

namespace SignatureTrust.Specimen

open Context

theorem eq_root_of_returns {e : Entry} (returns : sources.Returns e) : e.certificate = root := by
  cases returns with
  | trusted asked given =>
      obtain rfl := Option.some.inj asked
      obtain ⟨hm, -⟩ := CertificateStore.mem_bySubject_iff.1 given
      exact congrArg Entry.certificate (List.mem_singleton.1 hm)
  | external asked _ => cases asked

theorem knows_leaf {x : Certificate} (hx : sources.Knows (.certificate leaf) x) :
    x = leaf ∨ x = root := by
  cases hx with
  | target is => exact .inl (Token.certificate.inj is).symm
  | withTarget along => cases along
  | returned returns => exact .inr (eq_root_of_returns returns)
  | withResponse asked _ _ => cases asked

theorem distinct_leaf : sources.Distinct (.certificate leaf) := by
  intro a b ha hb _ hserial
  exact eq_of_eq_on (f := Certificate.serial) (by decide) (knows_leaf ha) (knows_leaf hb) hserial

/-- The leaf's chain is valid, and so a path to the root. -/
theorem leaf_trustPath : sources.Distinct (.certificate leaf) ∧
    ∃ c, (ofTarget (.certificate leaf) ⟨5⟩).discover sources {} = .ok c ∧
      (SignatureTrust.chainVerdict (some c)).isValid = true ∧
      ∃ below anchor, c.chain = below ++ [anchor] ∧
        TrustPath sources {} ⟨5⟩ c leaf below anchor := by
  obtain ⟨c, hc, hpath⟩ := trustPath_of_valid leaf ⟨5⟩ sources {} distinct_leaf
  have hrun : ((ofTarget (.certificate leaf) ⟨5⟩).discover sources {}).toOption.any
      (fun c => (SignatureTrust.chainVerdict (some c)).isValid) = true := by decide +kernel
  rw [hc] at hrun
  exact ⟨distinct_leaf, c, hc, hrun, hpath hrun⟩

end SignatureTrust.Specimen
