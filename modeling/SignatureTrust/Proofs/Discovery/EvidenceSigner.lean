import SignatureTrust.Proofs.Discovery.RecordedEvidence
import SignatureTrust.Proofs.Discovery.Unexpired

/-!
# `Proofs.Discovery.EvidenceSigner` — who signed the evidence behind a valid chain

A certificate does not pass with evidence that is unresolved, so behind a valid chain **every piece
of evidence has a signer on record** (`Discovered.exists_signer`). That is all that is asked of the
evidence. What is on record for the signer is asked only where the signer is part of the chain:

> behind a valid chain no signer of evidence is revoked, exactly where none **outside the chain** is
> (`evidence_signers_stand_iff`).

An anchored chain contains the issuer of each of its certificates, so nobody outside signs where
evidence is signed by the issuers of what it is about. A responder that an issuer authorised is
outside, and `Disowned` has the shortest case: the responder is revoked, the list that says so is in
the context, and the chain is valid by the responder's word.
-/

set_option autoImplicit false

namespace SignatureTrust

/-- Evidence about a certificate, and what can come up under its key, is signed by nobody but the
certificate's issuer. -/
def Sources.IssuersSignEvidence (sources : Sources) (config : Config) (t : Token)
    (date : Instant) : Prop :=
  ∀ {x : Certificate} {issuer signer : Entry} {status : Status} {used filed : RevocationEvidence},
    sources.Knows t x → sources.issuer? config date (.certificate x) = some issuer →
    Status.check? sources.crypto sources.ocsp sources.crl x issuer.certificate date =
      some status →
    status.evidence = some used → sources.ComesUp t date filed →
    filed.token.key = used.token.key → sources.issuer? config date filed.token = some signer →
    signer.certificate = issuer.certificate

namespace Context

variable {sources : Sources} {config : Config} {t : Token} {date : Instant} {c : Context}
variable {h i j : Handle} {e e' : Entry} {r : Resolution}

/-- A certificate of the chain is at this handle. -/
def OnChain (c : Context) (h : Handle) : Prop := ∃ e ∈ c.chain, c.entryAt? h = some e

/-- What is recorded at one handle rests on evidence whose recorded signer is at the other. -/
inductive SignsEvidence (c : Context) (h j : Handle) : Prop
  | intro {r r' : Resolution} {i : Handle} (recorded : c.resolutionAt? h = some r)
      (rests : r.evidence? = some i) (resolved : c.resolutionAt? i = some r')
      (signer : r'.issuer? = some j)

/-- What is recorded at this handle is a revocation. -/
def RevokedAt (c : Context) (h : Handle) : Prop :=
  ∃ r, c.resolutionAt? h = some r ∧ r.isRevoked = true

/-- Nobody who signed evidence behind the chain is recorded as revoked. -/
def EvidenceSignersStand (c : Context) : Prop :=
  ∀ {h j : Handle}, c.OnChain h → c.SignsEvidence h j → ¬ c.RevokedAt j

/-! ## Certificates of a valid chain -/

theorem Passes.isRevoked_eq_false (hp : Passes c r) : r.isRevoked = false := by
  cases hs : r.status? with
  | none => simp [Resolution.isRevoked, hs]
  | some status => simp [Resolution.isRevoked, hs, hp.valid hs]

theorem Discovered.passes_of_onChain (hd : Discovered sources config t date c)
    (hv : (SignatureTrust.chainVerdict (some c)).isValid = true) (hon : c.OnChain h) :
    ∃ r, c.resolutionAt? h = some r ∧ Passes c r := by
  obtain ⟨e, hmem, he⟩ := hon
  obtain ⟨r, hr, hp⟩ := isValid_linkVerdict_iff.1 ((isValid_chainVerdict_iff.1 hv).1 e hmem)
  rw [hd.filed.resolutionOf?_of_entryAt? he] at hr
  exact ⟨r, hr, hp⟩

theorem Discovered.not_revokedAt_of_onChain (hd : Discovered sources config t date c)
    (hv : (SignatureTrust.chainVerdict (some c)).isValid = true) (hon : c.OnChain h) :
    ¬ c.RevokedAt h := by
  rintro ⟨r, hr, hrevoked⟩
  obtain ⟨r', hr', hp⟩ := hd.passes_of_onChain hv hon
  obtain rfl : r' = r := Option.some.inj (hr'.symm.trans hr)
  rw [hp.isRevoked_eq_false] at hrevoked
  cases hrevoked

/-! ## The signer on record -/

/-- What rests on evidence has a status. -/
theorem Discovered.grounded_of_evidence? (hd : Discovered sources config t date c)
    (he : c.entryAt? h = some e) (hr : c.resolutionAt? h = some r) (hrests : r.evidence? = some i) :
    Grounded sources config c (.certificate e.certificate) r := by
  obtain ⟨s, hs, ht, -⟩ := slot_of_entryAt? he
  have hrec : s.resolution = some r := by simpa [resolutionAt?, hs] using hr
  cases r with
  | noCheckNeeded _ | unresolved _ _ => cases hrests
  | checked _ _ _ => exact ht ▸ hd.grounded_of_link ⟨⟨h, hs⟩, hrec, rfl⟩

/-- **The evidence behind a certificate that passes has a signer on record**, who is a certificate
of the context. -/
theorem Discovered.exists_signer (hd : Discovered sources config t date c)
    (he : c.entryAt? h = some e) (hr : c.resolutionAt? h = some r) (hp : Passes c r)
    (hrests : r.evidence? = some i) :
    ∃ j signer, c.SignsEvidence h j ∧ c.entryAt? j = some signer := by
  cases hd.grounded_of_evidence? he hr hrests with
  | noIssuer _ | noStatus _ _ _ | signer _ _ _ => cases hrests
  | status _ _ _ _ evidenceFiled =>
      obtain ⟨slot, r', j, hs, -, hl⟩ := hd.link_of_verified evidenceFiled hp.verified
      obtain ⟨_, -, filed, -⟩ := hd.found_of_link hl
      obtain ⟨signer, hsigner⟩ := hd.exists_entryAt?_of_handleOf? filed
      exact ⟨j, signer, .intro hr rfl (by simp [resolutionAt?, hs, hl.recorded]) hl.issuer,
        hsigner⟩

/-! ## Signers on the chain -/

/-- **A chain that leads to a trusted certificate has the next one above each of its certificates.**
The walk was not cut off, because the trusted certificate is where it ends. -/
theorem Discovered.mem_chainFrom_of_next? (hd : Discovered sources config t date c) (steps : Nat)
    (start : Option Handle) (htrust : ∃ a ∈ c.chainFrom steps start, a.isTrusted = true)
    (hm : e ∈ c.chainFrom steps start) (he : c.entryAt? h = some e) (hn : c.next? h = some j)
    (hj : c.entryAt? j = some e') :
    e' ∈ c.chainFrom steps start := by
  induction steps generalizing start with
  | zero => cases hm
  | succ steps ih =>
      obtain ⟨k, rfl, hhead⟩ := entryAt?_of_chainFrom (List.ne_nil_of_mem hm)
      cases hk : c.entryAt? k with
      | none => simp [chainFrom, hk] at hm
      | some first =>
          rw [chainFrom_succ hk] at htrust hm ⊢
          cases htop : first.isTrusted with
          | true =>
              -- nothing is above the first one, and it is not the one that has a next
              rw [hd.next?_of_trusted hk htop, chainFrom_none, List.mem_singleton] at hm
              subst hm
              rw [hd.next?_of_trusted he htop] at hn
              cases hn
          | false =>
              have htail : ∃ a ∈ c.chainFrom steps (c.next? k), a.isTrusted = true := by
                simpa [htop] using htrust
              rcases List.mem_cons.1 hm with rfl | hm
              · obtain rfl : h = k := hd.filed.handle_unique he hk rfl
                obtain ⟨a, ha, -⟩ := htail
                obtain ⟨j', hj', hhead'⟩ := entryAt?_of_chainFrom (List.ne_nil_of_mem ha)
                obtain rfl : j' = j := Option.some.inj (hj'.symm.trans hn)
                exact List.mem_cons_of_mem _ (List.mem_of_mem_head? (hhead'.trans hj))
              · exact List.mem_cons_of_mem _ (ih _ htail hm)

/-- An anchored chain contains the issuer of each of its certificates. -/
theorem Discovered.onChain_of_issuer? (hd : Discovered sources config t date c)
    (htrust : ∃ a ∈ c.chain, a.isTrusted = true) (hon : c.OnChain h)
    (hr : c.resolutionAt? h = some r) (hissuer : r.issuer? = some j) (hj : c.entryAt? j = some e') :
    c.OnChain j := by
  by_cases hself : j = h
  · rwa [hself]
  · obtain ⟨e, hmem, he⟩ := hon
    have hn : c.next? h = some j := by simp [next?, hr, hissuer, hself]
    exact ⟨e', hd.mem_chainFrom_of_next? _ _ htrust hmem he hn hj, hj⟩

/-- Where evidence is signed by issuers, whoever signed the evidence behind an anchored chain is on
it. -/
theorem Discovered.onChain_of_signsEvidence (hd : Discovered sources config t date c)
    (hsigns : sources.IssuersSignEvidence config t date)
    (htrust : ∃ a ∈ c.chain, a.isTrusted = true) (hon : c.OnChain h)
    (hs : c.SignsEvidence h j) : c.OnChain j := by
  obtain @⟨r, r', i, recorded, rests, resolved, signer⟩ := hs
  obtain ⟨e, -, he⟩ := id hon
  cases hd.grounded_of_evidence? he recorded rests with
  | noIssuer _ | noStatus _ _ _ | signer _ _ _ => cases rests
  | status search filed answer used evidenceFiled =>
      cases rests
      obtain ⟨s, hslot, ht, -⟩ := slot_of_entryAt? he
      -- the evidence at the handle, and who was found to have signed it
      obtain ⟨slot, hat, hkey⟩ := hd.filed.slot_of_handleOf? evidenceFiled
      obtain ⟨evidence, hevidence⟩ := RevocationEvidence.exists_of_key hkey
      have hrec : slot.resolution = some r' := by simpa [resolutionAt?, hat] using resolved
      obtain ⟨found, hfound, hfiled, -⟩ := hd.found_of_link ⟨⟨_, hat⟩, hrec, signer⟩
      rw [hevidence] at hkey hfound
      have hsame := hsigns (hd.knows_slot hslot ht) (hd.date ▸ search) (hd.date ▸ answer) used
        (hd.comesUp_of_slot hat hevidence) hkey hfound
      rw [hsame] at hfiled
      obtain rfl := Option.some.inj (filed.symm.trans hfiled)
      obtain ⟨e', he'⟩ := hd.exists_entryAt?_of_handleOf? filed
      exact hd.onChain_of_issuer? htrust hon recorded rfl he'

/-- **Behind a valid chain evidence has signers, and none is revoked exactly where none outside the
chain is**; where evidence is signed by issuers, there is none outside. -/
theorem evidence_signers_stand_iff (t : Token) (date : Instant) (sources : Sources)
    (config : Config) :
    ∃ c, (ofTarget t date).discover sources config = .ok c ∧
      ((SignatureTrust.chainVerdict (some c)).isValid = true →
        (∀ {h i : Handle} {r : Resolution}, c.OnChain h → c.resolutionAt? h = some r →
          r.evidence? = some i →
          ∃ j signer, c.SignsEvidence h j ∧ c.entryAt? j = some signer) ∧
        (c.EvidenceSignersStand ↔
          ∀ {h j : Handle}, c.OnChain h → c.SignsEvidence h j → ¬ c.OnChain j →
            ¬ c.RevokedAt j) ∧
        (sources.IssuersSignEvidence config t date → c.EvidenceSignersStand)) := by
  obtain ⟨c, hc, hd⟩ := exists_discovered t date sources config
  refine ⟨c, hc, ?_⟩
  intro hv
  refine ⟨?_, ⟨?_, ?_⟩, ?_⟩
  · intro h i r hon hr hrests
    obtain ⟨r', hr', hp⟩ := hd.passes_of_onChain hv hon
    obtain rfl : r' = r := Option.some.inj (hr'.symm.trans hr)
    obtain ⟨e, -, he⟩ := hon
    exact hd.exists_signer he hr hp hrests
  · intro hall h j hon hs _
    exact hall hon hs
  · intro houtside h j hon hs
    by_cases hj : c.OnChain j
    · exact hd.not_revokedAt_of_onChain hv hj
    · exact houtside hon hs hj
  · intro hsigns h j hon hs
    have htrust := (isValid_chainVerdict_iff.1 hv).2
    exact hd.not_revokedAt_of_onChain hv (hd.onChain_of_signsEvidence hsigns htrust hon hs)

end Context

namespace Specimen

open Context

theorem issuersSignEvidence_leaf : sources.IssuersSignEvidence {} (.certificate leaf) ⟨5⟩ := by
  intro x issuer signer status used filed _ search _ _ comes _ search'
  have hroot {t : Token} {e : Entry} (hbag : t.bag = [])
      (hs : sources.issuer? {} ⟨5⟩ t = some e) : e.certificate = root := by
    rcases Sources.returns_of_issuer? hs with returns | ⟨y, hy, -⟩
    · exact eq_root_of_returns returns
    · rw [hbag] at hy
      cases hy
  obtain rfl := eq_list_of_comesUp comes
  exact (hroot rfl search').trans (hroot rfl search).symm

/-- The leaf's chain is valid by the root's list, and the root is not revoked. -/
theorem leaf_evidenceSignersStand :
    ∃ c, (ofTarget (.certificate leaf) ⟨5⟩).discover sources {} = .ok c ∧
      (SignatureTrust.chainVerdict (some c)).isValid = true ∧ c.EvidenceSignersStand := by
  obtain ⟨c, hc, hstand⟩ := evidence_signers_stand_iff (.certificate leaf) ⟨5⟩ sources {}
  have hrun : ((ofTarget (.certificate leaf) ⟨5⟩).discover sources {}).toOption.any
      (fun c => (SignatureTrust.chainVerdict (some c)).isValid) = true := by decide +kernel
  rw [hc] at hrun
  obtain ⟨-, -, hissuers⟩ := hstand hrun
  exact ⟨c, hc, hrun, hissuers issuersSignEvidence_leaf⟩

end Specimen

namespace Disowned

open Context Specimen

/-- A responder that the root certified. -/
def responder : Certificate := certificate "CN=Responder" "CN=Root" 3 2 0

/-- The responder says that the leaf is good. -/
def response : OcspResponse where
  encoding := [2]
  responder := .name ⟨"CN=Responder"⟩
  producedAt := ⟨0⟩
  responses := [⟨leaf.serial, .good, ⟨0⟩, none⟩]
  signed := signedWith 2
  certificates := [responder]

/-- The root revoked the responder at 1. -/
def list : Crl := { Specimen.list with revoked := [⟨responder.serial, ⟨1⟩⟩] }

def sources : Sources where
  crypto := crypto
  trustedList := Specimen.sources.trustedList
  crl := some (.ofList [list])
  ocsp := some (.ofList [response])

/-- The chain of the leaf is valid by the word of a responder that is recorded as revoked. -/
theorem responder_revoked_chain_valid :
    ∃ c, (ofTarget (.certificate leaf) ⟨5⟩).discover sources {} = .ok c ∧
      (SignatureTrust.chainVerdict (some c)).isValid = true ∧ ¬ c.EvidenceSignersStand := by
  have hrun : ((ofTarget (.certificate leaf) ⟨5⟩).discover sources {}).toOption.any (fun c =>
      (SignatureTrust.chainVerdict (some c)).isValid &&
        ((c.resolutionAt? target).bind (·.evidence?) == some ⟨2⟩ &&
          ((c.resolutionAt? ⟨2⟩).bind (·.issuer?) == some ⟨3⟩ &&
            (c.resolutionAt? ⟨3⟩).any (·.isRevoked)))) = true := by
    decide +kernel
  obtain ⟨c, hc, hd, htest⟩ := exists_discovered_of_any hrun
  simp only [Bool.and_eq_true, beq_iff_eq, Option.bind_eq_some_iff, Option.any_eq_true] at htest
  obtain ⟨hvalid, ⟨r, recorded, rests⟩, ⟨r', resolved, signer⟩, hrevoked⟩ := htest
  refine ⟨c, hc, hvalid, ?_⟩
  intro hstand
  have hon : c.OnChain target := ⟨_, hd.mem_chain_of_certificate, hd.chain_of_certificate.2⟩
  exact hstand hon (.intro recorded rests resolved signer) hrevoked

end Disowned
end SignatureTrust
