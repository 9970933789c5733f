import SignatureTrust.Proofs.Discovery.RecordedEvidence
import SignatureTrust.Proofs.Discovery.Requests

/-!
# `Proofs.Discovery.WellResolved` — the resolutions that occur

The type of resolutions has room for much that means nothing: a timestamp that nothing had to be
looked up for, a status without evidence, an issuer at a handle where there is a list, or nothing.
Levels and verdicts do not ask; they take a handle for what it should be.

> Whatever is added to a target's context and however often discovery runs on it, each resolution
> **is one of those for its kind of token**, and its handles lead to a certificate and to evidence
> (`requests_keep_wellResolved`).

Two things together make it so. A resolution is recorded on grounds that say what it looks like
(`Grounded`); and a handle in it comes from the index, where a key leads to a token with that key,
and **keys of two kinds are never equal**. Neither depends on what the sources answer, so the
sources may be others for every run. A resolution that a caller records is not looked at, and is
left out here.
-/

set_option autoImplicit false

namespace SignatureTrust

/-- Whether a request records a resolution itself, and does not leave it to discovery. -/
def Request.records : Request → Bool
  | .record _ _ => true
  | .addToken _ | .addEntry _ | .discover _ _ => false

/-- Nothing has to be looked up: a certificate that is its own issuer by name, or one from a trusted
list. -/
def Slot.IsExempt (s : Slot) : Prop :=
  ∃ x, s.token = .certificate x ∧ (x.isSelfIssued = true ∨ s.provenance = .trustedList)

/-- What discovery finds for a token of some kind. -/
inductive Finding : Token → Resolution → Prop
  | noIssuer (t : Token) : Finding t (.unresolved none .issuerNotFound)
  | noStatus (x : Certificate) (issuer : Handle) :
      Finding (.certificate x) (.unresolved (some issuer) .noRevocationData)
  | status (x : Certificate) (issuer : Handle) (s : Status) (evidence : Handle) :
      Finding (.certificate x) (.checked issuer (some s) (some evidence))
  | signer {t : Token} (kind : t.certificate? = none) (issuer : Handle) :
      Finding t (.checked issuer none none)

namespace Context

variable {sources : Sources} {config : Config} {c c' : Context} {h : Handle} {s : Slot}
  {r : Resolution} {t : Token}
variable {p : Provenance} {v : Option Service}

/-- The resolution of a slot, if it has one, fits its token, and the handles in it lead to what they
should. -/
structure WellResolved (c : Context) (s : Slot) : Prop where
  selfSigned : ∀ {x : Certificate}, s.token = .certificate x → x.isSelfIssued = true →
    s.resolution = some (.noCheckNeeded .selfSigned)
  trusted : ∀ {x : Certificate}, s.token = .certificate x → x.isSelfIssued = false →
    s.provenance = .trustedList → s.resolution = some (.noCheckNeeded .trustedList)
  -- everything else waits until something is found
  found : ¬ s.IsExempt → ∀ {r : Resolution}, s.resolution = some r → Finding s.token r
  issuer : ∀ {r : Resolution} {i : Handle}, s.resolution = some r → r.issuer? = some i →
    ∃ x, c.token? i = some (.certificate x)
  evidence : ∀ {r : Resolution} {i : Handle}, s.resolution = some r → r.evidence? = some i →
    ∃ e : RevocationEvidence, c.token? i = some e.token

theorem Grows.token? {i : Handle} (hg : Grows c c') (hi : c.token? i = some t) :
    c'.token? i = some t := by
  obtain ⟨s, hs, rfl⟩ := Option.map_eq_some_iff.1 hi
  obtain ⟨s', hs', hb⟩ := hg.slot hs
  simp [Context.token?, hs', hb.token]

theorem WellResolved.mono (hw : c.WellResolved s) (hg : Grows c c') : c'.WellResolved s where
  selfSigned := hw.selfSigned
  trusted := hw.trusted
  found := hw.found
  issuer hr hi := (hw.issuer hr hi).imp fun _ => hg.token?
  evidence hr hi := (hw.evidence hr hi).imp fun _ => hg.token?

/-! ## On arrival -/

theorem onArrival_eq_none (hs : ¬ s.IsExempt) : onArrival s.token s.provenance = none := by
  cases ht : s.token with
  | certificate x =>
      have hself : ¬ x.isSelfIssued = true := fun hx => hs ⟨x, ht, .inl hx⟩
      have hplace : ¬ s.provenance = .trustedList := fun hp => hs ⟨x, ht, .inr hp⟩
      simp [onArrival, hself, hplace]
  | crl _ | ocsp _ | timestamp _ => rfl

theorem exists_reason_of_onArrival (ha : onArrival t p = some r) :
    ∃ reason, r = .noCheckNeeded reason := by
  unfold onArrival at ha
  split at ha
  · split at ha
    · exact ⟨.selfSigned, (Option.some.inj ha).symm⟩
    · split at ha
      · exact ⟨.trustedList, (Option.some.inj ha).symm⟩
      · cases ha
  · cases ha

theorem wellResolved_new : c.WellResolved ⟨t, p, v, onArrival t p⟩ where
  selfSigned := by
    rintro x rfl hx
    simp [onArrival, hx]
  trusted := by
    rintro x rfl hx rfl
    simp [onArrival, hx]
  found := by
    intro hs r hr
    rw [onArrival_eq_none hs] at hr
    cases hr
  issuer := by
    intro r i hr hi
    obtain ⟨_, rfl⟩ := exists_reason_of_onArrival hr
    cases hi
  evidence := by
    intro r i hr hi
    obtain ⟨_, rfl⟩ := exists_reason_of_onArrival hr
    cases hi

/-! ## Later -/

theorem Grounded.finding (hg : Grounded sources config c t r) : Finding t r := by
  cases hg with
  | noIssuer _ => exact .noIssuer _
  | noStatus _ _ _ => exact .noStatus _ _
  | status _ _ _ _ _ => exact .status _ _ _ _
  | signer kind _ _ => exact .signer kind _

/-- Under the key of a certificate is a certificate. -/
theorem Grounded.certificate_at_issuer {i : Handle} (hg : Grounded sources config c t r)
    (hf : c.Filed) (hi : r.issuer? = some i) : ∃ x, c.token? i = some (.certificate x) := by
  obtain ⟨e, -, filed⟩ := hg.search_of_issuer? hi
  obtain ⟨s, hs, hkey⟩ := hf.slot_of_handleOf? filed
  obtain ⟨x, hx, -, -⟩ := Token.eq_certificate_of_key hkey
  exact ⟨x, by simp [token?, hs, hx]⟩

/-- Under the key of evidence is evidence. -/
theorem Grounded.evidence_at_evidence {i : Handle} (hg : Grounded sources config c t r)
    (hf : c.Filed) (hi : r.evidence? = some i) :
    ∃ e : RevocationEvidence, c.token? i = some e.token := by
  cases hg with
  | @status _ _ _ _ _ evidence _ _ _ _ evidenceFiled =>
      obtain rfl := Option.some.inj hi
      obtain ⟨s, hs, hkey⟩ := hf.slot_of_handleOf? evidenceFiled
      obtain ⟨e, he⟩ := RevocationEvidence.exists_of_key hkey
      exact ⟨e, by simp [token?, hs, he]⟩
  | noIssuer _ | noStatus _ _ _ | signer _ _ _ => cases hi

/-- A slot that waits may be given what its token's resolution is grounded in. -/
theorem WellResolved.settled (hw : c.WellResolved s)
    (hn : s.resolution = none) (hg : Grounded sources config c s.token r) (hf : c.Filed) :
    c.WellResolved { s with resolution := some r } where
  selfSigned hx hself := by
    have hthere := hw.selfSigned hx hself
    rw [hn] at hthere
    cases hthere
  trusted hx hself hp := by
    have hthere := hw.trusted hx hself hp
    rw [hn] at hthere
    cases hthere
  found := by
    intro _ r' hr
    obtain rfl := Option.some.inj hr
    exact hg.finding
  issuer := by
    intro r' i hr hi
    obtain rfl := Option.some.inj hr
    exact hg.certificate_at_issuer hf hi
  evidence := by
    intro r' i hr hi
    obtain rfl := Option.some.inj hr
    exact hg.evidence_at_evidence hf hi

/-! ## Whatever is done -/

/-- Keys and handles agree, and every slot is well resolved. -/
structure Orderly (c : Context) : Prop where
  filed : c.Filed
  resolved : ∀ {h : Handle} {s : Slot}, c.slot? h = some s → c.WellResolved s

theorem Orderly.insert (ho : c.Orderly) : (c.insert t p v).2.Orderly where
  filed := ho.filed.step (.insert c t p v)
  resolved hs := by
    rcases slot?_insert_cases hs with hs | rfl
    · exact (ho.resolved hs).mono .insert
    · exact wellResolved_new

theorem Orderly.countPass (ho : c.Orderly) : Orderly { c with passes := c.passes + 1 } :=
  ⟨ho.filed, fun hs => (ho.resolved hs).mono (Step.countPass c).grows⟩

theorem Orderly.change (ho : c.Orderly) (hch : Change sources config c c') : c'.Orderly := by
  cases hch with
  | issuer _ _ | evidence _ _ => exact ho.insert
  | @record _ i a r there grounded recorded =>
      have hg : Grows c c' := Step.grows (.record recorded)
      obtain ⟨a', ha', hn, rfl⟩ := record_eq_ok_iff.1 recorded
      obtain rfl : a = a' := Option.some.inj (there.symm.trans ha')
      refine ⟨ho.filed.step (.record recorded), fun {h s} hs => ?_⟩
      by_cases he : h = i
      · subst he
        obtain rfl := Option.some.inj ((slot?_settled_self there).symm.trans hs)
        exact ((ho.resolved there).settled hn grounded ho.filed).mono hg
      · rw [slot?_settled_of_ne he] at hs
        exact (ho.resolved hs).mono hg
  | countPass => exact ho.countPass

theorem Orderly.reaches (ho : c.Orderly) (hr : Reaches sources config c c') : c'.Orderly :=
  hr.keeps (P := Orderly) Orderly.change ho

theorem orderly_ofTarget (t : Token) (date : Instant) : (ofTarget t date).Orderly :=
  Orderly.insert ⟨filed_empty date, fun hs => by simp [slot?, empty] at hs⟩

theorem Orderly.after {q : Request} (ho : c.Orderly) (hq : q.records = false) :
    (c.after q).Orderly := by
  cases q with
  | addToken _ | addEntry _ => exact ho.insert
  | record _ _ => cases hq
  | discover sources config =>
      obtain ⟨c', hd, hr⟩ := reaches_of_discover sources config c
      rw [after_of_ok (q := .discover sources config) hd]
      exact ho.reaches hr

theorem Orderly.afterAll {qs : List Request} (ho : c.Orderly)
    (hqs : ∀ q ∈ qs, q.records = false) :
    (c.afterAll qs).Orderly := by
  induction qs generalizing c with
  | nil => exact ho
  | cons q qs ih =>
      obtain ⟨hq, hqs⟩ := List.forall_mem_cons.1 hqs
      exact ih (ho.after hq) hqs

/-- **After any requests, and at any time within a discovery that follows, every slot of a target's
context is well resolved**, as long as no request records a resolution itself. -/
theorem requests_keep_wellResolved (t : Token) (date : Instant) (qs : List Request)
    (hqs : ∀ q ∈ qs, q.records = false) :
    let c := (ofTarget t date).afterAll qs
    (∀ {h : Handle} {s : Slot}, c.slot? h = some s → c.WellResolved s) ∧
      ∀ {sources : Sources} {config : Config} {c' : Context}, Reaches sources config c c' →
        ∀ {h : Handle} {s : Slot}, c'.slot? h = some s → c'.WellResolved s := by
  intro c
  have ho : c.Orderly := (orderly_ofTarget t date).afterAll hqs
  exact ⟨ho.resolved, fun hr => (ho.reaches hr).resolved⟩

end Context

namespace Specimen

open Context

/-- The root arrives by hand before the leaf is looked into, and its list as well. -/
def byHand : List Request :=
  [.addEntry (.plain root .trustedList), .addToken (.crl list), .discover sources {}]

/-- The leaf is resolved with the handles of the two, which were there already; the list, with that
of the root. -/
theorem leaf_wellResolved : (∀ q ∈ byHand, q.records = false) ∧
    let c := (ofTarget (.certificate leaf) ⟨5⟩).afterAll byHand
    (∀ {h : Handle} {s : Slot}, c.slot? h = some s → c.WellResolved s) ∧
      c.slots.map (fun s => s.resolution.map fun r => (r.isNoCheckNeeded, r.issuer?, r.evidence?)) =
        [some (false, some ⟨1⟩, some ⟨2⟩), some (true, none, none),
            some (false, some ⟨1⟩, none)] := by
  have hqs : ∀ q ∈ byHand, q.records = false := by simp [byHand, Request.records]
  exact ⟨hqs, (requests_keep_wellResolved (.certificate leaf) ⟨5⟩ byHand hqs).1,
    by decide +kernel⟩

end Specimen
end SignatureTrust
