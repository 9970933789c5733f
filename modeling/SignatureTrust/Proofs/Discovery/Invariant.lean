import SignatureTrust.Proofs.Discovery.Needed
import SignatureTrust.Proofs.Discovery.Run

/-!
# `Proofs.Discovery.Invariant` — what holds of a discovered context

Everything later files say about a context that discovery made, they say from five facts
(`Discovered`): the date is the one asked for, keys and handles agree, the needed collections agree
with the tokens, the first token is the target, and of every slot it is known **why it is there and
why it is resolved as it is** (`Origin`, `Settles`).

Each fact is kept by each change of a run, and a run is nothing but changes, so the main theorem is
one induction that is already done. The reasons are kept as equations about the sources (`issuer?`,
`check?`); what they mean — a signature, a validity period, a piece of evidence — is read off
them where it is needed.
-/

set_option autoImplicit false

namespace SignatureTrust.Context

variable {sources : Sources} {config : Config} {c c' : Context} {h : Handle} {s : Slot}

/-! ## Why a slot is resolved as it is -/

/-- A slot keeps what it got on arrival, and what it got later is grounded. -/
structure Settles (sources : Sources) (config : Config) (c : Context) (s : Slot) : Prop where
  arrival : ∀ {r : Resolution}, onArrival s.token s.provenance = some r → s.resolution = some r
  later : onArrival s.token s.provenance = none → ∀ {r : Resolution}, s.resolution = some r →
    Grounded sources config c s.token r

theorem Settles.mono (hs : Settles sources config c s) (hg : Grows c c') :
    Settles sources config c' s :=
  ⟨hs.arrival, fun hn _ hr => (hs.later hn hr).mono hg⟩

theorem settles_new (t : Token) (p : Provenance) (v : Option Service) :
    Settles sources config c ⟨t, p, v, onArrival t p⟩ :=
  ⟨id, fun hn _ hr => by rw [hn] at hr; cases hr⟩

/-- A slot of a context with one more token is an old one or the new one. -/
theorem slot?_insert_cases {t : Token} {p : Provenance} {v : Option Service}
    (hs : (c.insert t p v).2.slot? h = some s) :
    c.slot? h = some s ∨ s = ⟨t, p, v, onArrival t p⟩ := by
  rcases insert_cases c t p v with ⟨i, _, hi⟩ | ⟨_, hi⟩
  · rw [hi] at hs
    exact .inl hs
  · rw [hi] at hs
    exact (slot?_append_cases hs).imp id And.right

theorem Change.settles (hch : Change sources config c c')
    (hc : ∀ {h : Handle} {s : Slot}, c.slot? h = some s → Settles sources config c s)
    (hs : c'.slot? h = some s) : Settles sources config c' s := by
  have hg : Grows c c' := hch.step.grows
  cases hch with
  | issuer _ _ | evidence _ _ =>
      rcases slot?_insert_cases hs with hs | rfl
      · exact (hc hs).mono hg
      · exact settles_new ..
  | @record _ i a r there grounded recorded =>
      obtain ⟨a', ha', hn, rfl⟩ := record_eq_ok_iff.1 recorded
      obtain rfl : a = a' := Option.some.inj (there.symm.trans ha')
      by_cases he : h = i
      · subst he
        obtain rfl := Option.some.inj ((slot?_settled_self there).symm.trans hs)
        constructor
        · -- what was resolved on arrival was not waiting
          intro r' hr
          exact absurd ((hc there).arrival hr) (by simp [hn])
        · intro _ r' hr
          obtain rfl := Option.some.inj hr
          exact grounded.mono hg
      · rw [slot?_settled_of_ne he] at hs
        exact (hc hs).mono hg
  | countPass => exact (hc hs).mono hg

/-! ## Why a slot is there -/

/-- A token other than the target was found as an issuer, or a status rests on it. -/
inductive Origin (sources : Sources) (config : Config) (c : Context) (s : Slot) : Prop
  | issuer {h : Handle} {signed : Slot} {e : Entry} (there : c.slot? h = some signed)
      (search : sources.issuer? config c.date signed.token = some e) (sourced : s.sourced? = some e)
  | evidence {certificate issuer : Certificate} {status : Status} {evidence : RevocationEvidence}
      (answer : Status.check? sources.crypto sources.ocsp sources.crl certificate issuer c.date =
        some status)
      (rests : status.evidence = some evidence) (token : s.token = evidence.token)

theorem Origin.mono {s' : Slot} (ho : Origin sources config c s) (hg : Grows c c')
    (hb : s.Becomes s') :
    Origin sources config c' s' := by
  cases ho with
  | issuer there search sourced =>
      obtain ⟨signed, hs, hb'⟩ := hg.slot there
      exact .issuer hs (by rwa [hg.date, hb'.token]) (by rw [hb.sourced, sourced])
  | evidence answer rests token =>
      exact .evidence (by rwa [hg.date]) rests (by rw [hb.token, token])

theorem Change.origin (hch : Change sources config c c')
    (hc : ∀ {h : Handle} {s : Slot}, c.slot? h = some s → h ≠ target →
      Origin sources config c s)
    (hs : c'.slot? h = some s) (hn : h ≠ target) : Origin sources config c' s := by
  have hg : Grows c c' := hch.step.grows
  cases hch with
  | issuer there search =>
      rcases slot?_insert_cases hs with hs | rfl
      · exact (hc hs hn).mono hg (.refl s)
      · obtain ⟨signed, hs', hb⟩ := hg.slot there
        exact .issuer hs' (by rwa [hg.date, hb.token]) rfl
  | evidence answer rests =>
      rcases slot?_insert_cases hs with hs | rfl
      · exact (hc hs hn).mono hg (.refl s)
      · exact .evidence (by rwa [hg.date]) rests rfl
  | @record _ i a r there _ recorded =>
      obtain ⟨a', ha', hw, rfl⟩ := record_eq_ok_iff.1 recorded
      by_cases he : h = i
      · subst he
        obtain rfl := Option.some.inj ((slot?_settled_self ha').symm.trans hs)
        exact (hc ha' hn).mono hg ⟨rfl, rfl, rfl, fun hr => by simp [hw] at hr⟩
      · rw [slot?_settled_of_ne he] at hs
        exact (hc hs hn).mono hg (.refl s)
  | countPass => exact (hc hs hn).mono hg (.refl s)

/-! ## Everything together -/

/-- A context that discovery made for a target at a date. -/
structure Discovered (sources : Sources) (config : Config) (t : Token) (date : Instant)
    (c : Context) : Prop where
  date : c.date = date
  filed : c.Filed
  gathered : c.Gathered
  first : ∃ s, c.slot? target = some s ∧ s.token = t ∧ s.provenance = .other ∧
    s.service = none
  settles : ∀ {h : Handle} {s : Slot}, c.slot? h = some s → Settles sources config c s
  origin : ∀ {h : Handle} {s : Slot}, c.slot? h = some s → h ≠ target →
    Origin sources config c s

/-- What is at the first handle is the target, and is not trusted. -/
theorem Discovered.eq_target {t : Token}
    {date : Instant} (hd : Discovered sources config t date c) (hs : c.slot? target = some s) :
    s.token = t ∧ s.provenance = .other ∧ s.service = none := by
  obtain ⟨s', hs', ht⟩ := hd.first
  obtain rfl : s' = s := Option.some.inj (hs'.symm.trans hs)
  exact ht

theorem Discovered.targetCertificate? {x : Certificate} {date : Instant}
    (hd : Discovered sources config (.certificate x) date c) : c.targetCertificate? = some x := by
  obtain ⟨s, hs, ht, -, -⟩ := hd.first
  simp [Context.targetCertificate?, targetToken?, token?, hs, ht, Token.certificate?]

/-- The target alone, before the first pass. -/
theorem discovered_ofTarget (t : Token) (date : Instant) :
    Discovered sources config t date (ofTarget t date) := by
  have hstep : Step (empty date) (ofTarget t date) := .insert (empty date) t .other none
  have hslot {h : Handle} {s : Slot} (hs : (ofTarget t date).slot? h = some s) :
      h = target ∧ s = ⟨t, .other, none, onArrival t .other⟩ := by
    rcases slot?_append_cases (c := empty date) hs with hs | hs
    · simp [slot?, empty] at hs
    · exact hs
  exact {
    date := hstep.grows.date
    filed := (filed_empty date).step hstep
    gathered := (gathered_empty date).step hstep
    first := ⟨_, slot?_append_new (c := empty date), rfl, rfl, rfl⟩
    settles := fun hs => by rw [(hslot hs).2]; exact settles_new ..
    origin := fun hs hn => absurd (hslot hs).1 hn }

theorem Discovered.change {t : Token} {date : Instant} (hd : Discovered sources config t date c)
    (hch : Change sources config c c') : Discovered sources config t date c' where
  date := hch.step.grows.date.trans hd.date
  filed := hd.filed.step hch.step
  gathered := hd.gathered.step hch.step
  first := by
    obtain ⟨s, hs, ht, hp, hv⟩ := hd.first
    obtain ⟨s', hs', hb⟩ := hch.step.grows.slot hs
    exact ⟨s', hs', hb.token.trans ht, hb.provenance.trans hp, hb.service.trans hv⟩
  settles := hch.settles hd.settles
  origin := hch.origin hd.origin

/-- **Discovery from a target always gives a context, and every fact of `Discovered` holds of
it.** -/
theorem exists_discovered (t : Token) (date : Instant) (sources : Sources) (config : Config) :
    ∃ c, (ofTarget t date).discover sources config = .ok c ∧
      Discovered sources config t date c := by
  obtain ⟨c, hd, hr⟩ := reaches_of_discover sources config (ofTarget t date)
  exact ⟨c, hd, hr.keeps (P := Discovered sources config t date) Discovered.change
    (discovered_ofTarget t date)⟩

/-- A run whose outcome passes a test made a context that does. -/
theorem exists_discovered_of_any {t : Token} {date : Instant} {test : Context → Bool}
    (hrun : ((ofTarget t date).discover sources config).toOption.any test = true) :
    ∃ c, (ofTarget t date).discover sources config = .ok c ∧
      Discovered sources config t date c ∧ test c = true := by
  obtain ⟨c, hc, hd⟩ := exists_discovered t date sources config
  rw [hc] at hrun
  exact ⟨c, hc, hd, hrun⟩

end SignatureTrust.Context
