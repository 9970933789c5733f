import SignatureTrust.Proofs.Discovery.Issuer

/-!
# `Proofs.Discovery.IssuerLinks` — what stands at the handle of an issuer

A resolution names its issuer by a handle. The certificate at that handle should be the one that
made the signature and, for a status, the one the status was asked with (`Vouches`). The search
establishes all of it, **for the certificate that was found** (`Link.found`); the handle is that of
the certificate with its issuer and serial that came first.

> The links of a context are genuine exactly where none **strays** to another certificate with the
> issuer and serial of the one that was found (`links_genuine_iff_none_strays`).

With issuer and serial determining certificates there is no other. Without that it can be anything
that shares the two, and `Collision` has the shortest case: a certificate that becomes its own
issuer.
-/

set_option autoImplicit false

namespace SignatureTrust

/-- A certificate is what the recorded issuer of a token should be. -/
structure Vouches (crypto : Crypto) (date : Instant) (t : Token) (r : Resolution)
    (x : Certificate) : Prop where
  signed : t.isSignedBy crypto x = true
  valid : x.isValidAt date = true
  status : ∀ {h : Handle} {s : Option Status} {i : Option Handle},
    t.certificate?.isSome = true → r = .checked h s i →
    ∃ status, s = some status ∧ status.issuer = some x

section

variable {crypto : Crypto} {date : Instant} {t : Token} {r : Resolution} {x y : Certificate}

/-- Only the certificate that a status was asked with vouches for a token with a status. -/
theorem Vouches.eq_of_status (hx : Vouches crypto date t r x) (hy : Vouches crypto date t r y)
    (hk : t.certificate?.isSome = true) (hr : r.status?.isSome = true) : x = y := by
  cases r with
  | noCheckNeeded _ | unresolved _ _ => cases hr
  | checked h st i =>
      obtain ⟨a, ha, hax⟩ := hx.status hk rfl
      obtain ⟨b, hb, hby⟩ := hy.status hk rfl
      obtain rfl : a = b := Option.some.inj (ha.symm.trans hb)
      exact Option.some.inj (hax.symm.trans hby)

/-- Without a status, any certificate that signed the token and was valid vouches for it. -/
theorem Vouches.of_noStatus (hx : Vouches crypto date t r x) (hr : r.status? = none)
    (signed : t.isSignedBy crypto y = true) (valid : y.isValidAt date = true) :
    Vouches crypto date t r y := by
  refine ⟨signed, valid, ?_⟩
  intro h st i hk he
  obtain ⟨status, hst, -⟩ := hx.status hk he
  rw [he, hst] at hr
  cases hr

end

namespace Context

/-- A slot of the context is resolved with a handle for the issuer. -/
structure Link (c : Context) (s : Slot) (r : Resolution) (h : Handle) : Prop where
  there : ∃ i, c.slot? i = some s
  recorded : s.resolution = some r
  issuer : r.issuer? = some h

/-- At every handle of an issuer stands a certificate that vouches. -/
def LinksGenuine (c : Context) (crypto : Crypto) (date : Instant) : Prop :=
  ∀ {s : Slot} {r : Resolution} {h : Handle}, c.Link s r h →
    ∃ e, c.entryAt? h = some e ∧ Vouches crypto date s.token r e.certificate

variable {sources : Sources} {config : Config} {t : Token} {date : Instant} {c : Context}
variable {s : Slot} {r : Resolution} {h : Handle}

theorem onArrival_issuer? {p : Provenance} (ha : onArrival t p = some r) : r.issuer? = none := by
  unfold onArrival at ha
  split at ha
  · split at ha
    · cases ha; rfl
    · split at ha
      · cases ha; rfl
      · cases ha
  · cases ha

/-- What has a handle for its issuer was not resolved on arrival. -/
theorem Discovered.grounded_of_link (hd : Discovered sources config t date c) (hl : c.Link s r h) :
    Grounded sources config c s.token r := by
  obtain ⟨i, hs⟩ := hl.there
  cases ha : onArrival s.token s.provenance with
  | none => exact (hd.settles hs).later ha hl.recorded
  | some r' =>
      obtain rfl : r' = r := Option.some.inj (((hd.settles hs).arrival ha).symm.trans hl.recorded)
      exact absurd hl.issuer (by simp [onArrival_issuer? ha])

/-! ## The certificate that was found -/

/-- Behind every link is a certificate that was found and vouches, and the link is the handle it is
filed under. -/
theorem Discovered.found_of_link (hd : Discovered sources config t date c) (hl : c.Link s r h) :
    ∃ e, sources.issuer? config date s.token = some e ∧
      c.handleOf? (.certificate e.certificate) = some h ∧
      Vouches sources.crypto date s.token r e.certificate := by
  have hg := hd.grounded_of_link hl
  obtain ⟨e, search, filed⟩ := hg.search_of_issuer? hl.issuer
  refine ⟨e, hd.date ▸ search, filed, Sources.signed_of_issuer? search, ?_, ?_⟩
  · rw [← hd.date]
    exact Sources.valid_of_issuer? search
  · rintro i status evidence hkind rfl
    exact hg.about_of_checked hkind search

/-- Where issuer and serial determine a certificate, the one that was found stands at its handle. -/
theorem Discovered.linksGenuine_of_distinct (hd : Discovered sources config t date c)
    (hdist : sources.Distinct t) :
    c.LinksGenuine sources.crypto date := by
  intro s r h hl
  obtain ⟨e, search, filed, vouches⟩ := hd.found_of_link hl
  obtain ⟨i, hs⟩ := hl.there
  obtain ⟨s', hs', ht⟩ := hd.filed_itself hdist filed (hd.knows_found hs (hd.date ▸ search))
  exact ⟨_, entryAt?_of_slot hs' ht, vouches⟩

/-! ## Another one in its place -/

/-- A link leads to another certificate than the one that was found, and not to one that would do as
well. -/
structure Strays (sources : Sources) (config : Config) (date : Instant) (c : Context) (s : Slot)
    (r : Resolution) (h : Handle) (found filed : Entry) : Prop where
  search : sources.issuer? config date s.token = some found
  there : c.entryAt? h = some filed
  issuer : filed.certificate.issuer.same found.certificate.issuer = true
  serial : filed.certificate.serial = found.certificate.serial
  another : filed.certificate ≠ found.certificate
  inadequate : r.status?.isSome = true ∨
    s.token.isSignedBy sources.crypto filed.certificate = false ∨
    filed.certificate.isValidAt date = false

/-- No link of the context strays. -/
def NoneStrays (sources : Sources) (config : Config) (date : Instant) (c : Context) : Prop :=
  ∀ {s : Slot} {r : Resolution} {h : Handle}, c.Link s r h →
    ∀ found filed, ¬ Strays sources config date c s r h found filed

/-- Whoever vouches in the place of the one that was found does not make the link stray. -/
theorem Strays.not_vouches {found filed : Entry}
    (hs : Strays sources config date c s r h found filed)
    (hfound : Vouches sources.crypto date s.token r found.certificate)
    (hkind : r.status?.isSome = true → s.token.certificate?.isSome = true) :
    ¬ Vouches sources.crypto date s.token r filed.certificate := by
  intro hv
  rcases hs.inadequate with hst | hsig | hval
  · exact hs.another (hv.eq_of_status hfound (hkind hst) hst)
  · exact absurd hv.signed (by simp [hsig])
  · exact absurd hv.valid (by simp [hval])

/-- **The links are genuine exactly where none strays.** -/
theorem Discovered.linksGenuine_iff (hd : Discovered sources config t date c) :
    c.LinksGenuine sources.crypto date ↔ NoneStrays sources config date c := by
  constructor
  · intro hgen s r h hl found filed hs
    obtain ⟨e, search, -, vouches⟩ := hd.found_of_link hl
    obtain rfl : e = found := Option.some.inj (search.symm.trans hs.search)
    obtain ⟨f, hf, hv⟩ := hgen hl
    obtain rfl : f = filed := Option.some.inj (hf.symm.trans hs.there)
    exact hs.not_vouches vouches (hd.grounded_of_link hl).certificate_of_status? hv
  · intro hnone s r h hl
    obtain ⟨e, search, filed, vouches⟩ := hd.found_of_link hl
    obtain ⟨s', y, hs', ht, hi, hserial⟩ := hd.filed_like filed
    have he : c.entryAt? h = some ⟨y, s'.provenance, s'.service⟩ := entryAt?_of_slot hs' ht
    refine ⟨_, he, ?_⟩
    by_cases hy : y = e.certificate
    · rw [hy]
      exact vouches
    · -- another certificate stands there, and as the link does not stray it would do
      have hno : ¬ (r.status?.isSome = true ∨ s.token.isSignedBy sources.crypto y = false ∨
          y.isValidAt date = false) :=
        fun hin => hnone hl e _ ⟨search, he, hi, hserial, hy, hin⟩
      simp only [not_or, Option.not_isSome_iff_eq_none, Bool.not_eq_false] at hno
      obtain ⟨hst, hsig, hval⟩ := hno
      exact vouches.of_noStatus hst hsig hval

/-- **Discovery makes genuine links exactly where none strays**, and where issuer and serial
determine a certificate none does. -/
theorem links_genuine_iff_none_strays (t : Token) (date : Instant) (sources : Sources)
    (config : Config) :
    ∃ c, (ofTarget t date).discover sources config = .ok c ∧
      (c.LinksGenuine sources.crypto date ↔ NoneStrays sources config date c) ∧
      (sources.Distinct t → c.LinksGenuine sources.crypto date) := by
  obtain ⟨c, hc, hd⟩ := exists_discovered t date sources config
  exact ⟨c, hc, hd.linksGenuine_iff, hd.linksGenuine_of_distinct⟩

end Context

/-! ## The shortest case

A signature is the key it was made with here, so that whole runs can be evaluated.
-/

namespace Specimen

def crypto : Crypto where
  digest _ octets := octets
  verifies x s := x.publicKey == s.signature

/-- What the holder of a key signed. -/
def signedWith (key : UInt8) : SignedContent := ⟨[], .other "", [key]⟩

/-- A certificate that is valid from 0 to 10. Its encoding is its key. -/
def certificate (subject issuer : String) (serial key signer : UInt8) : Certificate where
  encoding := [key]
  subject := ⟨subject⟩
  issuer := ⟨issuer⟩
  serial := ⟨[serial]⟩
  notBefore := ⟨0⟩
  notAfter := ⟨10⟩
  publicKey := [key]
  signed := signedWith signer
  qcStatements := []

def root : Certificate := certificate "CN=Root" "CN=Root" 1 0 0

def leaf : Certificate := certificate "CN=Leaf" "CN=Root" 2 1 0

/-- What tells the leaf from the root identifies each of them. -/
theorem eq_of_eq_on {α : Type} {f : Certificate → α} (hf : f leaf ≠ f root)
    {a b : Certificate} (ha : a = leaf ∨ a = root) (hb : b = leaf ∨ b = root) (h : f a = f b) :
    a = b := by
  rcases ha with rfl | rfl
  · rcases hb with rfl | rfl
    · rfl
    · exact absurd h hf
  · rcases hb with rfl | rfl
    · exact absurd h.symm hf
    · rfl

/-- The root's list, with nothing on it. -/
def list : Crl where
  encoding := [0]
  issuer := ⟨"CN=Root"⟩
  number := some ⟨[5]⟩
  thisUpdate := ⟨0⟩
  nextUpdate := none
  revoked := []
  signed := signedWith 0

/-- The root is trusted, and its list can be had. -/
def sources : Sources where
  crypto := crypto
  trustedList := some (CertificateStore.ofEntries .trustedList [.plain root .trustedList]).bySubject
  crl := some (.ofList [list])

end Specimen

namespace Collision

open Context Specimen

/-- A certificate to which the root gave its own serial. -/
def twin : Certificate := certificate "CN=Twin" "CN=Root" 1 1 0

/-- The root is found, and the twin is at its handle: the twin is recorded as its own issuer. -/
theorem twin_link_not_genuine :
    ∃ c, (ofTarget (.certificate twin) ⟨5⟩).discover sources {} = .ok c ∧
      ¬ c.LinksGenuine crypto ⟨5⟩ := by
  obtain ⟨c, hc, hd⟩ := exists_discovered (.certificate twin) ⟨5⟩ sources {}
  refine ⟨c, hc, ?_⟩
  intro hgen
  have hrun : ((ofTarget (.certificate twin) ⟨5⟩).discover sources {}).toOption.bind
      (fun c => (c.resolutionAt? target).bind (·.issuer?)) = some target := by decide +kernel
  rw [hc] at hrun
  change (c.resolutionAt? target).bind (·.issuer?) = some target at hrun
  obtain ⟨r, hr, hissuer⟩ := Option.bind_eq_some_iff.1 hrun
  obtain ⟨s, hs, hrec⟩ := Option.bind_eq_some_iff.1 hr
  obtain ⟨s', hs', ht, -, -⟩ := hd.first
  obtain rfl : s' = s := Option.some.inj (hs'.symm.trans hs)
  obtain ⟨e, he, vouches⟩ := hgen ⟨⟨target, hs⟩, hrec, hissuer⟩
  obtain rfl := Option.some.inj ((entryAt?_of_slot hs ht).symm.trans he)
  have hsigned : s'.token.isSignedBy crypto twin = true := vouches.signed
  rw [ht] at hsigned
  exact absurd hsigned (by decide +kernel)

end Collision
end SignatureTrust
