import SignatureTrust.Proofs.Discovery.Invariant
import SignatureTrust.Proofs.Source.Certificates

/-!
# `Proofs.Discovery.Issuer` — who is found, and under what they are filed

An issuer that the search found passed every test of the search (`Sources.issuer?`). The context
then files it under its issuer and serial, and **what is filed there may be another certificate**:
one with the same issuer and serial that came first. The tests hold of the certificate that was
found; the handle is that of the certificate that is filed.

The two are one where issuer and serial determine a certificate. That is a condition on the
certificates that can come up at all (`Sources.Knows`), and it is stated as such
(`Sources.Distinct`), because nothing checks it.
-/

set_option autoImplicit false

namespace SignatureTrust

/-- The certificates that come with a token. -/
def Token.bag : Token → List Certificate
  | .ocsp r => r.certificates
  | .timestamp t => t.certificates
  | _ => []

theorem Token.mem_embedded {t : Token} {e : Entry} (h : e ∈ t.embedded.entries) :
    ∃ x ∈ t.bag, e = .plain x .embedded := by
  cases t with
  | certificate _ | crl _ => cases h
  | ocsp _ | timestamp _ => exact CertificateStore.mem_ofCertificates h

/-! ## What keys say -/

theorem Token.eq_certificate_of_key {t : Token} {x : Certificate}
    (h : t.key = (Token.certificate x).key) :
    ∃ y, t = .certificate y ∧ y.issuer.same x.issuer = true ∧ y.serial = x.serial := by
  cases t with
  | certificate y =>
      obtain ⟨hissuer, hserial⟩ := TokenKey.certificate.inj h
      exact ⟨y, rfl, Name.same_iff.2 hissuer, hserial⟩
  | crl _ | ocsp _ | timestamp _ => cases h

theorem Token.eq_crl_of_key {t : Token} {l : Crl} (h : t.key = (Token.crl l).key) :
    ∃ l', t = .crl l' ∧ l'.issuer.same l.issuer = true := by
  cases t with
  | crl l' => exact ⟨l', rfl, Name.same_iff.2 (TokenKey.crl.inj h).1⟩
  | certificate _ | ocsp _ | timestamp _ => cases h

/-- Under the key of a response is a response with its digest. -/
theorem Token.eq_ocsp_of_key {t : Token} {r : OcspResponse} (h : t.key = (Token.ocsp r).key) :
    ∃ r', t = .ocsp r' ∧
      DigestAlgorithm.sha256.digest r'.encoding = DigestAlgorithm.sha256.digest r.encoding := by
  cases t with
  | ocsp r' => exact ⟨r', rfl, (TokenKey.ocsp.inj h).2.2⟩
  | certificate _ | crl _ | timestamp _ => cases h

theorem Token.certificate?_of_evidence_key {t : Token} {evidence : RevocationEvidence}
    (h : t.key = evidence.token.key) : t.certificate? = none := by
  cases evidence with
  | crl l =>
      obtain ⟨l', rfl, -⟩ := Token.eq_crl_of_key h
      rfl
  | ocsp r =>
      obtain ⟨r', rfl, -⟩ := Token.eq_ocsp_of_key h
      rfl

/-! ## Under which name the signer is looked for -/

/-- The signer of a token is looked for under the subject of a certificate. -/
def Token.AsksFor (t : Token) (x : Certificate) : Prop :=
  ∃ name, t.signerName? = some name ∧ x.subject.same name = true

/-- Who signed a certificate, a list, or a response that names its responder is looked for under the
right name. -/
theorem Token.asksFor_of_isSignedBy {t : Token} {crypto : Crypto} {x : Certificate}
    (h : t.isSignedBy crypto x = true) :
    t.AsksFor x ∨ (∃ r digest, t = .ocsp r ∧ r.responder = .keyDigest digest) ∨
      ∃ stamp, t = .timestamp stamp := by
  have hnames : t.namesSigner x = true := (Bool.and_eq_true_iff.1 h).1
  cases t with
  | certificate c => exact .inl ⟨c.issuer, rfl, hnames⟩
  | crl l => exact .inl ⟨l.issuer, rfl, hnames⟩
  | timestamp stamp => exact .inr (.inr ⟨stamp, rfl⟩)
  | ocsp r =>
      cases hresponder : r.responder with
      | keyDigest digest => exact .inr (.inl ⟨r, digest, rfl, hresponder⟩)
      | name n =>
          have hname : (Token.ocsp r).signerName? = some n := by
            simp [signerName?, OcspResponse.responderName?, hresponder]
          have hsubject : x.subject.same n = true := by
            simpa [namesSigner, ResponderId.designates, hresponder] using hnames
          exact .inl ⟨n, hname, hsubject⟩

namespace Sources

variable {sources : Sources} {config : Config} {date : Instant} {t : Token} {e : Entry}

/-! ## The tests of the search -/

theorem issuer?_eq_none_iff :
    sources.issuer? config date t = none ↔ sources.issuers config date t = [] :=
  IssuerPolicy.select_eq_none_iff

theorem mem_issuers_of_issuer? (h : sources.issuer? config date t = some e) :
    e ∈ sources.issuers config date t := IssuerPolicy.mem_of_select h

theorem candidate_of_issuer? (h : sources.issuer? config date t = some e) :
    ∃ name, t.signerName? = some name ∧ e ∈ sources.candidates t name ∧
      sources.accepts config date t e = true := by
  have hm := mem_issuers_of_issuer? h
  unfold issuers at hm
  cases hn : t.signerName? with
  | none => rw [hn] at hm; cases hm
  | some name =>
      rw [hn] at hm
      obtain ⟨hc, ha⟩ := List.mem_filter.1 hm
      exact ⟨name, rfl, hc, ha⟩

theorem accepts_iff : sources.accepts config date t e = true ↔
    e.certificate.isValidAt date = true ∧
      (config.checkServiceWindow = true → e.serviceActiveAt date = true) ∧
      t.isSignedBy sources.crypto e.certificate = true := by
  cases hw : config.checkServiceWindow <;> simp [accepts, hw, and_assoc]

theorem valid_of_issuer? (h : sources.issuer? config date t = some e) :
    e.certificate.isValidAt date = true := by
  obtain ⟨_, -, -, ha⟩ := candidate_of_issuer? h
  exact (accepts_iff.1 ha).1

theorem supervised_of_issuer? (h : sources.issuer? config date t = some e)
    (hw : config.checkServiceWindow = true) :
    e.serviceActiveAt date = true := by
  obtain ⟨_, -, -, ha⟩ := candidate_of_issuer? h
  exact (accepts_iff.1 ha).2.1 hw

theorem signed_of_issuer? (h : sources.issuer? config date t = some e) :
    t.isSignedBy sources.crypto e.certificate = true := by
  obtain ⟨_, -, -, ha⟩ := candidate_of_issuer? h
  exact (accepts_iff.1 ha).2.2

/-! ## Where certificates come from -/

inductive Returns (sources : Sources) (e : Entry) : Prop
  | trusted {source : CertificateSource} {name : Name} (asked : sources.trustedList = some source)
      (given : e ∈ source name)
  | external {source : CertificateSource} {name : Name} (asked : sources.external = some source)
      (given : e ∈ source name)

/-- A certificate can come up in a discovery for a target. -/
inductive Knows (sources : Sources) (target : Token) : Certificate → Prop
  | target {x : Certificate} (is : target = .certificate x) : Knows _ _ x
  | withTarget {x : Certificate} (along : x ∈ target.bag) : Knows _ _ x
  | returned {e : Entry} (returns : sources.Returns e) : Knows _ _ e.certificate
  | withResponse {source : OcspSource} {a b : Certificate} {d : Instant} {r : OcspResponse}
      {x : Certificate} (asked : sources.ocsp = some source) (given : source.getAt a b d = some r)
      (along : x ∈ r.certificates) :
      Knows _ _ x

/-- Issuer and serial determine a certificate, among those that can come up. -/
def Distinct (sources : Sources) (target : Token) : Prop :=
  ∀ {a b : Certificate}, sources.Knows target a → sources.Knows target b →
    a.issuer.same b.issuer = true → a.serial = b.serial → a = b

/-- Who was found came from a source, or with the token; with the token comes no trust. -/
theorem returns_of_issuer? (h : sources.issuer? config date t = some e) :
    sources.Returns e ∨ ∃ x ∈ t.bag, e = .plain x .embedded := by
  obtain ⟨name, -, hc, -⟩ := candidate_of_issuer? h
  unfold candidates at hc
  rcases List.mem_append.1 hc with hc | hc
  · rcases List.mem_append.1 hc with hc | hc
    · cases ht : sources.trustedList with
      | none => rw [ht] at hc; cases hc
      | some source => rw [ht] at hc; exact .inl (.trusted ht hc)
    · exact .inr (Token.mem_embedded (CertificateStore.mem_bySubject_iff.1 hc).1)
  · cases hx : sources.external with
    | none => rw [hx] at hc; cases hc
    | some source => rw [hx] at hc; exact .inl (.external hx hc)

end Sources

namespace Context.Discovered

variable {sources : Sources} {config : Config} {t : Token} {date : Instant} {c : Context}
variable {h : Handle} {s : Slot} {e : Entry}

/-- What is there beside the target and is no certificate was given by a source, and a status rests
on it. -/
theorem answered_of_slot (hd : Discovered sources config t date c) (hs : c.slot? h = some s)
    (hn : h ≠ target) (hkind : s.token.certificate? = none) :
    ∃ evidence x issuer status, s.token = evidence.token ∧
      Status.Answered sources.crypto sources.ocsp sources.crl x issuer date status evidence := by
  cases hd.origin hs hn with
  | issuer _ _ sourced =>
      -- an issuer is a certificate
      obtain ⟨x, hx, -⟩ := Option.map_eq_some_iff.1 sourced
      rw [hkind] at hx
      cases hx
  | evidence answer rests token =>
      obtain ⟨used, hused, answered⟩ := Status.answered_of_check? answer
      obtain rfl := Option.some.inj (rests.symm.trans hused)
      exact ⟨_, _, _, _, token, hd.date ▸ answered⟩

theorem knows_bag (hd : Discovered sources config t date c) (hs : c.slot? h = some s)
    {x : Certificate} (hx : x ∈ s.token.bag) : sources.Knows t x := by
  by_cases hn : h = target
  · obtain ⟨ht, -, -⟩ := hd.eq_target (hn ▸ hs)
    exact .withTarget (ht ▸ hx)
  · cases hkind : s.token.certificate? with
    | some y =>
        -- nothing comes with a certificate
        rw [Token.eq_of_certificate? hkind] at hx
        exact absurd hx (by simp [Token.bag])
    | none =>
        obtain ⟨_, _, _, _, token, answered⟩ := hd.answered_of_slot hs hn hkind
        rw [token] at hx
        cases answered with
        | byResponse asked given _ => exact .withResponse asked given hx
        | byList _ _ _ => cases hx

theorem knows_found (hd : Discovered sources config t date c)
    (hs : c.slot? h = some s) {d : Instant} (search : sources.issuer? config d s.token = some e) :
    sources.Knows t e.certificate := by
  rcases Sources.returns_of_issuer? search with hr | ⟨x, hx, rfl⟩
  · exact .returned hr
  · exact hd.knows_bag hs hx

/-- A certificate that is not the target was found as the issuer of a token that is there. -/
theorem found_of_entryAt? (hd : Discovered sources config t date c) (he : c.entryAt? h = some e)
    (hn : h ≠ target) :
    ∃ i signed, c.slot? i = some signed ∧
      sources.issuer? config date signed.token = some e := by
  obtain ⟨s, hs, hsourced⟩ := Option.bind_eq_some_iff.1 he
  obtain ⟨x, hx, -⟩ := Option.map_eq_some_iff.1 hsourced
  cases hd.origin hs hn with
  | @issuer i signed found there search sourced =>
      obtain rfl : found = e := Option.some.inj (sourced.symm.trans hsourced)
      exact ⟨i, signed, there, hd.date ▸ search⟩
  | @evidence _ _ _ evidence _ _ token =>
      rw [token] at hx
      cases evidence <;> cases hx

theorem knows_slot (hd : Discovered sources config t date c) (hs : c.slot? h = some s)
    {x : Certificate} (hx : s.token = .certificate x) : sources.Knows t x := by
  by_cases hn : h = target
  · obtain ⟨ht, -, -⟩ := hd.eq_target (hn ▸ hs)
    exact .target (ht ▸ hx)
  · obtain ⟨_, _, there, search⟩ := hd.found_of_entryAt? (entryAt?_of_slot hs hx) hn
    exact hd.knows_found there search

/-- At the handle of a certificate stands a certificate with its issuer and serial. -/
theorem filed_like (hd : Discovered sources config t date c) {x : Certificate}
    (hk : c.handleOf? (.certificate x) = some h) :
    ∃ s y, c.slot? h = some s ∧ s.token = .certificate y ∧ y.issuer.same x.issuer = true ∧
      y.serial = x.serial := by
  obtain ⟨s, hs, hkey⟩ := hd.filed.slot_of_handleOf? hk
  obtain ⟨y, hy, hi, hserial⟩ := Token.eq_certificate_of_key hkey
  exact ⟨s, y, hs, hy, hi, hserial⟩

theorem exists_entryAt?_of_handleOf? (hd : Discovered sources config t date c) {x : Certificate}
    (hk : c.handleOf? (.certificate x) = some h) : ∃ e, c.entryAt? h = some e := by
  obtain ⟨s, y, hs, hy, -, -⟩ := hd.filed_like hk
  exact ⟨_, entryAt?_of_slot hs hy⟩

/-- Where issuer and serial determine a certificate, it stands there itself. -/
theorem filed_itself (hd : Discovered sources config t date c) (hdist : sources.Distinct t)
    {x : Certificate} (hk : c.handleOf? (.certificate x) = some h) (hx : sources.Knows t x) :
    ∃ s, c.slot? h = some s ∧ s.token = .certificate x := by
  obtain ⟨s, y, hs, hy, hi, hserial⟩ := hd.filed_like hk
  obtain rfl : y = x := hdist (hd.knows_slot hs hy) hx hi hserial
  exact ⟨s, hs, hy⟩

end Context.Discovered
end SignatureTrust
