import SignatureTrust.Proofs.Discovery.Agreement
import SignatureTrust.Proofs.Discovery.IssuerLinks
import SignatureTrust.Proofs.Level.Coverage
import SignatureTrust.Proofs.Source.Revocation

/-!
# `Proofs.Level.SelfSufficiency` — a signature on level XL needs nobody else

A valid level XL says that what was gathered comes with the signature. It does not say that the
signature alone would have led there: the sources outside were asked too, and might have been the
ones that answered. That they were not needed is this file:

> with a valid level XL, **discovery without the sources outside makes the same context**
> (`discover_withoutOutside`).

The sources of a signature ask it first and the outside second. So an answer from outside was taken
only where nothing that came along would do. But every answer that was taken is in the context,
hence comes along, hence *would* have done. What the outside said and nobody took — an issuer that
was not accepted, an *unknown* that a list overruled — changes nothing when it is left out.

Encodings, keys and digests have to identify what they stand for (`Settings.Identifies`), and a
source of certificates has to answer with the subject that it was asked for. Nothing is asked of
what the outside says otherwise.
-/

set_option autoImplicit false

namespace SignatureTrust

open Context

/-- A source of certificates answers with the subject that it is asked for. -/
def CertificateSource.AnswersBySubject (source : CertificateSource) : Prop :=
  ∀ name, ∀ e ∈ source name, e.certificate.subject.same name = true

/-- A piece of evidence comes along, or a source outside gives it. -/
inductive EvidenceSource.Gives {α : Type} (along : List α) (outside : Option (EvidenceSource α))
    (a : α) : Prop
  | along (there : a ∈ along)
  | outside {source : EvidenceSource α} {x issuer : Certificate} {date : Instant}
      (asked : outside = some source) (given : source.getAt x issuer date = some a)

theorem EvidenceSource.gives_of_getAt {α : Type} {first : EvidenceSource α}
    {along : List α} {outside : Option (EvidenceSource α)} {x issuer : Certificate}
    {date : Instant} {a : α} (hfirst : first.getAt x issuer date = some a → a ∈ along)
    (h : (inTurn (first :: outside.toList)).getAt x issuer date = some a) :
    Gives along outside a := by
  rw [getAt_inTurn] at h
  rcases Option.or_eq_some_iff.1 h with h | ⟨-, h⟩
  · exact .along (hfirst h)
  · obtain ⟨source, asked, given⟩ := Option.bind_eq_some_iff.1 h
    exact .outside asked given

namespace Settings

variable {v : Settings} {s : Signature} {x : Certificate} {date : Instant} {c : Context} {t : Token}
variable {e : Entry} {h : Handle}

/-- The same settings with nobody outside to ask. -/
def withoutOutside (v : Settings) : Settings :=
  { v with certificates := none, crls := none, ocsps := none }

/-- What evidence is told apart by tells it apart, among all that can come up for a certificate of a
signature. -/
structure Identifies (v : Settings) (s : Signature) (x : Certificate) : Prop where
  byKey : (v.sources s).Distinct (.certificate x)
  byEncoding : ∀ {a b : Certificate}, (v.sources s).Knows (.certificate x) a →
    (v.sources s).Knows (.certificate x) b → a.encoding = b.encoding → a = b
  crls : ∀ {a b : Crl}, EvidenceSource.Gives s.embeddedCrls v.crls a →
    EvidenceSource.Gives s.embeddedCrls v.crls b → a.encoding = b.encoding → a = b
  ocsps : ∀ {a b : OcspResponse}, EvidenceSource.Gives s.embeddedOcsps v.ocsps a →
    EvidenceSource.Gives s.embeddedOcsps v.ocsps b → a.encoding = b.encoding → a = b
  digests : ∀ {a b : OcspResponse}, EvidenceSource.Gives s.embeddedOcsps v.ocsps a →
    EvidenceSource.Gives s.embeddedOcsps v.ocsps b →
    DigestAlgorithm.sha256.digest a.encoding = DigestAlgorithm.sha256.digest b.encoding →
      a.encoding = b.encoding

/-! ## What was taken comes along -/

def alongside (s : Signature) : CertificateStore := .ofCertificates .embedded s.embeddedCertificates

theorem returns_alongside (he : e ∈ (alongside s).entries) : (v.sources s).Returns e := by
  have given : e ∈ CertificateSource.inTurn
      ((alongside s).bySubject :: v.certificates.toList) e.certificate.subject :=
    List.mem_append_left _ (CertificateStore.mem_bySubject_iff.2 ⟨he, Name.same_refl _⟩)
  exact .external rfl given

theorem exists_alongside (hd : Discovered (v.sources s) v.config (.certificate x) date c)
    (hcov : Covers s c) (hid : v.Identifies s x) (hx : x ∈ s.embeddedCertificates)
    (he : c.entryAt? h = some e) :
    ∃ e' ∈ (alongside s).entries, e'.certificate = e.certificate := by
  obtain ⟨slot, hs, ht, -⟩ := slot_of_entryAt? he
  have hencoding : ∃ y ∈ s.embeddedCertificates, y.encoding = e.certificate.encoding := by
    by_cases hn : h = target
    · -- the level leaves the signing certificate out, because it comes along anyway
      obtain ⟨htarget, -, -⟩ := hd.eq_target (hn ▸ hs)
      obtain rfl := Token.certificate.inj (htarget.symm.trans ht)
      exact ⟨_, hx, rfl⟩
    · rcases hcov.certificates e (hd.gathered.mem_entries he hn) with hsame | hembedded
      · rw [hd.targetCertificate?, Option.any_some] at hsame
        exact ⟨x, hx, (Certificate.sameEncoding_iff.1 hsame).symm⟩
      · exact hembedded
  obtain ⟨y, hy, hye⟩ := hencoding
  obtain ⟨e', he', hey⟩ := CertificateStore.exists_mem_ofCertificates (p := .embedded) hy
  refine ⟨e', he', ?_⟩
  apply hid.byEncoding (.returned (returns_alongside he')) (hd.knows_slot hs ht)
  exact hey.trans hye

theorem gives_ocsp {source : OcspSource} {issuer : Certificate} {r : OcspResponse}
    (asked : (v.sources s).ocsp = some source) (given : source.getAt x issuer date = some r) :
    EvidenceSource.Gives s.embeddedOcsps v.ocsps r := by
  obtain rfl := Option.some.inj asked
  exact EvidenceSource.gives_of_getAt OcspSource.mem_of_getAt_ofList given

theorem gives_crl {source : CrlSource} {issuer : Certificate} {l : Crl}
    (asked : (v.sources s).crl = some source) (given : source.getAt x issuer date = some l) :
    EvidenceSource.Gives s.embeddedCrls v.crls l := by
  obtain rfl := Option.some.inj asked
  exact EvidenceSource.gives_of_getAt CrlSource.mem_of_getAt_ofList given

theorem evidence_of_key (hd : Discovered (v.sources s) v.config (.certificate x) date c)
    {slot : Slot} (hs : c.slot? h = some slot) (hkind : slot.token.certificate? = none) :
    h ≠ target ∧ ∃ evidence certificate issuer status, slot.token = evidence.token ∧
      Status.Answered (v.sources s).crypto (v.sources s).ocsp
        (v.sources s).crl certificate issuer date status evidence := by
  have hn : h ≠ target := by
    rintro rfl
    obtain ⟨htarget, -, -⟩ := hd.eq_target hs
    rw [htarget] at hkind
    cases hkind
  exact ⟨hn, hd.answered_of_slot hs hn hkind⟩

/-- A response that a covered context has comes along. -/
theorem mem_embeddedOcsps (hd : Discovered (v.sources s) v.config (.certificate x) date c)
    (hcov : Covers s c) (hid : v.Identifies s x) {r : OcspResponse}
    (hr : EvidenceSource.Gives s.embeddedOcsps v.ocsps r) (filed : c.handleOf? (.ocsp r) = some h) :
    r ∈ s.embeddedOcsps := by
  obtain ⟨slot, hs, hkey⟩ := hd.filed.slot_of_handleOf? filed
  obtain ⟨r', ht, hdigest⟩ := Token.eq_ocsp_of_key hkey
  obtain ⟨hn, evidence, _, _, _, hevidence, answered⟩ := evidence_of_key hd hs (by rw [ht]; rfl)
  have hr' : EvidenceSource.Gives s.embeddedOcsps v.ocsps r' := by
    rw [ht] at hevidence
    cases answered with
    | byResponse asked given _ =>
        obtain rfl := Token.ocsp.inj hevidence
        exact gives_ocsp asked given
    | byList _ _ _ => cases hevidence
  obtain ⟨r'', hr'', hencoding⟩ := hcov.ocsps r' (hd.gathered.mem_ocsps hs hn ht)
  obtain rfl := hid.ocsps (.along hr'') hr (hencoding.trans (hid.digests hr' hr hdigest))
  exact hr''

/-- For a list that a covered context has, one of the same issuer's comes along that was published
by the date. The list itself need not: lists of one issuer with one number are filed under one
key. -/
theorem exists_mem_embeddedCrls (hd : Discovered (v.sources s) v.config (.certificate x) date c)
    (hcov : Covers s c) (hid : v.Identifies s x) {l : Crl} (filed : c.handleOf? (.crl l) = some h) :
    ∃ l' ∈ s.embeddedCrls, l'.issuer.same l.issuer = true ∧ l'.thisUpdate ≤ date := by
  obtain ⟨slot, hs, hkey⟩ := hd.filed.slot_of_handleOf? filed
  obtain ⟨l', ht, hissuer⟩ := Token.eq_crl_of_key hkey
  obtain ⟨hn, evidence, _, _, _, hevidence, answered⟩ := evidence_of_key hd hs (by rw [ht]; rfl)
  rw [ht] at hevidence
  cases answered with
  | byResponse _ _ _ => cases hevidence
  | byList asked given status =>
      obtain rfl := Token.crl.inj hevidence
      obtain ⟨l'', hl'', hencoding⟩ := hcov.crls l' (hd.gathered.mem_crls hs hn ht)
      obtain rfl := hid.crls (.along hl'') (gives_crl asked given) hencoding
      exact ⟨l'', hl'', hissuer, (Status.genuine_of_ofCrl? status).2⟩

/-! ## So nobody outside had to be asked -/

theorem candidates_eq (t : Token) (name : Name) :
    (v.sources s).candidates t name =
      (v.withoutOutside.sources s).candidates t name ++
        v.certificates.toList.flatMap fun source => source name := by
  simp [Sources.candidates, sources, withoutOutside, CertificateSource.inTurn]

theorem issuers_eq {name : Name} (hname : t.signerName? = some name) :
    (v.sources s).issuers v.config date t =
      (v.withoutOutside.sources s).issuers v.config date t ++
        (v.certificates.toList.flatMap fun source => source name).filter
          ((v.sources s).accepts v.config date t) := by
  simp only [Sources.issuers, hname]
  rw [candidates_eq, List.filter_append]
  rfl

theorem mem_issuers_of_alongside {name : Name}
    {e' : Entry} (hname : t.signerName? = some name) (he' : e' ∈ (alongside s).entries)
    (hsame : e'.certificate = e.certificate) (hsubject : e.certificate.subject.same name = true)
    (ha : (v.sources s).accepts v.config date t e = true) :
    e' ∈ (v.withoutOutside.sources s).issuers v.config date t := by
  obtain ⟨y, -, rfl⟩ := CertificateStore.mem_ofCertificates he'
  obtain ⟨hvalid, -, hsigned⟩ := Sources.accepts_iff.1 ha
  simp only [Sources.issuers, hname]
  refine List.mem_filter.2 ⟨?_, Sources.accepts_iff.2 ⟨?_, fun _ => rfl, ?_⟩⟩
  · refine List.mem_append_right _
      (List.mem_append_left _ (CertificateStore.mem_bySubject_iff.2 ⟨he', ?_⟩))
    rw [hsame]
    exact hsubject
  · rw [hsame]
    exact hvalid
  · rw [hsame]
    exact hsigned

/-- **The issuer is found without the outside**, where the certificate that was found comes
along. -/
theorem issuer?_withoutOutside (hpolicy : v.config.issuerPolicy = .firstMatch)
    (hsubject : ∀ {source : CertificateSource}, v.certificates = some source →
      source.AnswersBySubject)
    (halong : ∀ {e : Entry}, (v.sources s).issuer? v.config date t = some e →
      ∃ e' ∈ (alongside s).entries, e'.certificate = e.certificate) :
    (v.withoutOutside.sources s).issuer? v.config date t =
      (v.sources s).issuer? v.config date t := by
  cases hname : t.signerName? with
  | none => simp only [Sources.issuer?, Sources.issuers, hname]
  | some name =>
      simp only [Sources.issuer?, issuers_eq hname, hpolicy] at halong ⊢
      cases hnear : (v.withoutOutside.sources s).issuers v.config date t with
      | cons e rest => rfl
      | nil =>
          rw [hnear, List.nil_append] at halong
          rw [List.nil_append]
          cases hfar : (v.certificates.toList.flatMap fun source => source name).filter
              ((v.sources s).accepts v.config date t) with
          | nil => rfl
          | cons e rest =>
              -- the first from outside would be the first that comes along
              exfalso
              obtain ⟨e', he', hsame⟩ := halong (e := e) (by rw [hfar]; rfl)
              have hmem : e ∈ (v.certificates.toList.flatMap fun source => source name).filter
                  ((v.sources s).accepts v.config date t) := by rw [hfar]; exact List.mem_cons_self
              obtain ⟨hgiven, ha⟩ := List.mem_filter.1 hmem
              obtain ⟨source, hsource, he⟩ := List.mem_flatMap.1 hgiven
              have hnear' := mem_issuers_of_alongside hname he' hsame
                (hsubject (Option.mem_toList.1 hsource) _ _ he) ha
              rw [hnear] at hnear'
              cases hnear'

/-- What a source that is asked first and one that is asked after it come to, with and without the
second. -/
theorem bind_getAt_cases {α : Type} (first : EvidenceSource α)
    (second : Option (EvidenceSource α)) (f : α → Option Status) (x issuer : Certificate)
    (d : Instant) :
    ((EvidenceSource.inTurn [first]).getAt x issuer d).bind f =
        ((EvidenceSource.inTurn (first :: second.toList)).getAt x issuer d).bind f ∨
      (first.getAt x issuer d = none ∧
        ((EvidenceSource.inTurn [first]).getAt x issuer d).bind f = none) := by
  have hfirst := EvidenceSource.getAt_inTurn first none x issuer d
  rw [Option.toList_none, Option.bind_none, Option.or_none] at hfirst
  rw [hfirst, EvidenceSource.getAt_inTurn]
  cases first.getAt x issuer d with
  | none => exact .inr ⟨rfl, rfl⟩
  | some a => exact .inl rfl

/-- **The status is found without the outside**, where the evidence it rests on is in a covered
context. -/
theorem check?_withoutOutside (hd : Discovered (v.sources s) v.config (.certificate x) date c)
    (hcov : Covers s c) (hid : v.Identifies s x)
    {y issuer : Certificate} (hfiled : ∀ {status : Status} {evidence : RevocationEvidence},
      Status.check? v.crypto (v.sources s).ocsp (v.sources s).crl y issuer date = some status →
      status.evidence = some evidence → ∃ h, c.handleOf? evidence.token = some h) :
    Status.check? v.crypto (v.withoutOutside.sources s).ocsp
      (v.withoutOutside.sources s).crl y issuer date =
      Status.check? v.crypto (v.sources s).ocsp (v.sources s).crl y issuer date := by
  have hocsp := bind_getAt_cases (OcspSource.ofList s.embeddedOcsps) v.ocsps
    (Status.ofResponse? v.crypto y issuer date) y issuer date
  have hcrl := bind_getAt_cases (CrlSource.ofList s.embeddedCrls) v.crls
    (Status.ofCrl? v.crypto y issuer date) y issuer date
  refine Status.orElse_congr (hocsp.imp id And.right) (hcrl.imp id And.right) ?_ ?_
  · intro status hcheck hstatus
    rcases hocsp with heq | ⟨hnone, -⟩
    · exact heq
    · -- the response that was taken comes along, and would have been an answer
      exfalso
      change ((EvidenceSource.inTurn
          (OcspSource.ofList s.embeddedOcsps :: v.ocsps.toList)).getAt y issuer date).bind
        (Status.ofResponse? v.crypto y issuer date) = some status at hstatus
      obtain ⟨r, hr, hr'⟩ := Option.bind_eq_some_iff.1 hstatus
      obtain ⟨h, hh⟩ := hfiled hcheck (Status.isAbout_of_ofResponse? hr').2
      have hmem := mem_embeddedOcsps hd hcov hid
        (EvidenceSource.gives_of_getAt OcspSource.mem_of_getAt_ofList hr) hh
      exact Status.getAt_ne_none_of_ofResponse? hmem hr' hnone
  · intro status hcheck hstatus
    rcases hcrl with heq | ⟨hnone, -⟩
    · exact heq
    · -- so does a list of the same issuer's
      exfalso
      change ((EvidenceSource.inTurn
          (CrlSource.ofList s.embeddedCrls :: v.crls.toList)).getAt y issuer date).bind
        (Status.ofCrl? v.crypto y issuer date) = some status at hstatus
      obtain ⟨l, hl, hl'⟩ := Option.bind_eq_some_iff.1 hstatus
      obtain ⟨h, hh⟩ := hfiled hcheck (Status.isAbout_of_ofCrl? hl').2
      obtain ⟨l', hmem, hsame, hdate⟩ := exists_mem_embeddedCrls hd hcov hid hh
      have hconcerns : CrlSource.concerns issuer l' = true :=
        Name.same_trans hsame (Status.concerns_of_ofCrl? hl')
      exact CrlSource.getAt_ofList_ne_none hmem hconcerns hdate hnone

theorem agreeOn_withoutOutside (hd : Discovered (v.sources s) v.config (.certificate x) date c)
    (hcov : Covers s c) (hid : v.Identifies s x) (hx : x ∈ s.embeddedCertificates)
    (hpolicy : v.config.issuerPolicy = .firstMatch)
    (hsubject : ∀ {source : CertificateSource}, v.certificates = some source →
      source.AnswersBySubject) :
    AgreeOn (v.sources s) (v.withoutOutside.sources s) v.config c := by
  obtain rfl : c.date = date := hd.date
  intro h slot r hs _ hground
  constructor
  · apply issuer?_withoutOutside hpolicy hsubject
    intro e search
    -- what was found is at its own handle, because issuer and serial determine it
    obtain ⟨i, filed⟩ := hground.filed_of_issuer? search
    obtain ⟨slot', hs', ht'⟩ := hd.filed_itself hid.byKey filed (hd.knows_found hs search)
    obtain ⟨e', he', hsame⟩ := exists_alongside hd hcov hid hx (entryAt?_of_slot hs' ht')
    exact ⟨e', he', hsame⟩
  · intro y e ht search
    rw [ht] at hground search
    apply check?_withoutOutside hd hcov hid
    intro status evidence answer rests
    exact hground.filed_of_check? search answer rests

/-- **A signature with a valid level XL leads to its context alone**: to the same tokens in the same
order with the same resolutions, and so to the same verdict on the chain. -/
theorem discover_withoutOutside (v : Settings) (s : Signature) (x : Certificate)
    (date : Instant) (timestamps : TimestampVerifier) (hx : x ∈ s.embeddedCertificates)
    (hpolicy : v.config.issuerPolicy = .firstMatch)
    (hsubject : ∀ {source : CertificateSource}, v.certificates = some source →
      source.AnswersBySubject)
    (hid : v.Identifies s x) :
    ∃ c, (ofTarget (.certificate x) date).discover (v.sources s) v.config = .ok c ∧
      ((Assessment.mk s (some c) v.crypto timestamps).xl.isValid = true →
        (ofTarget (.certificate x) date).discover
          (v.withoutOutside.sources s) v.withoutOutside.config = .ok c) := by
  obtain ⟨c, hc, hd⟩ := exists_discovered (.certificate x) date (v.sources s) v.config
  refine ⟨c, hc, ?_⟩
  intro hxl
  have hcov : Covers s c := Assessment.covers_of_xl hxl
  exact discover_of_agreeOn (agreeOn_withoutOutside hd hcov hid hx hpolicy hsubject) hc

end Settings

namespace Specimen

open Settings (gives_ocsp discover_withoutOutside)

/-- The root is trusted; it and its list can also be had outside. -/
def settings : Settings where
  crypto := crypto
  trustedList := .ofEntries .trustedList [.plain root .trustedList]
  certificates := some (CertificateStore.ofEntries .other [.plain root .other]).bySubject
  crls := some (.ofList [list])

/-- A signature that brings the leaf, the root and the root's list. -/
def signature : Signature where
  id := none
  signedInfo := ⟨none, "", []⟩
  references := []
  value := ⟨none, [], []⟩
  keyInfo := none
  signedProperties := none
  unsignedId := none
  unsigned :=
    [.certificateValues ⟨none, [leaf, root], []⟩, .revocationValues ⟨none, [list], [], []⟩]

theorem gives_no_ocsp {r : OcspResponse} :
    ¬ EvidenceSource.Gives signature.embeddedOcsps settings.ocsps r := by
  intro h
  cases h with
  | along there => cases there
  | outside asked _ => cases asked

theorem eq_list_of_gives {l : Crl}
    (h : EvidenceSource.Gives signature.embeddedCrls settings.crls l) : l = list := by
  cases h with
  | along there => exact List.mem_singleton.1 there
  | outside asked given =>
      obtain rfl := Option.some.inj asked
      exact List.mem_singleton.1 (CrlSource.mem_of_getAt_ofList given)

theorem knows_of_signature {x : Certificate}
    (hx : (settings.sources signature).Knows (.certificate leaf) x) :
    x = leaf ∨ x = root := by
  cases hx with
  | target is => exact .inl (Token.certificate.inj is).symm
  | withTarget along => cases along
  | @returned e returns =>
      cases returns with
      | trusted asked given =>
          obtain rfl := Option.some.inj asked
          obtain ⟨hm, -⟩ := CertificateStore.mem_bySubject_iff.1 given
          exact .inr (congrArg Entry.certificate (List.mem_singleton.1 hm))
      | external asked given =>
          obtain rfl := Option.some.inj asked
          rcases List.mem_append.1 given with given | given
          · obtain ⟨hm, -⟩ := CertificateStore.mem_bySubject_iff.1 given
            obtain ⟨y, hy, rfl⟩ := CertificateStore.mem_ofCertificates hm
            rcases List.mem_cons.1 hy with rfl | hy
            · exact .inl rfl
            · exact .inr (List.mem_singleton.1 hy)
          · rw [settings, Option.toList_some, List.map_singleton, List.flatten_singleton] at given
            obtain ⟨hm, -⟩ := CertificateStore.mem_bySubject_iff.1 given
            exact .inr (congrArg Entry.certificate (List.mem_singleton.1 hm))
  | withResponse asked given _ => exact absurd (gives_ocsp asked given) gives_no_ocsp

theorem identifies_leaf : settings.Identifies signature leaf where
  byKey := by
    intro a b ha hb _ hserial
    exact eq_of_eq_on (f := Certificate.serial) (by decide) (knows_of_signature ha)
      (knows_of_signature hb) hserial
  byEncoding := by
    intro a b ha hb hencoding
    exact eq_of_eq_on (f := Certificate.encoding) (by decide) (knows_of_signature ha)
      (knows_of_signature hb) hencoding
  crls ha hb _ := (eq_list_of_gives ha).trans (eq_list_of_gives hb).symm
  ocsps ha _ _ := absurd ha gives_no_ocsp
  digests ha _ _ := absurd ha gives_no_ocsp

theorem answersBySubject {source : CertificateSource} (h : settings.certificates = some source) :
    source.AnswersBySubject := by
  obtain rfl := Option.some.inj h
  exact fun _ _ he => (CertificateStore.mem_bySubject_iff.1 he).2

def timestamps : TimestampVerifier := ⟨crypto, ⟨5⟩, none⟩

/-- The signature is on level XL, and leads to its context alone. -/
theorem signature_withoutOutside : settings.Identifies signature leaf ∧
    ∃ c, (Context.ofTarget (.certificate leaf) ⟨5⟩).discover
      (settings.sources signature) settings.config = .ok c ∧
      (Assessment.mk signature (some c) settings.crypto timestamps).xl.isValid = true ∧
      (Context.ofTarget (.certificate leaf) ⟨5⟩).discover
        (settings.withoutOutside.sources signature)
        settings.withoutOutside.config = .ok c := by
  have hleaf : leaf ∈ signature.embeddedCertificates := List.mem_cons_self
  obtain ⟨c, hc, halone⟩ := discover_withoutOutside settings signature leaf
    ⟨5⟩ timestamps hleaf rfl answersBySubject identifies_leaf
  have hrun : ((Context.ofTarget (.certificate leaf) ⟨5⟩).discover (settings.sources signature)
      settings.config).toOption.any (fun c =>
        (Assessment.mk signature (some c) settings.crypto timestamps).xl.isValid) = true := by
          decide +kernel
  rw [hc] at hrun
  exact ⟨identifies_leaf, c, hc, hrun, halone hrun⟩

end Specimen
end SignatureTrust
