import SignatureTrust.Proofs.Discovery.IssuerLinks
import SignatureTrust.Proofs.Source.Revocation

/-!
# `Proofs.Discovery.RecordedEvidence` — whether the evidence on record is what was used

A status rests on the list or response that a source gave. What the context records of it is a
handle, and the handle is the one that the **key** of the evidence has: under that key another piece
of evidence may have been filed before. Levels and the verdict on a chain look at what is filed, so
it matters whether that is what was used.

> It is, unless **something was mistaken for it**: a list with its issuer and number, a response
> with its digest, but another encoding (`evidence_kept_unless_mistaken`).

A number tells the lists of one issuer apart, not those of two issuers with one name, and nothing
checks that an issuer counts. Sources that choose a list by the issuer's name alone give only one
for each name, so with them a list can be mistaken for the target at most
(`evidence_kept_of_answersByName`).

What is used is also among what is needed. The target is the exception, as it is not part of its own
evidence; it takes two certificates that issued each other for a list to be (`CrossCertified`).
-/

set_option autoImplicit false

namespace SignatureTrust

/-- What a list is filed under beside its issuer. -/
def Crl.filingNumber (l : Crl) : Octets :=
  match l.number with
  | some n => n.octets
  | none => DigestAlgorithm.sha256.digest l.encoding

/-- A token has the key of a piece of evidence, and is another one. -/
inductive Mistaken : Token → RevocationEvidence → Prop
  | list {l l' : Crl} (issuer : l.issuer.same l'.issuer = true)
      (number : l.filingNumber = l'.filingNumber) (another : l.encoding ≠ l'.encoding) :
      Mistaken (.crl l) (.crl l')
  | response {r r' : OcspResponse}
      (digest : DigestAlgorithm.sha256.digest r.encoding =
        DigestAlgorithm.sha256.digest r'.encoding)
      (another : r.encoding ≠ r'.encoding) : Mistaken (.ocsp r) (.ocsp r')

section

variable {t : Token} {evidence : RevocationEvidence}

theorem RevocationEvidence.eq_of_token {a b : RevocationEvidence} (h : a.token = b.token) :
    a = b := by
  cases a with
  | crl _ =>
      cases b with
      | crl _ => rw [Token.crl.inj h]
      | ocsp _ => cases h
  | ocsp _ =>
      cases b with
      | crl _ => cases h
      | ocsp _ => rw [Token.ocsp.inj h]

/-- Under the key of a piece of evidence is evidence of its kind. -/
theorem RevocationEvidence.exists_of_key (h : t.key = evidence.token.key) :
    ∃ a : RevocationEvidence, t = a.token := by
  cases evidence with
  | crl l =>
      obtain ⟨l', rfl, -⟩ := Token.eq_crl_of_key h
      exact ⟨.crl l', rfl⟩
  | ocsp r =>
      obtain ⟨r', rfl, -⟩ := Token.eq_ocsp_of_key h
      exact ⟨.ocsp r', rfl⟩

/-- **Under the key of a piece of evidence is that evidence, or something mistaken for it.** -/
theorem sameEncoding_or_mistaken (h : t.key = evidence.token.key) :
    t.sameEncoding evidence.token = true ∨ Mistaken t evidence := by
  cases evidence with
  | crl l =>
      obtain ⟨l', rfl, issuer⟩ := Token.eq_crl_of_key h
      by_cases he : l'.encoding = l.encoding
      · exact .inl (by simp [Token.sameEncoding, RevocationEvidence.token, he])
      · exact .inr (.list issuer (TokenKey.crl.inj h).2 he)
  | ocsp r =>
      obtain ⟨r', rfl, digest⟩ := Token.eq_ocsp_of_key h
      by_cases he : r'.encoding = r.encoding
      · exact .inl (by simp [Token.sameEncoding, RevocationEvidence.token, he])
      · exact .inr (.response digest he)

end

namespace Sources

/-- A piece of evidence can come up: a status may rest on it, or it is the target. -/
inductive ComesUp (sources : Sources) (target : Token) (date : Instant)
    (evidence : RevocationEvidence) : Prop
  | target (is : target = evidence.token)
  | answers {certificate issuer : Certificate} {status : Status}
      (answered : Status.Answered sources.crypto sources.ocsp sources.crl certificate issuer date
        status evidence)

/-- Nothing that can come up is mistaken for anything else. -/
def EvidenceDistinct (sources : Sources) (target : Token) (date : Instant) : Prop :=
  ∀ {a b : RevocationEvidence}, sources.ComesUp target date a →
    sources.ComesUp target date b → ¬ Mistaken a.token b

end Sources

namespace Context

variable {sources : Sources} {config : Config} {t : Token} {date : Instant} {c : Context}
variable {h : Handle} {i : Option Handle} {s : Slot} {evidence : RevocationEvidence}

/-- The status of a certificate rests on a piece of evidence, with this handle on record for it. -/
inductive RestsOn (c : Context) (i : Option Handle) (evidence : RevocationEvidence) : Prop
  | intro {h j : Handle} {s : Slot} {status : Status} (there : c.slot? h = some s)
      (kind : s.token.certificate?.isSome = true)
      (recorded : s.resolution = some (.checked j (some status) i))
      (rests : status.evidence = some evidence)

/-- A piece of evidence is among what is needed, by its encoding. -/
def Needs (c : Context) : RevocationEvidence → Prop
  | .crl l => ∃ l' ∈ c.neededCrls, l'.sameEncoding l = true
  | .ocsp r => ∃ r' ∈ c.neededOcsps, r'.sameEncoding r = true

/-- At the handle on record stands the evidence that was used, and unless it is the target it is
among what is needed. -/
def EvidenceKept (c : Context) : Prop :=
  ∀ {i : Option Handle} {evidence : RevocationEvidence}, c.RestsOn i evidence →
    ∃ h s, i = some h ∧ c.slot? h = some s ∧ s.token.sameEncoding evidence.token = true ∧
      (h ≠ target → c.Needs evidence)

/-- The handle on record and the evidence that was used, for the certificate at a handle. -/
def usedAt? (c : Context) (h : Handle) : Option (Option Handle × Token) :=
  (c.resolutionAt? h).bind fun r => r.status?.bind fun s => s.evidence.map fun e =>
    (r.evidence?, e.token)

/-! ## What stands at the handle -/

theorem Gathered.needs (hg : c.Gathered) (hs : c.slot? h = some s) (hn : h ≠ target)
    (hsame : s.token.sameEncoding evidence.token = true) : c.Needs evidence := by
  cases evidence with
  | crl l =>
      cases ht : s.token with
      | crl l' => exact ⟨l', hg.mem_crls hs hn ht, by rwa [ht] at hsame⟩
      | certificate _ | ocsp _ | timestamp _ => rw [ht] at hsame; cases hsame
  | ocsp r =>
      cases ht : s.token with
      | ocsp r' => exact ⟨r', hg.mem_ocsps hs hn ht, by rwa [ht] at hsame⟩
      | certificate _ | crl _ | timestamp _ => rw [ht] at hsame; cases hsame

/-- A status is recorded for a certificate whose issuer was found, with that issuer and the handle
that its evidence is filed under. -/
theorem Grounded.filed_of_status {status : Status}
    (hg : Grounded sources config c t (.checked h (some status) i))
    (rests : status.evidence = some evidence) :
    ∃ x e j, sources.issuer? config c.date (.certificate x) = some e ∧
      status.issuer = some e.certificate ∧ i = some j ∧
      c.handleOf? evidence.token = some j ∧
      Status.Answered sources.crypto sources.ocsp sources.crl x e.certificate c.date status
        evidence := by
  cases hg with
  | status search _ answer rests' evidenceFiled =>
      obtain ⟨used, hused, answered⟩ := Status.answered_of_check? answer
      obtain rfl := Option.some.inj (rests.symm.trans rests')
      obtain rfl := Option.some.inj (rests.symm.trans hused)
      exact ⟨_, _, _, search, (Status.isAbout_of_check? answer).issuer, rfl, evidenceFiled,
        answered⟩

theorem Discovered.filed_of_restsOn (hd : Discovered sources config t date c)
    (hr : c.RestsOn i evidence) :
    ∃ h, i = some h ∧ c.handleOf? evidence.token = some h ∧
      sources.ComesUp t date evidence := by
  obtain ⟨there, -, recorded, rests⟩ := hr
  obtain ⟨_, _, j, -, -, hj, filed, answered⟩ :=
    (hd.grounded_of_link ⟨⟨_, there⟩, recorded, rfl⟩).filed_of_status rests
  exact ⟨j, hj, filed, .answers (hd.date ▸ answered)⟩

/-- Where a status is on record there is a certificate that was checked. -/
theorem Discovered.slot_of_status? {r : Resolution}
    {status : Status} (hd : Discovered sources config t date c) (hr : c.resolutionAt? h = some r)
    (hst : r.status? = some status) :
    ∃ s j i, r = .checked j (some status) i ∧ c.slot? h = some s ∧
      s.token.certificate?.isSome = true ∧
      s.resolution = some r := by
  obtain ⟨s, hs, hrec⟩ := Option.bind_eq_some_iff.1 hr
  cases r with
  | noCheckNeeded _ | unresolved _ _ => cases hst
  | checked j _ i =>
      cases hst
      have hkind := (hd.grounded_of_link ⟨⟨_, hs⟩, hrec, rfl⟩).certificate_of_status? rfl
      exact ⟨s, j, i, rfl, hs, hkind, hrec⟩

theorem Discovered.restsOn_of_usedAt? (hd : Discovered sources config t date c)
    (hused : c.usedAt? h = some (i, evidence.token)) : c.RestsOn i evidence := by
  obtain ⟨r, hr, hused⟩ := Option.bind_eq_some_iff.1 hused
  obtain ⟨status, hstatus, hused⟩ := Option.bind_eq_some_iff.1 hused
  obtain ⟨used, hrests, hpair⟩ := Option.map_eq_some_iff.1 hused
  obtain ⟨rfl, htoken⟩ := Prod.mk.inj hpair
  obtain rfl := RevocationEvidence.eq_of_token htoken
  obtain ⟨s, j, i, rfl, hs, hkind, hrec⟩ := hd.slot_of_status? hr hstatus
  exact .intro hs hkind hrec hrests

/-- Evidence that is there came up. -/
theorem Discovered.comesUp_of_slot (hd : Discovered sources config t date c)
    (hs : c.slot? h = some s) (htoken : s.token = evidence.token) :
    sources.ComesUp t date evidence := by
  by_cases hn : h = target
  · obtain ⟨ht, -, -⟩ := hd.eq_target (hn ▸ hs)
    exact .target (ht.symm.trans htoken)
  · have hkind : s.token.certificate? = none :=
      Token.certificate?_of_evidence_key (congrArg Token.key htoken)
    obtain ⟨used, _, _, _, token, answered⟩ := hd.answered_of_slot hs hn hkind
    obtain rfl := RevocationEvidence.eq_of_token (token.symm.trans htoken)
    exact .answers answered

/-- **What stands at the handle on record has the key of what was used**, so it is that or was
mistaken for it. -/
theorem Discovered.slot_of_restsOn (hd : Discovered sources config t date c)
    (hr : c.RestsOn i evidence) :
    ∃ h s, i = some h ∧ c.slot? h = some s ∧ s.token.key = evidence.token.key ∧
      (¬ Mistaken s.token evidence →
        s.token.sameEncoding evidence.token = true ∧ (h ≠ target → c.Needs evidence)) := by
  obtain ⟨h, hi, filed, -⟩ := hd.filed_of_restsOn hr
  obtain ⟨s, hs, hkey⟩ := hd.filed.slot_of_handleOf? filed
  refine ⟨h, s, hi, hs, hkey, ?_⟩
  intro hno
  have hsame := (sameEncoding_or_mistaken hkey).resolve_right hno
  exact ⟨hsame, fun hn => hd.gathered.needs hs hn hsame⟩

theorem Discovered.evidenceKept_of_distinct (hd : Discovered sources config t date c)
    (hdist : sources.EvidenceDistinct t date) : c.EvidenceKept := by
  intro i evidence hr
  obtain ⟨h, s, hi, hs, hkey, hkept⟩ := hd.slot_of_restsOn hr
  obtain ⟨_, -, -, hused⟩ := hd.filed_of_restsOn hr
  obtain ⟨there, htoken⟩ := RevocationEvidence.exists_of_key hkey
  have hno : ¬ Mistaken s.token evidence := by
    rw [htoken]
    exact hdist (hd.comesUp_of_slot hs htoken) hused
  exact ⟨h, s, hi, hs, hkept hno⟩

/-- **Discovery keeps the evidence it used, except what something was mistaken for**: under its key,
and among what is needed unless it is the target. Where all that can come up is told apart by its
key, nothing is mistaken. -/
theorem evidence_kept_unless_mistaken (t : Token) (date : Instant) (sources : Sources)
    (config : Config) :
    ∃ c, (ofTarget t date).discover sources config = .ok c ∧
      (∀ {i : Option Handle} {evidence : RevocationEvidence}, c.RestsOn i evidence →
        ∃ h s, i = some h ∧ c.slot? h = some s ∧ s.token.key = evidence.token.key ∧
          (¬ Mistaken s.token evidence →
            s.token.sameEncoding evidence.token = true ∧ (h ≠ target → c.Needs evidence))) ∧
      (sources.EvidenceDistinct t date → c.EvidenceKept) := by
  obtain ⟨c, hc, hd⟩ := exists_discovered t date sources config
  exact ⟨c, hc, hd.slot_of_restsOn, hd.evidenceKept_of_distinct⟩

end Context

namespace Specimen

open Context

/-- With the leaf nothing but the root's list comes up. -/
theorem eq_list_of_comesUp {date : Instant} {evidence : RevocationEvidence}
    (comes : sources.ComesUp (.certificate leaf) date evidence) : evidence = .crl list := by
  cases comes with
  | target is => cases evidence <;> cases is
  | answers answered =>
      cases answered with
      | byResponse asked _ _ => cases asked
      | byList asked given _ =>
          obtain rfl := Option.some.inj asked
          obtain rfl := List.mem_singleton.1 (CrlSource.mem_of_getAt_ofList given)
          rfl

theorem evidenceDistinct_leaf : sources.EvidenceDistinct (.certificate leaf) ⟨5⟩ := by
  intro a b ha hb hm
  obtain rfl := eq_list_of_comesUp ha
  obtain rfl := eq_list_of_comesUp hb
  cases hm with
  | list _ _ another => exact another rfl

/-- The leaf's status rests on the root's list, which is kept. -/
theorem leaf_evidenceKept : sources.EvidenceDistinct (.certificate leaf) ⟨5⟩ ∧
    ∃ c, (ofTarget (.certificate leaf) ⟨5⟩).discover sources {} = .ok c ∧
      c.usedAt? target = some (some ⟨2⟩, .crl list) ∧ c.EvidenceKept := by
  obtain ⟨c, hc, -, hkept⟩ :=
    evidence_kept_unless_mistaken (.certificate leaf) ⟨5⟩ sources {}
  have hrun : ((ofTarget (.certificate leaf) ⟨5⟩).discover sources {}).toOption.bind
      (·.usedAt? target) = some (some ⟨2⟩, .crl list) := by decide +kernel
  rw [hc] at hrun
  exact ⟨evidenceDistinct_leaf, c, hc, hrun, hkept evidenceDistinct_leaf⟩

end Specimen

/-! ## Lists chosen by the issuer's name -/

/-- A source gives one list for each name of an issuer. -/
def CrlSource.AnswersByName (source : CrlSource) : Prop :=
  ∀ {x y issuer issuer' : Certificate} {date : Instant},
    issuer.subject.same issuer'.subject = true →
    source.getAt x issuer date = source.getAt y issuer' date

theorem CrlSource.answersByName_ofList (crls : List Crl) :
    (CrlSource.ofList crls).AnswersByName := by
  intro x y issuer issuer' date hname
  have hconcerns : CrlSource.concerns issuer = CrlSource.concerns issuer' := by
    funext l
    simp [CrlSource.concerns, Name.same, Name.same_iff.1 hname]
  simp only [CrlSource.ofList, hconcerns]

namespace Sources

variable {sources : Sources} {t : Token} {date : Instant}

/-- Two lists under one name come from issuers with one name. -/
theorem same_of_ofCrl? {x y issuer issuer' : Certificate}
    {l l' : Crl} {s s' : Status} (hs : Status.ofCrl? sources.crypto x issuer date l = some s)
    (hs' : Status.ofCrl? sources.crypto y issuer' date l' = some s')
    (h : l.issuer.same l'.issuer = true) :
    issuer.subject.same issuer'.subject = true := by
  have hsigned := (Status.genuine_of_ofCrl? hs).1
  have hsigned' := (Status.genuine_of_ofCrl? hs').1
  simp only [Token.isSignedBy, Token.namesSigner, Bool.and_eq_true] at hsigned hsigned'
  exact Name.same_trans (Name.same_trans hsigned.1 h) (Name.same_comm _ _ ▸ hsigned'.1)

/-- Where lists are chosen by name, two statuses that rest on lists under one name rest on one
list. -/
theorem list_eq_of_answersByName {x y issuer issuer' : Certificate} {l l' : Crl}
    {status status' : Status} (hname : ∀ source ∈ sources.crl, source.AnswersByName)
    (ha : Status.Answered sources.crypto sources.ocsp sources.crl x issuer date status (.crl l))
    (hb : Status.Answered sources.crypto sources.ocsp sources.crl y issuer' date status' (.crl l'))
    (h : l.issuer.same l'.issuer = true) : l = l' := by
  cases ha with
  | @byList source _ asked given gives =>
      cases hb with
      | byList asked' given' gives' =>
          obtain rfl := Option.some.inj (asked.symm.trans asked')
          have hone : source.getAt x issuer date = source.getAt y issuer' date :=
            hname source asked (same_of_ofCrl? gives gives' h)
          rw [given, given'] at hone
          exact Option.some.inj hone

/-- Where lists are chosen by name and the target is neither list nor response, only digests can
deceive. -/
theorem evidenceDistinct_of_answersByName (htarget : ∀ a : RevocationEvidence, t ≠ a.token)
    (hname : ∀ source ∈ sources.crl, source.AnswersByName)
    (hdigest : ∀ {r r' : OcspResponse}, sources.ComesUp t date (.ocsp r) →
      sources.ComesUp t date (.ocsp r') → DigestAlgorithm.sha256.digest r.encoding =
      DigestAlgorithm.sha256.digest r'.encoding → r.encoding = r'.encoding) :
    sources.EvidenceDistinct t date := by
  have hanswers : ∀ {a : RevocationEvidence}, sources.ComesUp t date a → ∃ x issuer status,
      Status.Answered sources.crypto sources.ocsp sources.crl x issuer date status a := by
    intro a ha
    cases ha with
    | target is => exact absurd is (htarget _)
    | answers answered => exact ⟨_, _, _, answered⟩
  intro a b ha hb hm
  generalize htoken : a.token = token at hm
  cases hm with
  | @list l l' issuer _ another =>
      obtain rfl := RevocationEvidence.eq_of_token (b := .crl l) htoken
      obtain ⟨_, _, _, answered⟩ := hanswers ha
      obtain ⟨_, _, _, answered'⟩ := hanswers hb
      exact another
        (congrArg Crl.encoding (list_eq_of_answersByName hname answered answered' issuer))
  | @response r r' digest another =>
      obtain rfl := RevocationEvidence.eq_of_token (b := .ocsp r) htoken
      exact another (hdigest ha hb digest)

end Sources

/-- Where lists are chosen by name, a list under the key of one that was used is that list, unless
it is the target. -/
theorem Context.Discovered.eq_list_of_key {sources : Sources} {config : Config}
    {t : Token} {date : Instant} {c : Context} {h : Handle} {slot : Slot} {x issuer : Certificate}
    {status : Status} {l l' : Crl} (hd : Discovered sources config t date c)
    (hname : ∀ source ∈ sources.crl, source.AnswersByName) (hs : c.slot? h = some slot)
    (hn : h ≠ target) (hkey : slot.token.key = (Token.crl l).key) (ht : slot.token = .crl l')
    (answered : Status.Answered sources.crypto sources.ocsp sources.crl x issuer date status
      (.crl l)) : l' = l := by
  obtain ⟨l₁, ht₁, hissuer⟩ := Token.eq_crl_of_key hkey
  obtain rfl : l' = l₁ := Token.crl.inj (ht.symm.trans ht₁)
  obtain ⟨used, _, _, _, token, answered'⟩ := hd.answered_of_slot hs hn (by rw [ht]; rfl)
  obtain rfl : used = .crl l' := RevocationEvidence.eq_of_token (token.symm.trans ht)
  exact Sources.list_eq_of_answersByName hname answered' answered hissuer

/-- **With lists chosen by the issuer's name the evidence that was used is kept**, unless the target
is evidence itself. -/
theorem Context.evidence_kept_of_answersByName (t : Token) (date : Instant)
    (sources : Sources) (config : Config) (htarget : ∀ a : RevocationEvidence, t ≠ a.token)
    (hname : ∀ source ∈ sources.crl, source.AnswersByName)
    (hdigest : ∀ {r r' : OcspResponse}, sources.ComesUp t date (.ocsp r) →
      sources.ComesUp t date (.ocsp r') → DigestAlgorithm.sha256.digest r.encoding =
      DigestAlgorithm.sha256.digest r'.encoding → r.encoding = r'.encoding) :
    ∃ c, (ofTarget t date).discover sources config = .ok c ∧ c.EvidenceKept := by
  obtain ⟨c, hc, hd⟩ := exists_discovered t date sources config
  exact ⟨c, hc,
    hd.evidenceKept_of_distinct (Sources.evidenceDistinct_of_answersByName htarget hname hdigest)⟩

namespace CrossCertified

open Context Specimen

/-- A certificate of the root for a CA. -/
def ca : Certificate := certificate "CN=CA" "CN=Root" 2 1 0

/-- A certificate of the CA for the root. -/
def cross : Certificate := certificate "CN=Root" "CN=CA" 3 0 1

def firstList :
    Crl := { list with encoding := [2], issuer := ⟨"CN=CA"⟩, signed := signedWith 1 }

/-- Another list of the CA, to which it gave the number of the first. -/
def secondList : Crl := { firstList with encoding := [3] }

/-- The two certificates can be had, the root's list, and one of the CA. -/
def sourcesWith (listOfCa : Crl) : Sources where
  crypto := crypto
  external :=
    some (CertificateStore.ofEntries .other [.plain ca .other, .plain cross .other]).bySubject
  crl := some (.ofList [listOfCa, list])

/-- The status of the root's certificate rests on the target, which is on record and not among what
is needed. -/
theorem firstList_not_needed :
    ∃ c, (ofTarget (.crl firstList) ⟨5⟩).discover (sourcesWith firstList) {} = .ok c ∧
      ¬ ∀ {i : Option Handle} {evidence : RevocationEvidence}, c.RestsOn i evidence →
        ∃ h s, i = some h ∧ c.slot? h = some s ∧
          s.token.sameEncoding evidence.token = true ∧ c.Needs evidence := by
  have hrun : ((ofTarget (.crl firstList) ⟨5⟩).discover (sourcesWith firstList) {}).toOption.any
      (fun c =>
      decide (c.usedAt? ⟨2⟩ = some (some target, .crl firstList)) &&
        c.neededCrls.all fun l => !l.sameEncoding firstList) = true := by decide +kernel
  obtain ⟨c, hc, hd, htest⟩ := exists_discovered_of_any hrun
  obtain ⟨hused, hnone⟩ := Bool.and_eq_true_iff.1 htest
  refine ⟨c, hc, ?_⟩
  intro hneeded
  have hrests : c.RestsOn (some target) (.crl firstList) :=
    hd.restsOn_of_usedAt? (of_decide_eq_true hused)
  obtain ⟨_, _, -, -, -, l, hl, hsame⟩ := hneeded hrests
  have hother := List.all_eq_true.1 hnone l hl
  rw [hsame] at hother
  cases hother

/-- The status of the root's certificate rests on the second list, and what is on record for it is
the first, the target. -/
theorem secondList_not_kept :
    ∃ c, (ofTarget (.crl firstList) ⟨5⟩).discover (sourcesWith secondList) {} = .ok c ∧
      ¬ c.EvidenceKept := by
  have hrun : ((ofTarget (.crl firstList) ⟨5⟩).discover
      (sourcesWith secondList) {}).toOption.any (fun c =>
      decide (c.usedAt? ⟨2⟩ = some (some target, .crl secondList))) = true := by decide +kernel
  obtain ⟨c, hc, hd, hused⟩ := exists_discovered_of_any hrun
  refine ⟨c, hc, ?_⟩
  intro hkept
  have hrests : c.RestsOn (some target) (.crl secondList) :=
    hd.restsOn_of_usedAt? (of_decide_eq_true hused)
  obtain ⟨h, s, hi, hs, hsame, -⟩ := hkept hrests
  obtain rfl := Option.some.inj hi
  obtain ⟨ht, -, -⟩ := hd.eq_target hs
  rw [ht] at hsame
  exact absurd hsame (by decide)

end CrossCertified
end SignatureTrust
