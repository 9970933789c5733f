import SignatureTrust.Proofs.Status

/-!
# `Proofs.Status.Justification` — what stands behind an answer about a certificate

Sources may answer anything: evidence about somebody else, forged, of next year. So whatever
`Status.check?` says has to be borne out by the evidence that it names, and nothing that does not
bear out an answer may keep one from being given:

> **a status is answered exactly when it is justified** (`check?_eq_some_iff_justified`): by a list
> or a response that counts, read as it is written, where the other kind of evidence does not come
> before it.

What counts is said here without `check?` (`ListCounts`, `ResponseCounts`). A response comes before
a list when it says *good* or *revoked*; one that says *unknown* comes after every list that counts,
and a response that does not count is nowhere.
-/

set_option autoImplicit false

namespace SignatureTrust.Status

variable {crypto : Crypto} {ocsp : Option OcspSource} {crl : Option CrlSource}
variable {x issuer : Certificate} {date : Instant} {s : Status} {since : Option Instant}

/-! ## What counts -/

/-- A list that the source gives is the issuer's, by name and by signature, and was published by the
date. -/
structure ListCounts (crypto : Crypto) (crl : Option CrlSource) (x issuer : Certificate)
    (date : Instant) (l : Crl) :
    Prop where
  given : ∃ source, crl = some source ∧ source.getAt x issuer date = some l
  named : issuer.subject.same l.issuer = true
  signed : (Token.crl l).isSignedBy crypto issuer = true
  published : l.thisUpdate ≤ date

/-- A response that the source gives was signed by the issuer, or by the responder that came along
and that the issuer certified, and its first entry for the serial was given by the date. -/
structure ResponseCounts (crypto : Crypto) (ocsp : Option OcspSource) (x issuer : Certificate)
    (date : Instant) (r : OcspResponse) (single : SingleResponse) : Prop where
  given : ∃ source, ocsp = some source ∧ source.getAt x issuer date = some r
  signed : (Token.ocsp r).isSignedBy crypto issuer = true ∨
    ∃ responder, r.responderCertificate? = some responder ∧
      (Token.certificate responder).isSignedBy crypto issuer = true ∧
        (Token.ocsp r).isSignedBy crypto responder = true
  first : r.find? x.serial = some single
  published : single.thisUpdate ≤ date

/-! ## What it says -/

/-- A status says of a certificate that was revoked at some time, or never, what is so at a date. -/
inductive RevokedAsOf (s : Status) (date : Instant) : Option Instant → Prop
  | already {d : Instant} (byThen : d ≤ date) (validity : s.validity = .revoked)
      (since : s.revokedAt = some d) :
      RevokedAsOf _ _ (some d)
  | later {d : Instant} (notYet : date < d) (validity : s.validity = .valid)
      (noDate : s.revokedAt = none) :
      RevokedAsOf _ _ (some d)
  | never (validity : s.validity = .valid) (noDate : s.revokedAt = none) : RevokedAsOf _ _ none

/-- A status says what an answer says. -/
inductive Follows (s : Status) (date : Instant) : OcspAnswer → Prop
  | good (tells : s.RevokedAsOf date none) : Follows _ _ .good
  | revoked {d : Instant} (tells : s.RevokedAsOf date (some d)) : Follows _ _ (.revoked d)
  | unknown (validity : s.validity = .unknown) (noDate : s.revokedAt = none) : Follows _ _ .unknown

/-- Why a status is the answer. -/
inductive Justified (crypto : Crypto) (ocsp : Option OcspSource) (crl : Option CrlSource)
    (x issuer : Certificate) (date : Instant) (s : Status) : Prop
  | byList {l : Crl} (about : s.IsAbout x issuer date)
      (rests : s.evidence = some (.crl l)) (counts : ListCounts crypto crl x issuer date l)
      (tells : s.RevokedAsOf date ((l.find? x.serial).map (·.date)))
      (noResponse : ∀ {r : OcspResponse} {single : SingleResponse},
        ResponseCounts crypto ocsp x issuer date r single → single.answer = .unknown)
  | byResponse {r : OcspResponse} {single : SingleResponse} (about : s.IsAbout x issuer date)
      (rests : s.evidence = some (.ocsp r))
      (counts : ResponseCounts crypto ocsp x issuer date r single)
      (tells : s.Follows date single.answer)
      (noList : single.answer = .unknown →
        ∀ {l : Crl}, ¬ ListCounts crypto crl x issuer date l)

/-! ## Reading evidence -/

theorem revokedAsOf_iff :
    s.RevokedAsOf date since ↔ asOf date since = (s.validity, s.revokedAt) := by
  constructor
  · intro h
    cases h with
    | already byThen validity since => simp [asOf, byThen, validity, since]
    | later notYet validity noDate => simp [asOf, Instant.not_le.2 notYet, validity, noDate]
    | never validity noDate => simp [asOf, validity, noDate]
  · intro h
    cases since with
    | none =>
        obtain ⟨hvalidity, hdate⟩ := Prod.mk.inj h
        exact .never hvalidity.symm hdate.symm
    | some d =>
        by_cases byThen : d ≤ date
        · rw [asOf, if_pos byThen] at h
          obtain ⟨hvalidity, hdate⟩ := Prod.mk.inj h
          exact .already byThen hvalidity.symm hdate.symm
        · rw [asOf, if_neg byThen] at h
          obtain ⟨hvalidity, hdate⟩ := Prod.mk.inj h
          exact .later (Instant.not_le.1 byThen) hvalidity.symm hdate.symm

theorem follows_iff {answer : OcspAnswer} :
    s.Follows date answer ↔ ofAnswer date answer = (s.validity, s.revokedAt) := by
  cases answer with
  | good =>
      rw [ofAnswer, ← revokedAsOf_iff]
      exact ⟨fun h => by cases h with | good tells => exact tells, .good⟩
  | revoked d =>
      rw [ofAnswer, ← revokedAsOf_iff]
      exact ⟨fun h => by cases h with | revoked tells => exact tells, .revoked⟩
  | unknown =>
      rw [ofAnswer]
      constructor
      · intro h
        cases h with
        | unknown validity noDate => rw [validity, noDate]
      · intro h
        obtain ⟨hvalidity, hdate⟩ := Prod.mk.inj h
        exact .unknown hvalidity.symm hdate.symm

/-- A status follows *unknown* and nothing else by being unknown. -/
theorem Follows.validity_eq_unknown_iff {answer : OcspAnswer} (h : s.Follows date answer) :
    s.validity = .unknown ↔ answer = .unknown := by
  cases h with
  | good tells | revoked tells => cases tells <;> simp_all
  | unknown validity _ => exact iff_of_true validity rfl

/-- A status is made of what was asked for, the evidence, and what the evidence says. -/
theorem mk_eq_iff {evidence : RevocationEvidence} {reading : Validity × Option Instant} :
    ⟨x, some issuer, reading.1, some evidence, reading.2, date⟩ = s ↔
      s.IsAbout x issuer date ∧ s.evidence = some evidence ∧
        reading = (s.validity, s.revokedAt) := by
  constructor
  · rintro rfl
    exact ⟨⟨rfl, rfl, rfl⟩, rfl, rfl⟩
  · rintro ⟨⟨rfl, hissuer, rfl⟩, hevidence, rfl⟩
    rw [← hissuer, ← hevidence]

theorem isAuthorized_iff {r : OcspResponse} : isAuthorized crypto issuer r = true ↔
    (Token.ocsp r).isSignedBy crypto issuer = true ∨
      ∃ responder, r.responderCertificate? = some responder ∧
        (Token.certificate responder).isSignedBy crypto issuer = true ∧
          (Token.ocsp r).isSignedBy crypto responder = true := by
  cases hr : r.responderCertificate? <;> simp [isAuthorized, hr]

theorem ofCrl?_eq_some_iff {l : Crl} : ofCrl? crypto x issuer date l = some s ↔
    (Token.crl l).isSignedBy crypto issuer = true ∧ l.thisUpdate ≤ date ∧
      s.IsAbout x issuer date ∧
      s.evidence = some (.crl l) ∧ s.RevokedAsOf date ((l.find? x.serial).map (·.date)) := by
  unfold ofCrl?
  cases hsigned : (Token.crl l).isSignedBy crypto issuer with
  | false => simp
  | true =>
      by_cases hlater : date < l.thisUpdate
      · simp [hlater, Instant.not_le.2 hlater]
      · simp [hlater, Instant.not_lt.1 hlater, mk_eq_iff, revokedAsOf_iff]

theorem ofResponse?_eq_some_iff {r : OcspResponse} : ofResponse? crypto x issuer date r = some s ↔
    isAuthorized crypto issuer r = true ∧ ∃ single, r.find? x.serial = some single ∧
      single.thisUpdate ≤ date ∧
      s.IsAbout x issuer date ∧ s.evidence = some (.ocsp r) ∧ s.Follows date single.answer := by
  unfold ofResponse?
  cases hauthorized : isAuthorized crypto issuer r with
  | false => simp
  | true =>
      cases hfirst : r.find? x.serial with
      | none => simp
      | some single =>
          by_cases hlater : date < single.thisUpdate
          · simp [hlater, Instant.not_le.2 hlater]
          · simp [hlater, Instant.not_lt.1 hlater, mk_eq_iff, follows_iff]

/-! ## One kind of evidence -/

/-- Evidence of a kind gives a status when the source gives evidence that does. -/
theorem ofSource_eq_some_iff {α : Type} {source : Option (EvidenceSource α)}
    {read : α → Option Status} :
    (source.bind fun asked => (asked.getAt x issuer date).bind read) = some s ↔
      ∃ a, (∃ asked, source = some asked ∧ asked.getAt x issuer date = some a) ∧
        read a = some s := by
  simp only [Option.bind_eq_some_iff]
  constructor
  · rintro ⟨asked, hasked, a, hgiven, hread⟩
    exact ⟨a, ⟨asked, hasked, hgiven⟩, hread⟩
  · rintro ⟨a, ⟨asked, hasked, hgiven⟩, hread⟩
    exact ⟨asked, hasked, a, hgiven, hread⟩

theorem byList_eq_some_iff :
    (crl.bind fun source => byCrl? crypto source x issuer date) = some s ↔
      ∃ l, ListCounts crypto crl x issuer date l ∧ s.IsAbout x issuer date ∧
        s.evidence = some (.crl l) ∧
        s.RevokedAsOf date ((l.find? x.serial).map (·.date)) := by
  refine ofSource_eq_some_iff.trans (exists_congr fun l => ?_)
  rw [ofCrl?_eq_some_iff]
  constructor
  · rintro ⟨given, signed, published, hstatus⟩
    have named : issuer.subject.same l.issuer = true := (Bool.and_eq_true_iff.1 signed).1
    exact ⟨⟨given, named, signed, published⟩, hstatus⟩
  · rintro ⟨counts, hstatus⟩
    exact ⟨counts.given, counts.signed, counts.published, hstatus⟩

theorem byResponse_eq_some_iff :
    (ocsp.bind fun source => byOcsp? crypto source x issuer date) = some s ↔
      ∃ r single, ResponseCounts crypto ocsp x issuer date r single ∧
        s.IsAbout x issuer date ∧
        s.evidence = some (.ocsp r) ∧ s.Follows date single.answer := by
  refine ofSource_eq_some_iff.trans (exists_congr fun r => ?_)
  rw [ofResponse?_eq_some_iff, isAuthorized_iff]
  constructor
  · rintro ⟨given, signed, single, first, published, hstatus⟩
    exact ⟨single, ⟨given, signed, first, published⟩, hstatus⟩
  · rintro ⟨single, counts, hstatus⟩
    exact ⟨counts.given, counts.signed, single, counts.first, counts.published, hstatus⟩

/-- A list that counts gives a status. -/
theorem ListCounts.exists_status {l : Crl} (counts : ListCounts crypto crl x issuer date l) :
    ∃ s, (crl.bind fun source => byCrl? crypto source x issuer date) = some s := by
  let reading := asOf date ((l.find? x.serial).map (·.date))
  let s : Status := ⟨x, some issuer, reading.1, some (.crl l), reading.2, date⟩
  obtain ⟨about, rests, hreading⟩ := mk_eq_iff.1 (rfl : s = s)
  exact ⟨s, byList_eq_some_iff.2 ⟨l, counts, about, rests, revokedAsOf_iff.2 hreading⟩⟩

/-- A response that counts gives a status, which follows its entry. -/
theorem ResponseCounts.exists_status {r : OcspResponse} {single : SingleResponse}
    (counts : ResponseCounts crypto ocsp x issuer date r single) :
    ∃ s, (ocsp.bind fun source => byOcsp? crypto source x issuer date) = some s ∧
      s.Follows date single.answer := by
  let reading := ofAnswer date single.answer
  let s : Status := ⟨x, some issuer, reading.1, some (.ocsp r), reading.2, date⟩
  obtain ⟨about, rests, hreading⟩ := mk_eq_iff.1 (rfl : s = s)
  have follows : s.Follows date single.answer := follows_iff.2 hreading
  exact ⟨s, byResponse_eq_some_iff.2 ⟨r, single, counts, about, rests, follows⟩, follows⟩

theorem byList_eq_none_iff : (crl.bind fun source => byCrl? crypto source x issuer date) = none ↔
    ∀ {l : Crl}, ¬ ListCounts crypto crl x issuer date l := by
  rw [Option.eq_none_iff_forall_ne_some]
  constructor
  · intro hnone l counts
    obtain ⟨s, hs⟩ := counts.exists_status
    exact hnone s hs
  · intro hnone s hs
    obtain ⟨l, counts, -⟩ := byList_eq_some_iff.1 hs
    exact hnone counts

/-- No response says *good* or *revoked* when all that counts says *unknown*. -/
theorem byResponse_unknown_iff :
    (∀ a : Status, (ocsp.bind fun source => byOcsp? crypto source x issuer date) = some a →
      a.validity = .unknown) ↔
      ∀ {r : OcspResponse} {single : SingleResponse},
        ResponseCounts crypto ocsp x issuer date r single → single.answer = .unknown := by
  constructor
  · intro hunknown r single counts
    obtain ⟨a, ha, follows⟩ := counts.exists_status
    exact follows.validity_eq_unknown_iff.1 (hunknown a ha)
  · intro hunknown a ha
    obtain ⟨r, single, counts, -, -, follows⟩ := byResponse_eq_some_iff.1 ha
    exact follows.validity_eq_unknown_iff.2 (hunknown counts)

/-! ## Both kinds -/

/-- A revocation has a date, and not a later one than was asked for. -/
theorem RevokedAsOf.dated (h : s.RevokedAsOf date since) :
    (s.revokedAt.isSome = true ↔ s.validity = .revoked) ∧
      ∀ {d : Instant}, s.revokedAt = some d → d ≤ date := by
  cases h with
  | already byThen validity hsince =>
      refine ⟨by simp [validity, hsince], fun hd => ?_⟩
      obtain rfl := Option.some.inj (hsince.symm.trans hd)
      exact byThen
  | later _ validity noDate | never validity noDate => simp [validity, noDate]

theorem Follows.dated {answer : OcspAnswer} (h : s.Follows date answer) :
    (s.revokedAt.isSome = true ↔ s.validity = .revoked) ∧
      ∀ {d : Instant}, s.revokedAt = some d → d ≤ date := by
  cases h with
  | good tells | revoked tells => exact tells.dated
  | unknown validity noDate => simp [validity, noDate]

theorem Justified.dated (h : Justified crypto ocsp crl x issuer date s) :
    (s.revokedAt.isSome = true ↔ s.validity = .revoked) ∧
      ∀ {d : Instant}, s.revokedAt = some d → d ≤ date := by
  cases h with
  | byList _ _ _ tells _ | byResponse _ _ _ tells _ => exact tells.dated

/-- **A status is answered exactly when it is justified**, whatever the sources give. It has a date
of revocation just if it says *revoked*, and that is not after the date asked for. -/
theorem check?_eq_some_iff_justified (crypto : Crypto) (ocsp : Option OcspSource)
    (crl : Option CrlSource) (x issuer : Certificate) (date : Instant) (s : Status) :
    (check? crypto ocsp crl x issuer date = some s ↔
      Justified crypto ocsp crl x issuer date s) ∧
      (check? crypto ocsp crl x issuer date = some s →
        (s.revokedAt.isSome = true ↔ s.validity = .revoked) ∧
          ∀ {d : Instant}, s.revokedAt = some d → d ≤ date) := by
  have hiff : check? crypto ocsp crl x issuer date = some s ↔
      Justified crypto ocsp crl x issuer date s := by
    rw [check?, orElse_eq_some_iff, byList_eq_some_iff, byResponse_eq_some_iff, byList_eq_none_iff,
      byResponse_unknown_iff]
    constructor
    · rintro (⟨⟨l, counts, about, rests, tells⟩, noResponse⟩
        | ⟨⟨r, single, counts, about, rests, tells⟩, noList⟩)
      · exact .byList about rests counts tells noResponse
      · exact .byResponse about rests counts tells fun h =>
          noList (tells.validity_eq_unknown_iff.2 h)
    · intro h
      cases h with
      | @byList l about rests counts tells noResponse =>
          exact .inl ⟨⟨l, counts, about, rests, tells⟩, noResponse⟩
      | @byResponse r single about rests counts tells noList =>
          exact .inr ⟨⟨r, single, counts, about, rests, tells⟩,
            fun h => noList (tells.validity_eq_unknown_iff.1 h)⟩
  exact ⟨hiff, fun h => (hiff.1 h).dated⟩

end SignatureTrust.Status
