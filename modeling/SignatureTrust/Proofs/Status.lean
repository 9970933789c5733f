import SignatureTrust.Proofs.Source.Revocation
import SignatureTrust.Status

/-!
# `Proofs.Status` — what an answer about a certificate rests on

`Status.check?` asks two sources and keeps one answer. Whoever uses the answer needs to know only
this of it: it is about the certificate, the issuer and the date that were asked for, and it
**carries a piece of evidence that one of the sources gave** and that passed that source's own test
(`Answered`). Which of the two it was, and what the evidence says, stays in `Status`.
-/

set_option autoImplicit false

namespace SignatureTrust.Status

variable {crypto : Crypto} {ocsp : Option OcspSource} {crl : Option CrlSource}
variable {certificate issuer : Certificate} {date : Instant} {s : Status}

/-- The status answers what was asked. -/
structure IsAbout (s : Status) (certificate issuer : Certificate) (date : Instant) : Prop where
  certificate : s.certificate = certificate
  issuer : s.issuer = some issuer
  date : s.date = date

/-! ## One list, one response -/

theorem isAbout_of_ofCrl? {l : Crl} (h : ofCrl? crypto certificate issuer date l = some s) :
    s.IsAbout certificate issuer date ∧ s.evidence = some (.crl l) := by
  unfold ofCrl? at h
  split at h
  · cases h
  · obtain rfl := Option.some.inj h
    exact ⟨⟨rfl, rfl, rfl⟩, rfl⟩

theorem genuine_of_ofCrl? {l : Crl} (h : ofCrl? crypto certificate issuer date l = some s) :
    (Token.crl l).isSignedBy crypto issuer = true ∧ l.thisUpdate ≤ date := by
  unfold ofCrl? at h
  split at h
  · cases h
  · rename_i hc
    simp only [Bool.or_eq_true, Bool.not_eq_true', decide_eq_true_eq, not_or, Bool.not_eq_false,
      Instant.not_lt] at hc
    exact hc

theorem isAbout_of_ofResponse? {r : OcspResponse}
    (h : ofResponse? crypto certificate issuer date r = some s) :
    s.IsAbout certificate issuer date ∧ s.evidence = some (.ocsp r) := by
  unfold ofResponse? at h
  split at h
  · cases h
  · split at h
    · cases h
    · split at h
      · cases h
      · obtain rfl := Option.some.inj h
        exact ⟨⟨rfl, rfl, rfl⟩, rfl⟩

/-- A response that answers is the issuer's business, and its answer for the serial was given by the
date. -/
theorem genuine_of_ofResponse? {r : OcspResponse}
    (h : ofResponse? crypto certificate issuer date r = some s) :
    isAuthorized crypto issuer r = true ∧
      ∃ single, r.find? certificate.serial = some single ∧ single.thisUpdate ≤ date := by
  unfold ofResponse? at h
  split at h
  · cases h
  · rename_i ha
    split at h
    · cases h
    · rename_i single hs
      split at h
      · cases h
      · rename_i hd
        exact ⟨by simpa using ha, single, hs, Instant.not_lt.1 hd⟩

/-- The issuer answers only for responses that speak for it. -/
theorem speaksFor_of_isAuthorized {r : OcspResponse} (h : isAuthorized crypto issuer r = true) :
    r.speaksFor issuer = true := by
  unfold isAuthorized at h
  unfold OcspResponse.speaksFor
  rcases Bool.or_eq_true_iff.1 h with h | h
  · simp only [Token.isSignedBy, Bool.and_eq_true] at h
    rw [show r.responder.designates issuer = true from h.1, Bool.true_or]
  · cases hr : r.responderCertificate? with
    | none => simp [hr] at h
    | some responder =>
        simp only [hr, Token.isSignedBy, Bool.and_eq_true] at h
        have hissued : issuer.subject.same responder.issuer = true := h.1.1
        simp [Name.same_comm responder.issuer, hissued]

/-- A source in memory that has the response behind a status answers. -/
theorem getAt_ne_none_of_ofResponse? {responses : List OcspResponse} {r : OcspResponse}
    (hr : r ∈ responses) (h : ofResponse? crypto certificate issuer date r = some s) :
    (OcspSource.ofList responses).getAt certificate issuer date ≠ none := by
  obtain ⟨hauthorized, single, hfind, hdate⟩ := genuine_of_ofResponse? h
  exact OcspSource.getAt_ofList_ne_none hr (speaksFor_of_isAuthorized hauthorized) hfind hdate

theorem concerns_of_ofCrl? {l : Crl} (h : ofCrl? crypto certificate issuer date l = some s) :
    CrlSource.concerns issuer l = true := by
  have hnames : issuer.subject.same l.issuer = true :=
    (Bool.and_eq_true_iff.1 (genuine_of_ofCrl? h).1).1
  rwa [CrlSource.concerns, Name.same_comm]

theorem getAt_ne_none_of_ofCrl? {crls : List Crl} {l : Crl} (hl : l ∈ crls)
    (h : ofCrl? crypto certificate issuer date l = some s) :
    (CrlSource.ofList crls).getAt certificate issuer date ≠ none :=
  CrlSource.getAt_ofList_ne_none hl (concerns_of_ofCrl? h) (genuine_of_ofCrl? h).2

/-! ## Both -/

/-- The fallback is taken where the first answer says nothing, and the first where it says something
or is alone. -/
theorem orElse_eq_some_iff {first fallback : Option Status} : orElse first fallback = some s ↔
    (fallback = some s ∧ ∀ a : Status, first = some a → a.validity = .unknown) ∨
      (first = some s ∧ (s.validity = .unknown → fallback = none)) := by
  cases first with
  | none => simp [orElse]
  | some a =>
      by_cases hunknown : a.validity = .unknown
      · have hall : ∀ b : Status, some a = some b → b.validity = .unknown :=
          fun _ h => Option.some.inj h ▸ hunknown
        cases fallback with
        | none => simp [orElse, hunknown]
        | some b =>
            have hnot : ¬ (some a = some s ∧ (s.validity = .unknown → some b = none)) := by
              rintro ⟨hs, hnone⟩
              cases hnone (hall s hs)
            rw [or_iff_left hnot, and_iff_left hall]
            simp [orElse, hunknown]
      · have hnot : ¬ (fallback = some s ∧ ∀ b : Status, some a = some b →
            b.validity = .unknown) :=
          fun h => hunknown (h.2 a rfl)
        have hstands : some a = some s → s.validity = .unknown → fallback = none :=
          fun hs h => absurd (Option.some.inj hs ▸ h) hunknown
        rw [or_iff_right hnot, and_iff_left_of_imp hstands]
        simp [orElse, hunknown]

theorem orElse_eq_some {first fallback : Option Status} (h : orElse first fallback = some s) :
    first = some s ∨ fallback = some s := by
  rcases orElse_eq_some_iff.1 h with ⟨hfallback, -⟩ | ⟨hfirst, -⟩
  · exact .inr hfallback
  · exact .inl hfirst

/-- Leaving out an answer that was not taken leaves the status as it is. -/
theorem orElse_congr {first first' fallback fallback' : Option Status}
    (hf : first' = first ∨ first' = none) (hb : fallback' = fallback ∨ fallback' = none)
    (takesFirst : ∀ {s : Status}, orElse first fallback = some s → first = some s →
      first' = first)
    (takesFallback : ∀ {s : Status}, orElse first fallback = some s → fallback = some s →
      fallback' = fallback) :
    orElse first' fallback' = orElse first fallback := by
  cases first with
  | none =>
      obtain rfl : first' = none := hf.elim id id
      cases fallback with
      | none => rw [hb.elim id id]
      | some b => rw [takesFallback rfl rfl]
  | some a =>
      by_cases hu : a.validity = .unknown
      · -- an unknown answer stands only where there is no other
        cases fallback with
        | none =>
            rw [hb.elim id id, takesFirst (by simp [orElse, hu]) rfl]
        | some b =>
            -- the fallback was taken, with or without the answer in front of it
            have hs : orElse (some a) (some b) = some b := by simp [orElse, hu]
            rw [takesFallback hs rfl, hs]
            rcases hf with rfl | rfl
            · exact hs
            · rfl
      · have hs : orElse (some a) fallback = some a := by simp [orElse, hu]
        rw [takesFirst hs rfl, hs]
        simp [orElse, hu]

/-- How a status came about: a source gave a piece of evidence, and the evidence gives the
status. -/
inductive Answered (crypto : Crypto) (ocsp : Option OcspSource) (crl : Option CrlSource)
    (certificate issuer : Certificate) (date : Instant) (s : Status) : RevocationEvidence → Prop
  | byResponse {source : OcspSource} {r : OcspResponse}
      (asked : ocsp = some source) (given : source.getAt certificate issuer date = some r)
      (status : ofResponse? crypto certificate issuer date r = some s) :
      Answered _ _ _ _ _ _ s (.ocsp r)
  | byList {source : CrlSource} {l : Crl} (asked : crl = some source)
      (given : source.getAt certificate issuer date = some l)
      (status : ofCrl? crypto certificate issuer date l = some s) : Answered _ _ _ _ _ _ s (.crl l)

theorem answered_of_check? (h : check? crypto ocsp crl certificate issuer date = some s) :
    ∃ e, s.evidence = some e ∧ Answered crypto ocsp crl certificate issuer date s e := by
  rcases orElse_eq_some h with h | h
  · obtain ⟨source, hsource, h⟩ := Option.bind_eq_some_iff.1 h
    obtain ⟨r, hr, h⟩ := Option.bind_eq_some_iff.1 h
    exact ⟨.ocsp r, (isAbout_of_ofResponse? h).2, .byResponse hsource hr h⟩
  · obtain ⟨source, hsource, h⟩ := Option.bind_eq_some_iff.1 h
    obtain ⟨l, hl, h⟩ := Option.bind_eq_some_iff.1 h
    exact ⟨.crl l, (isAbout_of_ofCrl? h).2, .byList hsource hl h⟩

theorem isAbout_of_check? (h : check? crypto ocsp crl certificate issuer date = some s) :
    s.IsAbout certificate issuer date := by
  obtain ⟨e, -, ha⟩ := answered_of_check? h
  cases ha with
  | byResponse _ _ status => exact (isAbout_of_ofResponse? status).1
  | byList _ _ status => exact (isAbout_of_ofCrl? status).1

end SignatureTrust.Status
