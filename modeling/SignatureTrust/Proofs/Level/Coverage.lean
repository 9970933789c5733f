import SignatureTrust.Level.Assessment
import SignatureTrust.Proofs.Source.Certificates
import SignatureTrust.Proofs.Verdict
import SignatureTrust.Validator

/-!
# `Proofs.Level.Coverage` — what a valid level XL says about a context

Level XL is a tree of verdicts with one leaf for every piece of evidence. What it comes to is a
statement about encodings (`Covers`): **whatever was gathered for the signing certificate comes with
the signature**, the signing certificate itself aside. That the values match the references is part
of the level too, and of no use here.

Everything is compared by encoding, because that is how the level compares. What has one encoding
with an embedded certificate is not yet that certificate.
-/

set_option autoImplicit false

namespace SignatureTrust

/-- Everything that a context gathered comes with a signature, by its encoding. -/
structure Covers (s : Signature) (c : Context) : Prop where
  certificates : ∀ e ∈ c.neededEntries,
    c.targetCertificate?.any e.certificate.sameEncoding = true ∨
    ∃ x ∈ s.embeddedCertificates, x.encoding = e.certificate.encoding
  crls : ∀ l ∈ c.neededCrls, ∃ l' ∈ s.embeddedCrls, l'.encoding = l.encoding
  ocsps : ∀ r ∈ c.neededOcsps, ∃ r' ∈ s.embeddedOcsps, r'.encoding = r.encoding

/-! ## Embedded certificates -/

/-- Certificates that arrive one by one are kept as a store would keep them. -/
theorem foldl_kept_eq (xs : List Certificate) (store : CertificateStore) :
    xs.foldl (fun kept x => if kept.any (·.sameEncoding x) then kept else kept ++ [x])
        (store.entries.map (·.certificate)) =
      (xs.foldl CertificateStore.addCertificate store).entries.map (·.certificate) := by
  induction xs generalizing store with
  | nil => rfl
  | cons x xs ih =>
      rw [List.foldl_cons, List.foldl_cons, ← ih, List.any_map]
      congr 1
      show (if store.holds x then _ else _) = _
      cases hx : store.holds x <;>
        simp [CertificateStore.addCertificate, CertificateStore.add, Entry.plain, hx]

theorem Signature.embeddedCertificates_eq {s : Signature} {v : CertificateValues}
    (hv : s.certificateValues? = some v) :
    ∃ inKeyInfo, s.embeddedCertificates =
      (CertificateStore.ofCertificates .embedded (inKeyInfo ++ v.certificates)).entries.map
        (·.certificate) := by
  refine ⟨(s.keyInfo.map (·.certificates)).getD [], ?_⟩
  unfold Signature.embeddedCertificates CertificateStore.ofCertificates
  rw [hv, ← foldl_kept_eq]
  cases s.keyInfo <;> rfl

theorem Signature.exists_mem_embeddedCertificates {s : Signature} {v : CertificateValues}
    {x : Certificate} (hv : s.certificateValues? = some v) (hx : x ∈ v.certificates) :
    ∃ y ∈ s.embeddedCertificates, y.encoding = x.encoding := by
  obtain ⟨inKeyInfo, heq⟩ := Signature.embeddedCertificates_eq hv
  obtain ⟨e, he, hex⟩ := CertificateStore.exists_mem_ofCertificates (p := .embedded)
    (List.mem_append_right inKeyInfo hx)
  exact ⟨e.certificate, heq ▸ List.mem_map_of_mem he, hex⟩

/-! ## The verdicts -/

namespace Assessment

variable {s : Signature} {c : Context} {crypto : Crypto} {timestamps : TimestampVerifier}

theorem isValid_check {b : Bool} {yes no : String} {reason : Reason} :
    (if b then Verdict.valid yes else .invalid reason no).isValid = true ↔ b = true := by
  cases b <;> simp

theorem isValid_onCertificates_iff {isThere : Certificate → Bool} {reason : Reason}
    {yes no : Certificate → String} :
    (∀ v ∈ onCertificates c isThere reason yes no, v.isValid = true) ↔
      ∀ e ∈ c.neededEntries,
        c.targetCertificate?.any e.certificate.sameEncoding = true ∨
          isThere e.certificate = true := by
  unfold onCertificates neededCertificates
  rw [List.forall_mem_map]
  simp only [isValid_check]
  constructor
  · intro h e he
    cases ht : c.targetCertificate?.any e.certificate.sameEncoding with
    | true => exact .inl rfl
    | false => exact .inr (h _ (List.mem_filter.2 ⟨List.mem_map_of_mem he, by rw [ht]; rfl⟩))
  · intro h x hx
    obtain ⟨hmem, hnot⟩ := List.mem_filter.1 hx
    obtain ⟨e, he, rfl⟩ := List.mem_map.1 hmem
    exact (h e he).resolve_left (by simpa using hnot)

theorem isValid_onRevocations_iff {hasCrl : Crl → Bool} {hasOcsp : OcspResponse → Bool}
    {reason : Reason} {yes no : String → String} :
    (∀ v ∈ onRevocations c hasCrl hasOcsp reason yes no, v.isValid = true) ↔
      (∀ l ∈ c.neededCrls, hasCrl l = true) ∧ ∀ r ∈ c.neededOcsps, hasOcsp r = true := by
  unfold onRevocations
  rw [List.forall_mem_append, List.forall_mem_map, List.forall_mem_map]
  simp only [isValid_check]

theorem certificates_of_certificateValues
    (h : (Assessment.mk s (some c) crypto timestamps).certificateValues.isValid = true) {e : Entry}
    (he : e ∈ c.neededEntries) : c.targetCertificate?.any e.certificate.sameEncoding = true ∨
      ∃ x ∈ s.embeddedCertificates, x.encoding = e.certificate.encoding := by
  unfold certificateValues at h
  cases hv : s.certificateValues? with
  | none => simp [hv] at h
  | some v =>
      simp only [hv] at h
      split at h
      · cases h
      · apply (isValid_onCertificates_iff.1 (Verdict.isValid_combine_iff.1 h) e he).imp id
        intro hany
        obtain ⟨x, hx, hsame⟩ := List.any_eq_true.1 hany
        obtain ⟨y, hy, hyx⟩ := Signature.exists_mem_embeddedCertificates hv hx
        exact ⟨y, hy, hyx.trans (Certificate.sameEncoding_iff.1 hsame)⟩

theorem evidence_of_revocationValues
    (h : (Assessment.mk s (some c) crypto timestamps).revocationValues.isValid = true) :
    (∀ l ∈ c.neededCrls, ∃ l' ∈ s.embeddedCrls, l'.encoding = l.encoding) ∧
      ∀ r ∈ c.neededOcsps, ∃ r' ∈ s.embeddedOcsps, r'.encoding = r.encoding := by
  unfold revocationValues at h
  cases hv : s.revocationValues? with
  | none => simp [hv] at h
  | some v =>
      simp only [hv] at h
      split at h
      · cases h
      · obtain ⟨hcrls, hocsps⟩ := isValid_onRevocations_iff.1 (Verdict.isValid_combine_iff.1 h)
        simp only [Signature.embeddedCrls, Signature.embeddedOcsps, hv]
        constructor
        · intro l hl
          obtain ⟨l', hl', hsame⟩ := List.any_eq_true.1 (hcrls l hl)
          exact ⟨l', hl', by simpa [Crl.sameEncoding] using hsame⟩
        · intro r hr
          obtain ⟨r', hr', hsame⟩ := List.any_eq_true.1 (hocsps r hr)
          exact ⟨r', hr', by simpa [OcspResponse.sameEncoding] using hsame⟩

/-- **A valid level XL covers the context.** -/
theorem covers_of_xl (h : (Assessment.mk s (some c) crypto timestamps).xl.isValid = true) :
    Covers s c := by
  have hparts := Verdict.isValid_combine_iff.1 h
  simp only [List.append_assoc, List.forall_mem_append, List.forall_mem_cons] at hparts
  obtain ⟨⟨hcertificates, hrevocations, -⟩, -⟩ := hparts
  obtain ⟨hcrls, hocsps⟩ := evidence_of_revocationValues hrevocations
  exact ⟨fun e he => certificates_of_certificateValues hcertificates he, hcrls, hocsps⟩

end Assessment
end SignatureTrust
