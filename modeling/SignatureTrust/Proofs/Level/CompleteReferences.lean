import SignatureTrust.Proofs.Level.Coverage
import SignatureTrust.Proofs.Signature.EvidenceRef

/-!
# `Proofs.Level.CompleteReferences` — what level C says about a context

Level C asks whether the references of a signature are complete: a verdict on each certificate, list
and response that was gathered for the signing certificate, combined by kind and then again. Of a
combined verdict it is enough to know when it is valid (`Proofs.Verdict`), so two layers of
combining come to one statement without any (`ReferTo`):

> **level C is valid just if both collections of references have some, and whatever was gathered is
> referred to**, the target aside (`c_isValid_iff_referTo`).

Without a context nothing can be said to be gathered, and level C is undetermined, unless a
collection is missing or empty: then it is invalid with or without one. A reference that is
superfluous does no harm.
-/

set_option autoImplicit false

namespace SignatureTrust

/-- Both collections of references are there, and have references. -/
structure Signature.HasReferences (s : Signature) (certificates : CertificateRefs)
    (revocations : RevocationRefs) : Prop where
  toCertificates : s.certificateRefs? = some certificates
  someCertificate : certificates.refs ≠ []
  toRevocations : s.revocationRefs? = some revocations
  someRevocation : revocations.crls ≠ [] ∨ revocations.ocsps ≠ []

/-- Collections of references refer to everything that a context gathered, the target aside. -/
structure ReferTo (certificates : CertificateRefs) (revocations : RevocationRefs) (crypto : Crypto)
    (c : Context) : Prop where
  toCertificates : ∀ e ∈ c.neededEntries, (∃ target, c.targetCertificate? = some target ∧
    target.encoding = e.certificate.encoding) ∨
    ∃ r ∈ certificates.refs, r.digest.Fits crypto e.certificate.encoding
  toCrls : ∀ l ∈ c.neededCrls, ∃ r ∈ revocations.crls, r.Designates crypto l
  toOcsps : ∀ o ∈ c.neededOcsps, ∃ r ∈ revocations.ocsps, r.Designates crypto o

/-- Another signature has every reference of the collections of this one, and perhaps more. -/
structure Signature.ReferencesKeptIn (s s' : Signature) : Prop where
  certificates : ∀ r, s.certificateRefs? = some r → ∃ r', s'.certificateRefs? = some r' ∧
    r.refs ⊆ r'.refs
  revocations : ∀ r, s.revocationRefs? = some r →
    ∃ r', s'.revocationRefs? = some r' ∧ r.crls ⊆ r'.crls ∧ r.ocsps ⊆ r'.ocsps

theorem RevocationRefs.isEmpty_eq_false_iff {r : RevocationRefs} :
    r.isEmpty = false ↔ r.crls ≠ [] ∨ r.ocsps ≠ [] := by
  simp [isEmpty, Decidable.imp_iff_not_or]

namespace Assessment

variable {s s' : Signature} {context : Option Context} {c : Context} {crypto : Crypto}
  {timestamps : TimestampVerifier}

/-! ## By kind -/

theorem any_sameEncoding_iff {target? : Option Certificate} {x : Certificate} :
    target?.any x.sameEncoding = true ↔
      ∃ target, target? = some target ∧ target.encoding = x.encoding := by
  cases target? with
  | none => simp
  | some target =>
      rw [Option.any_some, Certificate.sameEncoding_iff]
      exact ⟨fun h => ⟨target, rfl, h.symm⟩,
        fun ⟨_, heq, h⟩ => by rw [Option.some.inj heq, h]⟩

/-- What either is there or is not leaves nothing undetermined. -/
theorem isUndetermined_combine_checks {message : String}
    {parts : List Verdict} (h : ∀ v ∈ parts, v.isUndetermined = false) :
    (Verdict.combine message parts).isUndetermined = false := by
  rw [← Bool.not_eq_true, Verdict.isUndetermined_combine_iff]
  rintro ⟨-, v, hv, hundetermined⟩
  rw [h v hv] at hundetermined
  cases hundetermined

theorem isUndetermined_check {b : Bool} {yes no : String} {reason : Reason} :
    (if b then Verdict.valid yes else .invalid reason no).isUndetermined = false := by
  cases b <;> rfl

theorem isUndetermined_onCertificates {isThere : Certificate → Bool} {reason : Reason}
    {yes no : Certificate → String} :
    ∀ v ∈ onCertificates c isThere reason yes no, v.isUndetermined = false :=
  List.forall_mem_map.2 fun _ _ => isUndetermined_check

theorem isUndetermined_onRevocations {hasCrl : Crl → Bool} {hasOcsp : OcspResponse → Bool}
    {reason : Reason} {yes no : String → String} :
    ∀ v ∈ onRevocations c hasCrl hasOcsp reason yes no, v.isUndetermined = false :=
  List.forall_mem_append.2 ⟨List.forall_mem_map.2 fun _ _ => isUndetermined_check,
    List.forall_mem_map.2 fun _ _ => isUndetermined_check⟩

theorem isValid_certificateRefs_iff :
    (Assessment.mk s context crypto timestamps).certificateRefs.isValid = true ↔
      ∃ r c, s.certificateRefs? = some r ∧ r.refs ≠ [] ∧ context = some c ∧
        ∀ e ∈ c.neededEntries,
        (∃ target, c.targetCertificate? = some target ∧
          target.encoding = e.certificate.encoding) ∨
          ∃ ref ∈ r.refs, ref.digest.Fits crypto e.certificate.encoding := by
  unfold certificateRefs
  cases s.certificateRefs? with
  | none => simp
  | some r =>
      by_cases hrefs : r.refs = []
      · simp [hrefs]
      · cases context with
        | none => simp [hrefs, noContext]
        | some c =>
            simp only [List.isEmpty_iff, hrefs, if_false, Verdict.isValid_combine_iff,
              isValid_onCertificates_iff, any_sameEncoding_iff, List.any_eq_true,
              CertificateRef.isMatch_iff]
            exact ⟨fun h => ⟨r, c, rfl, hrefs, rfl, h⟩, fun ⟨_, _, rfl, _, rfl, h⟩ => h⟩

theorem isUndetermined_certificateRefs_iff :
    (Assessment.mk s context crypto timestamps).certificateRefs.isUndetermined = true ↔
      (∃ r, s.certificateRefs? = some r ∧ r.refs ≠ []) ∧ context = none := by
  unfold certificateRefs
  cases s.certificateRefs? with
  | none => simp
  | some r =>
      by_cases hrefs : r.refs = []
      · simp [hrefs]
      · cases context with
        | none => simp [hrefs, noContext]
        | some c => simp [hrefs, isUndetermined_combine_checks isUndetermined_onCertificates]

theorem isValid_revocationRefs_iff :
    (Assessment.mk s context crypto timestamps).revocationRefs.isValid = true ↔
      ∃ r c, s.revocationRefs? = some r ∧ (r.crls ≠ [] ∨ r.ocsps ≠ []) ∧
        context = some c ∧
        (∀ l ∈ c.neededCrls, ∃ ref ∈ r.crls, ref.Designates crypto l) ∧
        ∀ o ∈ c.neededOcsps, ∃ ref ∈ r.ocsps, ref.Designates crypto o := by
  unfold revocationRefs
  simp only [← RevocationRefs.isEmpty_eq_false_iff]
  cases s.revocationRefs? with
  | none => simp
  | some r =>
      cases hrefs : r.isEmpty with
      | true => simp [hrefs]
      | false =>
          cases context with
          | none => simp [hrefs, noContext]
          | some c =>
              simp only [hrefs, Bool.false_eq_true, if_false, Verdict.isValid_combine_iff,
                isValid_onRevocations_iff, List.any_eq_true, CrlRef.isMatch_iff,
                OcspRef.isMatch_iff]
              exact ⟨fun h => ⟨r, c, rfl, hrefs, rfl, h⟩,
                fun ⟨_, _, rfl, _, rfl, h⟩ => h⟩

theorem isUndetermined_revocationRefs_iff :
    (Assessment.mk s context crypto timestamps).revocationRefs.isUndetermined = true ↔
      (∃ r, s.revocationRefs? = some r ∧ (r.crls ≠ [] ∨ r.ocsps ≠ [])) ∧
        context = none := by
  unfold revocationRefs
  simp only [← RevocationRefs.isEmpty_eq_false_iff]
  cases s.revocationRefs? with
  | none => simp
  | some r =>
      cases hrefs : r.isEmpty with
      | true => simp [hrefs]
      | false =>
          cases context with
          | none => simp [hrefs, noContext]
          | some c => simp [hrefs, isUndetermined_combine_checks isUndetermined_onRevocations]

/-! ## The level -/

theorem isValid_c_iff :
    (Assessment.mk s context crypto timestamps).c.isValid = true ↔
      ∃ certificates revocations c, s.HasReferences certificates revocations ∧
        context = some c ∧
        ReferTo certificates revocations crypto c := by
  rw [Assessment.c, Verdict.isValid_combine_pair_iff, isValid_certificateRefs_iff,
    isValid_revocationRefs_iff]
  constructor
  · rintro ⟨⟨certificates, c, hcertificates, hsome, rfl, hentries⟩, revocations, _,
      hrevocations, hsome', ⟨⟩, hcrls, hocsps⟩
    exact ⟨certificates, revocations, c, ⟨hcertificates, hsome, hrevocations, hsome'⟩, rfl,
      ⟨hentries, hcrls, hocsps⟩⟩
  · rintro ⟨certificates, revocations, c, there, rfl, refer⟩
    exact ⟨⟨certificates, c, there.toCertificates, there.someCertificate, rfl,
      refer.toCertificates⟩, revocations, c, there.toRevocations, there.someRevocation, rfl,
      refer.toCrls, refer.toOcsps⟩

theorem isUndetermined_c_some :
    (Assessment.mk s (some c) crypto timestamps).c.isUndetermined = false := by
  apply isUndetermined_combine_checks
  have hcertificates :
      (Assessment.mk s (some c) crypto timestamps).certificateRefs.isUndetermined = false := by
    simp [← Bool.not_eq_true, isUndetermined_certificateRefs_iff]
  have hrevocations :
      (Assessment.mk s (some c) crypto timestamps).revocationRefs.isUndetermined = false := by
    simp [← Bool.not_eq_true, isUndetermined_revocationRefs_iff]
  simp [hcertificates, hrevocations]

/-- Nothing is valid without a context. -/
theorem isUndetermined_c_none :
    (Assessment.mk s none crypto timestamps).c.isUndetermined = true ↔
      (Assessment.mk s none crypto timestamps).certificateRefs.isUndetermined = true ∧
        (Assessment.mk s none crypto timestamps).revocationRefs.isUndetermined = true := by
  have hcertificates :
      (Assessment.mk s none crypto timestamps).certificateRefs.isValid = false := by
    rw [← Bool.not_eq_true, isValid_certificateRefs_iff]
    rintro ⟨_, _, _, _, ⟨⟩, _⟩
  have hrevocations : (Assessment.mk s none crypto timestamps).revocationRefs.isValid = false := by
    rw [← Bool.not_eq_true, isValid_revocationRefs_iff]
    rintro ⟨_, _, _, _, ⟨⟩, _⟩
  exact Verdict.isUndetermined_combine_pair_iff hcertificates hrevocations

theorem isUndetermined_c_iff :
    (Assessment.mk s context crypto timestamps).c.isUndetermined = true ↔
      (∃ certificates revocations, s.HasReferences certificates revocations) ∧
        context = none := by
  cases context with
  | some c => simp [isUndetermined_c_some]
  | none =>
      rw [isUndetermined_c_none, isUndetermined_certificateRefs_iff,
        isUndetermined_revocationRefs_iff]
      constructor
      · rintro ⟨⟨⟨certificates, hcertificates, hsome⟩, -⟩,
          ⟨revocations, hrevocations, hsome'⟩, -⟩
        exact ⟨⟨certificates, revocations, hcertificates, hsome, hrevocations, hsome'⟩, rfl⟩
      · rintro ⟨⟨certificates, revocations, there⟩, -⟩
        exact ⟨⟨⟨certificates, there.toCertificates, there.someCertificate⟩, rfl⟩,
          ⟨revocations, there.toRevocations, there.someRevocation⟩, rfl⟩

/-- Further references leave valid what was valid. -/
theorem isValid_c_of_referencesKeptIn (kept : s.ReferencesKeptIn s')
    (h : (Assessment.mk s context crypto timestamps).c.isValid = true) :
    (Assessment.mk s' context crypto timestamps).c.isValid = true := by
  obtain ⟨certificates, revocations, c, there, hcontext, refer⟩ := isValid_c_iff.1 h
  obtain ⟨certificates', hcertificates', hrefs⟩ := kept.certificates _ there.toCertificates
  obtain ⟨revocations', hrevocations', hcrls, hocsps⟩ := kept.revocations _ there.toRevocations
  refine isValid_c_iff.2 ⟨certificates', revocations', c,
    ⟨hcertificates', ?_, hrevocations', ?_⟩, hcontext, ⟨?_, ?_, ?_⟩⟩
  · exact fun hnil => there.someCertificate (List.subset_nil.1 (hnil ▸ hrefs))
  · exact there.someRevocation.imp (fun hne hnil => hne (List.subset_nil.1 (hnil ▸ hcrls)))
      fun hne hnil => hne (List.subset_nil.1 (hnil ▸ hocsps))
  · exact fun e he => (refer.toCertificates e he).imp_right fun ⟨r, hr, hfits⟩ =>
      ⟨r, hrefs hr, hfits⟩
  · exact fun l hl => (refer.toCrls l hl).imp fun r hr => ⟨hcrls hr.1, hr.2⟩
  · exact fun o ho => (refer.toOcsps o ho).imp fun r hr => ⟨hocsps hr.1, hr.2⟩

/-- **Level C is valid just if there are references of both kinds and they refer to all that was
gathered.** It is undetermined just if there are and there is no context, and further references do
no harm. -/
theorem c_isValid_iff_referTo (s : Signature) (context : Option Context) (crypto : Crypto)
    (timestamps : TimestampVerifier) :
    ((Assessment.mk s context crypto timestamps).c.isValid = true ↔
        ∃ certificates revocations c, s.HasReferences certificates revocations ∧
          context = some c ∧
          ReferTo certificates revocations crypto c) ∧
      ((Assessment.mk s context crypto timestamps).c.isUndetermined = true ↔
        (∃ certificates revocations, s.HasReferences certificates revocations) ∧
          context = none) ∧
      ∀ s', s.ReferencesKeptIn s' →
        (Assessment.mk s context crypto timestamps).c.isValid = true →
        (Assessment.mk s' context crypto timestamps).c.isValid = true :=
  ⟨isValid_c_iff, isUndetermined_c_iff, fun _ => isValid_c_of_referencesKeptIn⟩

end Assessment
end SignatureTrust
