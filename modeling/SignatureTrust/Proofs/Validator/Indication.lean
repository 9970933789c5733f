import SignatureTrust.Proofs.Signature.EvidenceRef
import SignatureTrust.Proofs.Structure.Examination
import SignatureTrust.Proofs.Validator.ReportTree
import SignatureTrust.Proofs.Verdict

/-!
# `Proofs.Validator.Indication` — when a report says VALID

The indication of a report is the worst of four, and three of them are about the signing
certificate: which one it is (level BES), whether its key made the value (integrity), and whether
its chain is trusted. Each finds the certificate in its own way. **They all mean the same one**: the
first that the signature brings with the digest of the first reference. So the report comes to one
statement about the signature (`Settings.Accepts`), in which

> no verdict, no report and no order of checks is left; not even whether the checks stop early
> shows.

Timestamps, the levels above BES, qualification and counter-signatures have no part in it.
-/

set_option autoImplicit false

namespace SignatureTrust

/-! ## What is asked of a signature -/

namespace Signature

/-- The certificates that a signature brings, those in the key information first. -/
def broughtCertificates (s : Signature) : List Certificate :=
  (match s.keyInfo with
    | some k => k.certificates
    | none => []) ++
  match s.certificateValues? with
  | some v => v.certificates
  | none => []

/-- The first certificate that the signature brings with the digest of the first signing-certificate
reference. -/
def Designates (s : Signature) (crypto : Crypto) (x : Certificate) : Prop :=
  ∃ ref refs before after, s.signingCertificateRefs = ref :: refs ∧
    s.broughtCertificates = before ++ x :: after ∧
    (∀ y ∈ before, ¬ ref.digest.Fits crypto y.encoding) ∧ ref.digest.Fits crypto x.encoding

/-- The signature method is known, and the key of the certificate made the value over the signed
information. -/
def IsValueBy (s : Signature) (crypto : Crypto) (x : Certificate) : Prop :=
  ∃ d, SignatureAlgorithm.ofUri s.signedInfo.method = .rsa d ∧
    crypto.verifies x ⟨s.signedInfo.canonical, .rsa d, s.value.value⟩ = true

end Signature

/-- What a signature has to be for a report to say that it is valid. -/
structure Settings.Accepts (v : Settings) (date : Instant) (s : Signature) : Prop where
  references : ∀ ref ∈ s.references, ref.digest.Fits v.crypto ref.data
  -- one certificate, for the value and for the chain
  signer : ∃ x, s.Designates v.crypto x ∧ s.IsValueBy v.crypto x ∧
    ∃ c, (Context.ofTarget (.certificate x) date).discover (v.sources s) v.config = .ok c ∧
      (chainVerdict (some c)).indication = .valid
  -- every selected check finds nothing when it is run alone
  structural : ∀ check, v.config.structuralChecks.selects check = true → (Structure.examine
    { v.config with structuralChecks := .ofCheck check } v.crypto s).failures = []

variable {v : Settings} {crypto : Crypto} {date : Instant} {s : Signature} {x : Certificate}

/-! ## The signing certificate -/

/-- A test that asks only for the encoding finds the same one in a list and in the list with each
encoding once. -/
theorem find?_foldl_kept {p : Certificate → Bool}
    (hp : ∀ a b : Certificate, a.sameEncoding b = true → p a = p b)
    (xs kept : List Certificate) :
    (xs.foldl (fun kept c =>
        if kept.any (·.sameEncoding c) then kept else kept ++ [c]) kept).find? p =
      (kept ++ xs).find? p := by
  induction xs generalizing kept with
  | nil => rw [List.foldl_nil, List.append_nil]
  | cons c xs ih =>
      rw [List.foldl_cons, ih]
      by_cases hc : kept.any (·.sameEncoding c) = true
      · -- a certificate that was left out is not the first that passes
        rw [if_pos hc, List.find?_append, List.find?_append]
        obtain ⟨a, ha, hac⟩ := List.any_eq_true.1 hc
        cases hpc : p c with
        | false => rw [List.find?_cons_of_neg (by simp [hpc])]
        | true =>
            have hfound : (kept.find? p).isSome = true :=
              List.find?_isSome.2 ⟨a, ha, (hp a c hac).trans hpc⟩
            obtain ⟨b, hb⟩ := Option.isSome_iff_exists.1 hfound
            rw [hb]
            rfl
      · rw [if_neg hc, List.append_assoc, List.singleton_append]

theorem Signature.signingCertificate?_eq_some_iff :
    s.signingCertificate? crypto = some x ↔ s.Designates crypto x := by
  unfold Signature.signingCertificate? Designates
  cases hrefs : s.signingCertificateRefs with
  | nil => simp
  | cons ref refs =>
      have hencoding : ∀ a b : Certificate, a.sameEncoding b = true →
          ref.isMatch crypto a = ref.isMatch crypto b := by
        intro a b hab
        unfold CertificateRef.isMatch
        rw [Certificate.sameEncoding_iff.1 hab]
      have hfind : s.embeddedCertificates.find? (ref.isMatch crypto) =
          s.broughtCertificates.find? (ref.isMatch crypto) :=
        find?_foldl_kept hencoding s.broughtCertificates []
      change s.embeddedCertificates.find? (ref.isMatch crypto) = some x ↔ _
      rw [hfind, List.find?_eq_some_iff_append]
      constructor
      · rintro ⟨hx, before, after, hsplit, hbefore⟩
        refine ⟨ref, refs, before, after, rfl, hsplit, ?_, DigestValue.isOf_iff.1 hx⟩
        intro y hy hfits
        have hnot : ref.digest.isOf crypto y.encoding = false := by
          simpa [CertificateRef.isMatch] using hbefore y hy
        exact Bool.false_ne_true (hnot.symm.trans (DigestValue.isOf_iff.2 hfits))
      · rintro ⟨_, _, before, after, heq, hsplit, hbefore, hx⟩
        obtain ⟨rfl, rfl⟩ := List.cons.inj heq
        refine ⟨DigestValue.isOf_iff.2 hx, before, after, hsplit, ?_⟩
        intro y hy
        have hnot : ref.digest.isOf crypto y.encoding ≠ true :=
          fun h => hbefore y hy (DigestValue.isOf_iff.1 h)
        simpa [CertificateRef.isMatch] using hnot

theorem Assessment.isValid_bes_iff {a : Assessment} :
    a.bes.isValid = true ↔ ∃ x, a.signature.signingCertificate? a.crypto = some x := by
  unfold bes Signature.signingCertificate?
  cases a.signature.signingCertificateRefs.head? with
  | none => simp
  | some first =>
      change _ ↔ ∃ x, a.signature.embeddedCertificates.find? (first.isMatch a.crypto) = some x
      rw [← Option.isSome_iff_exists, List.find?_isSome, ← List.any_eq_true]
      dsimp only
      by_cases hmatch : a.signature.embeddedCertificates.any (first.isMatch a.crypto) = true
      · rw [if_pos hmatch]
        exact iff_of_true Verdict.isValid_valid hmatch
      · rw [if_neg hmatch]
        refine iff_of_false ?_ hmatch
        split
        · exact Bool.false_ne_true
        · exact Bool.false_ne_true

/-! ## Integrity -/

namespace Signature

theorem isValid_referenceVerdict_iff {r : DataReference} {position : Nat} :
    (referenceVerdict crypto r position).isValid = true ↔ r.digest.Fits crypto r.data := by
  rw [← DigestValue.isOf_iff]
  unfold referenceVerdict
  dsimp only
  cases hd : r.digest.algorithm? with
  | none => simp [DigestValue.isOf, hd]
  | some d =>
      by_cases hfits : r.digest.isOf crypto r.data = true
      · simp [hfits]
      · simp [hfits]

theorem isValid_valueVerdict_iff :
    (s.valueVerdict crypto (some x)).isValid = true ↔ s.IsValueBy crypto x := by
  unfold valueVerdict IsValueBy
  dsimp only
  cases SignatureAlgorithm.ofUri s.signedInfo.method with
  | other name => simp [SignatureAlgorithm.digest?]
  | rsa d =>
      by_cases hverifies : crypto.verifies x ⟨s.signedInfo.canonical, .rsa d,
        s.value.value⟩ = true
      · simp [SignatureAlgorithm.digest?, hverifies]
      · simp [SignatureAlgorithm.digest?, hverifies]

theorem isValid_integrity_iff :
    (s.integrity crypto (some x)).isValid = true ↔
      (∀ ref ∈ s.references, ref.digest.Fits crypto ref.data) ∧ s.IsValueBy crypto x := by
  unfold integrity
  rw [Verdict.isValid_combine_iff, List.forall_mem_append, List.forall_mem_singleton,
    isValid_valueVerdict_iff, List.forall_mem_map]
  refine and_congr_left fun _ => ?_
  -- the position is for the message alone
  simp only [isValid_referenceVerdict_iff]
  rw [← List.forall_mem_map (P := fun ref : DataReference => ref.digest.Fits crypto ref.data),
    List.zipIdx_map_fst]

end Signature

/-! ## The report -/

theorem Report.structureIndication_eq_valid_iff {r : Report} :
    r.structureIndication = .valid ↔ r.structural.isConsistent = true := by
  unfold structureIndication
  cases r.structural.isConsistent <;> decide

namespace Settings

theorem indication_report_iff (signer : Option Certificate) (context : Option Context) :
    (v.report s date signer context).indication = .valid ↔
      (s.integrity v.crypto signer).isValid = true ∧
        (chainVerdict context).indication = .valid ∧
        (∃ x, s.signingCertificate? v.crypto = some x) ∧
        (Structure.examine v.config v.crypto s).isConsistent = true := by
  have hbes : (v.report s date signer context).levels.bes.indication = .valid ↔
      ∃ x, s.signingCertificate? v.crypto = some x :=
    Verdict.isValid_iff.symm.trans Assessment.isValid_bes_iff
  unfold Report.indication
  rw [Indication.worst_eq_valid_iff, Indication.worst_eq_valid_iff, Indication.worst_eq_valid_iff,
    and_assoc, and_assoc, hbes, Report.structureIndication_eq_valid_iff, Verdict.isValid_iff]
  rfl

/-- A report on a signature alone, by whether its signing certificate is there. -/
theorem report_of_afreshAlone {r : Report} (h : v.afreshAlone date s = .ok r) :
    (s.signingCertificate? v.crypto = none ∧ r = v.report s date none none) ∨
      ∃ x c, s.signingCertificate? v.crypto = some x ∧
        (Context.ofTarget (.certificate x) date).discover (v.sources s) v.config = .ok c ∧
        r = v.report s date (some x) (some c) := by
  unfold afreshAlone at h
  cases hrefusal : refusal? s.toSignatureCore with
  | some e =>
      rw [hrefusal] at h
      cases h
  | none =>
      rw [hrefusal] at h
      cases hx : s.signingCertificate? v.crypto with
      | none =>
          rw [hx] at h
          exact .inl ⟨rfl, (Except.ok.inj h).symm⟩
      | some x =>
          rw [hx] at h
          dsimp only at h
          cases hd : (Context.ofTarget (.certificate x) date).discover (v.sources s) v.config with
          | error e =>
              rw [hd] at h
              cases h
          | ok c =>
              rw [hd] at h
              exact .inr ⟨x, c, rfl, hd, (Except.ok.inj h).symm⟩

theorem isConsistent_examine_iff_alone :
    (Structure.examine v.config v.crypto s).isConsistent = true ↔
      ∀ check, v.config.structuralChecks.selects check = true →
        (Structure.examine
          { v.config with structuralChecks := .ofCheck check } v.crypto s).failures = [] := by
  simp only [Structure.isConsistent_examine_iff, Structure.failures_examine_ofCheck]

theorem indication_of_afreshAlone {r : Report} (h : v.afreshAlone date s = .ok r) :
    r.indication = .valid ↔ v.Accepts date s := by
  rcases report_of_afreshAlone h with ⟨hnone, rfl⟩ | ⟨x, c, hx, hd, rfl⟩
  · -- without a signing certificate both sides fail
    rw [indication_report_iff]
    constructor
    · rintro ⟨-, -, ⟨x, hx⟩, -⟩
      rw [hnone] at hx
      cases hx
    · rintro ⟨-, ⟨x, hx, -⟩, -⟩
      rw [← Signature.signingCertificate?_eq_some_iff, hnone] at hx
      cases hx
  · rw [indication_report_iff, Signature.isValid_integrity_iff, isConsistent_examine_iff_alone]
    constructor
    · rintro ⟨⟨href, hvalue⟩, hchain, -, hstructural⟩
      exact ⟨href, ⟨x, Signature.signingCertificate?_eq_some_iff.1 hx, hvalue, c, hd, hchain⟩,
        hstructural⟩
    · rintro ⟨href, ⟨x', hx', hvalue, c', hd', hchain⟩, hstructural⟩
      obtain rfl :=
        Option.some.inj (hx.symm.trans (Signature.signingCertificate?_eq_some_iff.2 hx'))
      obtain rfl := Except.ok.inj (hd.symm.trans hd')
      exact ⟨⟨href, hvalue⟩, hchain, ⟨x, hx⟩, hstructural⟩

end Settings

/-- **A report of a validator without a memo says that the signature is valid just if the signature
is accepted**: its references fit, one certificate that it brings made its value and has a valid
chain, and every check selected finds nothing. -/
theorem Validator.indication_eq_valid_iff (settings : Settings) (s : Signature)
    (date : Instant) (r : Report) (h : ((Validator.mk settings none).validate s date).1 = .ok r) :
    r.indication = .valid ↔ settings.Accepts date s := by
  have halone : (settings.validateAlone date s none).1 = .ok { r with counterSignatures := [] } :=
    Settings.validateAlone_of_validate h
  rw [Settings.validateAlone_none] at halone
  -- the reports on counter-signatures do not count
  change Report.indication { r with counterSignatures := [] } = .valid ↔ _
  exact Settings.indication_of_afreshAlone halone

namespace Specimen

/-- The root is trusted, and its list can be had outside. -/
def online : Settings := { offline with crls := some (.ofList [list]) }

/-- A signature of the leaf's holder over some data. -/
def sealedData : Signature where
  id := none
  signedInfo := ⟨none, SignatureAlgorithm.rsaUri .sha256, []⟩
  references := [⟨none, "", none, ⟨DigestAlgorithm.sha256.uri, [9]⟩, [9]⟩]
  value := ⟨none, [1], []⟩
  keyInfo := some ⟨none, [leaf, root], []⟩
  signedProperties :=
    some ⟨none, none, [⟨⟨DigestAlgorithm.sha256.uri, leaf.encoding⟩, leaf.issuer, "2"⟩],
      none, none, [], [], [], []⟩
  unsignedId := none
  unsigned := []

/-- The report on it is valid, so it is accepted. -/
theorem sealedData_accepted :
    ∃ r, ((Validator.mk online none).validate sealedData ⟨5⟩).1 = .ok r ∧
      r.indication = .valid ∧ online.Accepts ⟨5⟩ sealedData := by
  have hrun : ((Validator.mk online none).validate sealedData ⟨5⟩).1.toOption.map
      (·.indication) = some .valid := by
    decide +kernel
  cases hr : ((Validator.mk online none).validate sealedData ⟨5⟩).1 with
  | error e =>
      rw [hr] at hrun
      cases hrun
  | ok r =>
      rw [hr] at hrun
      have hvalid : r.indication = .valid := Option.some.inj hrun
      exact ⟨r, rfl, hvalid,
        (Validator.indication_eq_valid_iff online sealedData ⟨5⟩ r hr).1 hvalid⟩

end Specimen
end SignatureTrust
