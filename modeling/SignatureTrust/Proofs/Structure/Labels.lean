import SignatureTrust.Structure.Examination

/-!
# `Proofs.Structure.Labels` — whose failure it is

A failure names the check that found it, and a report puts the failures of all checks into one list,
so the name is all that tells them apart. No check is handed its own name: it is written out
wherever a failure is made, in each of the eighteen and in the rules that several of them share.

> **A check labels whatever it finds with itself** (`labelled_failures`).

A rule that is shared takes the name as an argument and passes it on; of those it is said once.
-/

set_option autoImplicit false

namespace SignatureTrust.Structure

variable {crypto : Crypto} {s : Signature} {check : Check} {α : Type}

/-- Every one of these failures is the check's. -/
def Labelled (check : Check) (found : List Failure) : Prop := ∀ f ∈ found, f.check = check

theorem labelled_nil : Labelled check [] := List.forall_mem_nil _

theorem labelled_general (message : String) : Labelled check [.general check message] :=
  List.forall_mem_singleton.2 rfl

theorem labelled_located (message location : String) :
    Labelled check [.located check message location] :=
  List.forall_mem_singleton.2 rfl

theorem Labelled.append {a b : List Failure} (ha : Labelled check a) (hb : Labelled check b) :
    Labelled check (a ++ b) :=
  List.forall_mem_append.2 ⟨ha, hb⟩

theorem Labelled.ite {p : Prop} [Decidable p] {a b : List Failure} (ha : Labelled check a)
    (hb : Labelled check b) :
    Labelled check (if p then a else b) := by
  split
  · exact ha
  · exact hb

theorem labelled_map {xs : List α} {f : α → Failure} (hf : ∀ a, (f a).check = check) :
    Labelled check (xs.map f) :=
  List.forall_mem_map.2 fun a _ => hf a

theorem labelled_flatMap {xs : List α} {f : α → List Failure}
    (hf : ∀ a, Labelled check (f a)) :
    Labelled check (xs.flatMap f) := by
  intro failure hmem
  obtain ⟨a, -, hfound⟩ := List.mem_flatMap.1 hmem
  exact hf a failure hfound

/-! ## What checks share -/

theorem labelled_absentFailures (label : String) (expected included : List String) :
    Labelled check (absentFailures check label expected included) :=
  labelled_nil.ite (labelled_located _ _)

theorem labelled_exactFailures (name : String) (expected : List String) (t : TimestampElement) :
    Labelled check (exactFailures check name expected t) :=
  (labelled_absentFailures _ _ _).append (labelled_nil.ite (labelled_located _ _))

theorem labelled_requirementFailures (name : String) (requirements : List Requirement)
    (timestamps : List TimestampElement) :
    Labelled check (requirementFailures check name requirements timestamps) := by
  refine labelled_nil.ite
    (Labelled.append ?_ (labelled_flatMap fun t => labelled_exactFailures _ _ t))
  intro failure hmem
  obtain ⟨requirement, -, hfailure⟩ := List.mem_filterMap.1 hmem
  cases requirement with
  | element name id =>
      cases id with
      | some _ => cases hfailure
      | none => exact Option.some.inj hfailure ▸ rfl
  | missing name => exact Option.some.inj hfailure ▸ rfl

theorem labelled_danglingFailures (location : String) (uris : List String) :
    Labelled check (danglingFailures check s location uris) :=
  labelled_map fun _ => rfl

theorem labelled_inSignedProperties {find : SignedProperties → List Failure}
    (hfind : ∀ p, Labelled check (find p)) :
    Labelled check (inSignedProperties s find) := by
  unfold inSignedProperties
  split
  · exact hfind _
  · exact labelled_nil

/-! ## What is a check's own -/

theorem labelled_signingCertificateDigestFailures :
    Labelled .signingCertificateDigest (signingCertificateDigestFailures crypto s) := by
  unfold signingCertificateDigestFailures
  split
  · exact labelled_general _
  · split
    · exact labelled_located _ _
    · exact labelled_nil.ite (labelled_located _ _)

theorem labelled_signingCertificateIssuerSerialFailures :
    Labelled .signingCertificateIssuerSerial (signingCertificateIssuerSerialFailures s) := by
  unfold signingCertificateIssuerSerialFailures
  split
  · exact labelled_nil.ite (labelled_located _ _)
  · exact labelled_general _

theorem labelled_individualDataTimestampFailuresOf (t : TimestampElement) :
    Labelled .individualDataObjectsTimestamp (individualDataTimestampFailuresOf s t) :=
  ((labelled_located _ _).ite labelled_nil).append (labelled_map fun _ => rfl)

theorem labelled_explicitPolicyFailures (identifier : String) (digest : DigestValue) :
    Labelled .signaturePolicy (explicitPolicyFailures identifier digest) :=
  (((labelled_located _ _).ite labelled_nil).append
    ((labelled_located _ _).ite labelled_nil)).append ((labelled_located _ _).ite labelled_nil)

theorem labelled_signerRoleFailures : Labelled .signerRole (signerRoleFailures s) := by
  apply labelled_inSignedProperties
  intro p
  split
  · exact (labelled_located _ _).ite labelled_nil
  · exact labelled_nil

theorem labelled_signaturePolicyFailures :
    Labelled .signaturePolicy (signaturePolicyFailures s) := by
  apply labelled_inSignedProperties
  intro p
  split
  · exact labelled_explicitPolicyFailures _ _
  · exact labelled_nil

theorem labelled_signatureTimestampFailuresOf (t : TimestampElement) :
    Labelled .signatureTimestampIncludes (signatureTimestampFailuresOf s t) := by
  refine labelled_nil.ite ?_
  split
  · exact labelled_located _ _
  · exact labelled_map fun _ => rfl

theorem labelled_certificateRefsFailures :
    Labelled .completeCertificateRefs (certificateRefsFailures crypto s) := by
  unfold certificateRefsFailures
  split
  · exact (labelled_general _).ite labelled_nil
  · split
    · exact labelled_nil
    · exact (labelled_located _ _).ite labelled_nil

theorem labelled_revocationRefsFailures :
    Labelled .completeRevocationRefs (revocationRefsFailures s) := by
  unfold revocationRefsFailures
  split
  · exact labelled_general _
  · exact labelled_general _
  · exact labelled_nil

theorem labelled_archiveTimestampFailures :
    Labelled .archiveTimestampIncludes (archiveTimestampFailures s) :=
  labelled_flatMap fun _ => labelled_nil.ite (labelled_absentFailures _ _ _)

theorem labelled_revocationValuesFailures :
    Labelled .revocationValuesMatchRefs (revocationValuesFailures crypto s) := by
  refine labelled_nil.ite ?_
  exact Labelled.append (labelled_map fun _ => rfl) (labelled_map fun _ => rfl)

theorem labelled_counterSignatureFailure? (parent : SignatureValue) (counter : SignatureCore) :
    Labelled .counterSignatureReferences (counterSignatureFailure? parent counter).toList := by
  unfold counterSignatureFailure?
  dsimp only
  split
  · exact labelled_located _ _
  · split
    · exact labelled_nil
    · exact labelled_located _ _

mutual

theorem labelled_counterSignatureFailures : ∀ s : Signature,
    Labelled .counterSignatureReferences (counterSignatureFailures s)
  | ⟨core, unsigned⟩ => labelled_counterSignatureFailuresIn core.value unsigned

theorem labelled_counterSignatureFailuresIn (parent : SignatureValue) :
    ∀ unsigned : List UnsignedProperty,
      Labelled .counterSignatureReferences (counterSignatureFailuresIn parent unsigned)
  | [] => labelled_nil
  | p :: rest => by
      have hrest := labelled_counterSignatureFailuresIn parent rest
      cases p with
      | counterSignature counter _ =>
          have hinside := labelled_counterSignatureFailures counter
          have hlink := labelled_counterSignatureFailure? parent counter.toSignatureCore
          obtain ⟨core, unsigned⟩ := counter
          exact (hlink.append hinside).append hrest
      | signatureTimestamp _ | certificateRefs _ | revocationRefs _ | sigAndRefsTimestamp _
          | refsOnlyTimestamp _
      | certificateValues _ | revocationValues _ | archiveTimestamp _ => exact hrest

end

/-- **Whatever a check finds is labelled with that check.** -/
theorem labelled_failures (c : Check) : Labelled c (c.failures crypto s) := by
  cases c with
  | signingCertificateDigest => exact labelled_signingCertificateDigestFailures
  | signingCertificateIssuerSerial => exact labelled_signingCertificateIssuerSerialFailures
  | allDataObjectsTimestamp => exact labelled_inSignedProperties fun _ =>
      labelled_requirementFailures _ _ _
  | individualDataObjectsTimestamp =>
      exact labelled_inSignedProperties fun _ =>
        labelled_flatMap labelled_individualDataTimestampFailuresOf
  | commitmentObjectReferences =>
      exact labelled_inSignedProperties fun _ => labelled_flatMap fun _ =>
        labelled_danglingFailures _ _
  | dataObjectFormatReferences =>
      exact labelled_inSignedProperties fun _ => labelled_danglingFailures _ _
  | signerRole => exact labelled_signerRoleFailures
  | signaturePolicy => exact labelled_signaturePolicyFailures
  | signatureTimestampIncludes => exact labelled_flatMap labelled_signatureTimestampFailuresOf
  | completeCertificateRefs => exact labelled_certificateRefsFailures
  | completeRevocationRefs => exact labelled_revocationRefsFailures
  | sigAndRefsTimestampIncludes => exact labelled_requirementFailures _ _ _
  | refsOnlyTimestampIncludes => exact labelled_requirementFailures _ _ _
  | archiveTimestampIncludes => exact labelled_archiveTimestampFailures
  | certificateValuesMatchRefs => exact labelled_nil.ite (labelled_map fun _ => rfl)
  | revocationValuesMatchRefs => exact labelled_revocationValuesFailures
  | counterSignatureReferences => exact labelled_counterSignatureFailures s
  | uniqueIdentifiers => exact labelled_map fun _ => rfl

end SignatureTrust.Structure
