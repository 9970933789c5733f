import Mathlib.Data.List.Forall2
import Mathlib.Data.Set.Insert
import SignatureTrust.Structure.Examination

/-!
# `Proofs.Structure.Includes` — includes that have to be an exact set

What a timestamp says it is over is a list of URIs, and what it has to be over is a list of
requirements. Both are compared as sets, by what is absent from the one and by what is surplus in
it, and **nothing is absent and nothing surplus just if the sets are equal**
(`exactFailures_eq_nil_iff`). A requirement for an element that is not there, or that has no
identifier, fails before anything is compared, so

> where there are timestamps of its kind, the check passes when every required element has an
> identifier and each timestamp includes exactly those identifiers
> (`requirementFailures_eq_nil_iff`).

For the timestamps over references, with and without the signature, that is
`exact_includes_accept_prescribed_sets`. That the lists are sets shows in the failures too: what is
absent or surplus is listed in the order of its characters, each once.
-/

set_option autoImplicit false

namespace SignatureTrust

/-! ## Includes in another order -/

/-- Another timestamp has the same includes, in any order and repetition, and is the same
otherwise. -/
def TimestampElement.Rearranged (t u : TimestampElement) : Prop :=
  ∃ includes, u = { t with includes } ∧ ∀ uri, uri ∈ includes ↔ uri ∈ t.includes

/-- Another property is the same, or a timestamp of the same kind that is rearranged. -/
inductive UnsignedProperty.Rearranged : UnsignedProperty → UnsignedProperty → Prop
  | same (p : UnsignedProperty) : Rearranged p p
  | signatureTimestamp {t u : TimestampElement} (h : t.Rearranged u) :
      Rearranged (.signatureTimestamp t) (.signatureTimestamp u)
  | sigAndRefsTimestamp {t u : TimestampElement} (h : t.Rearranged u) :
      Rearranged (.sigAndRefsTimestamp t) (.sigAndRefsTimestamp u)
  | refsOnlyTimestamp {t u : TimestampElement} (h : t.Rearranged u) :
      Rearranged (.refsOnlyTimestamp t) (.refsOnlyTimestamp u)
  | archiveTimestamp {t u : TimestampElement} (h : t.Rearranged u) :
      Rearranged (.archiveTimestamp t) (.archiveTimestamp u)

/-- Another signature is the same but for the order and repetition of the includes of its unsigned
timestamps. -/
structure Signature.Rearranged (s s' : Signature) : Prop where
  core : s.toSignatureCore = s'.toSignatureCore
  unsigned : List.Forall₂ UnsignedProperty.Rearranged s.unsigned s'.unsigned

/-- The identifiers that a timestamp includes. -/
def TimestampElement.includedSet (t : TimestampElement) : Set String := {id | id ∈ t.includedIds}

/-- Both collections of references are there and have these identifiers. -/
structure Signature.RefsNamed (s : Signature) (certificatesId revocationsId : String) : Prop where
  certificates : ∃ r, s.certificateRefs? = some r ∧ r.id = some certificatesId
  revocations : ∃ r, s.revocationRefs? = some r ∧ r.id = some revocationsId

namespace TimestampElement.Rearranged

variable {t u : TimestampElement}

theorem refl (t : TimestampElement) : t.Rearranged t := ⟨t.includes, rfl, fun _ => Iff.rfl⟩

theorem id_eq (h : t.Rearranged u) : t.id = u.id := by
  obtain ⟨_, rfl, -⟩ := h
  rfl

theorem mem_includedIds_iff (h : t.Rearranged u) (id : String) :
    id ∈ t.includedIds ↔ id ∈ u.includedIds := by
  obtain ⟨includes, rfl, hmem⟩ := h
  simp [includedIds, hmem]

end TimestampElement.Rearranged

namespace UnsignedProperty.Rearranged

variable {p q : UnsignedProperty}

theorem rel_refl : ∀ t? : Option TimestampElement, Option.Rel TimestampElement.Rearranged t? t?
  | none => .none
  | some t => .some (.refl t)

theorem signatureTimestamp? (h : p.Rearranged q) :
    Option.Rel TimestampElement.Rearranged p.signatureTimestamp? q.signatureTimestamp? := by
  cases h with
  | same => exact rel_refl _
  | signatureTimestamp h => exact .some h
  | sigAndRefsTimestamp _ | refsOnlyTimestamp _ | archiveTimestamp _ => exact .none

theorem sigAndRefsTimestamp? (h : p.Rearranged q) :
    Option.Rel TimestampElement.Rearranged p.sigAndRefsTimestamp? q.sigAndRefsTimestamp? := by
  cases h with
  | same => exact rel_refl _
  | sigAndRefsTimestamp h => exact .some h
  | signatureTimestamp _ | refsOnlyTimestamp _ | archiveTimestamp _ => exact .none

theorem refsOnlyTimestamp? (h : p.Rearranged q) :
    Option.Rel TimestampElement.Rearranged p.refsOnlyTimestamp? q.refsOnlyTimestamp? := by
  cases h with
  | same => exact rel_refl _
  | refsOnlyTimestamp h => exact .some h
  | signatureTimestamp _ | sigAndRefsTimestamp _ | archiveTimestamp _ => exact .none

theorem certificateRefs?_eq (h : p.Rearranged q) : p.certificateRefs? = q.certificateRefs? := by
  cases h <;> rfl

theorem revocationRefs?_eq (h : p.Rearranged q) : p.revocationRefs? = q.revocationRefs? := by
  cases h <;> rfl

end UnsignedProperty.Rearranged

namespace Signature.Rearranged

variable {s s' : Signature}

theorem findSome?_eq {α : Type} {f : UnsignedProperty → Option α}
    {ps qs : List UnsignedProperty} (h : List.Forall₂ UnsignedProperty.Rearranged ps qs)
    (hf : ∀ {p q}, p.Rearranged q → f p = f q) :
    ps.findSome? f = qs.findSome? f := by
  induction h with
  | nil => rfl
  | cons hpq _ ih => rw [List.findSome?_cons, List.findSome?_cons, hf hpq, ih]

theorem certificateRefs?_eq (h : s.Rearranged s') : s.certificateRefs? = s'.certificateRefs? :=
  findSome?_eq h.unsigned UnsignedProperty.Rearranged.certificateRefs?_eq

theorem revocationRefs?_eq (h : s.Rearranged s') : s.revocationRefs? = s'.revocationRefs? :=
  findSome?_eq h.unsigned UnsignedProperty.Rearranged.revocationRefs?_eq

theorem timestamps {kind : UnsignedProperty → Option TimestampElement}
    (h : s.Rearranged s')
    (hkind : ∀ {p q}, p.Rearranged q →
      Option.Rel TimestampElement.Rearranged (kind p) (kind q)) :
    List.Forall₂ TimestampElement.Rearranged (s.unsigned.filterMap kind)
      (s'.unsigned.filterMap kind) :=
  List.rel_filterMap (fun _ _ hpq => hkind hpq) h.unsigned

end Signature.Rearranged

namespace Structure

variable {check : Check} {name label : String} {expected included : List String}
  {t u : TimestampElement} {requirements : List Requirement} {timestamps : List TimestampElement}
  {s s' : Signature}

/-! ## Identifiers in order -/

theorem nodup_eraseDups : ∀ ids : List String, ids.eraseDups.Nodup
  | [] => List.nodup_nil
  | id :: ids => by
      rw [List.eraseDups_cons, List.nodup_cons]
      exact ⟨by simp, nodup_eraseDups _⟩
termination_by ids => ids.length
decreasing_by exact Nat.lt_succ_of_le (List.length_filter_le _ _)

@[simp] theorem mem_inOrder_iff {ids : List String} {id : String} :
    id ∈ inOrder ids ↔ id ∈ ids := by
  simp [inOrder]

theorem nodup_inOrder (ids : List String) : (inOrder ids).Nodup :=
  (List.mergeSort_perm _ _).nodup_iff.2 (nodup_eraseDups ids)

theorem pairwise_inOrder (ids : List String) : (inOrder ids).Pairwise (· ≤ ·) := by
  have htrans (a b c : String) : decide (a ≤ b) = true → decide (b ≤ c) = true →
      decide (a ≤ c) = true := by
    simpa using String.le_trans
  have htotal (a b : String) : (decide (a ≤ b) || decide (b ≤ a)) = true := by
    simpa using String.le_total a b
  simpa [inOrder] using List.pairwise_mergeSort htrans htotal ids.eraseDups

/-- A set of identifiers is listed in one way. -/
theorem inOrder_congr {xs ys : List String} (h : ∀ id, id ∈ xs ↔ id ∈ ys) :
    inOrder xs = inOrder ys := by
  have hperm : (inOrder xs).Perm (inOrder ys) :=
    (List.perm_ext_iff_of_nodup (nodup_inOrder xs) (nodup_inOrder ys)).2 fun id => by
      simpa using h id
  exact hperm.eq_of_pairwise (fun _ _ _ _ => String.le_antisymm) (pairwise_inOrder xs)
    (pairwise_inOrder ys)

/-! ## Comparing -/

theorem absentFailures_eq_nil_iff :
    absentFailures check label expected included = [] ↔ expected ⊆ included := by
  simp [absentFailures, List.subset_def]

theorem surplusFailures_eq_nil_iff :
    surplusFailures check label expected included = [] ↔ included ⊆ expected := by
  simp [surplusFailures, List.subset_def]

theorem exactFailures_eq_nil_iff :
    exactFailures check name expected t = [] ↔ t.includedSet = {id | id ∈ expected} := by
  rw [exactFailures, List.append_eq_nil_iff, absentFailures_eq_nil_iff,
    surplusFailures_eq_nil_iff, and_comm]
  exact Set.Subset.antisymm_iff.symm

theorem Requirement.failure?_eq_none_iff {r : Requirement} :
    r.failure? check = none ↔ r.id? ≠ none := by
  cases r with
  | element name id => cases id <;> simp [failure?, id?]
  | missing name => simp [failure?, id?]

/-- **The check passes when all that is required has an identifier, and each timestamp includes
exactly these.** -/
theorem requirementFailures_eq_nil_iff :
    requirementFailures check name requirements timestamps = [] ↔
      timestamps = [] ∨
        none ∉ requirements.map Requirement.id? ∧
          ∀ t ∈ timestamps, t.includedSet =
            {id | some id ∈ requirements.map Requirement.id?} := by
  unfold requirementFailures
  cases timestamps with
  | nil => simp
  | cons t ts =>
      have hnamed : requirements.filterMap (Requirement.failure? check) = [] ↔
          none ∉ requirements.map Requirement.id? := by
        simp [List.filterMap_eq_nil_iff, Requirement.failure?_eq_none_iff]
      have hids : {id | id ∈ requirements.filterMap Requirement.id?} =
          {id | some id ∈ requirements.map Requirement.id?} := by
        simp
      rw [if_neg (by simp), List.append_eq_nil_iff, List.flatMap_eq_nil_iff, hnamed,
        or_iff_right (by simp), ← hids]
      simp only [exactFailures_eq_nil_iff]

/-! ## What is required -/

theorem id?_refsRequirements :
    (refsRequirements s).map Requirement.id? =
      [s.certificateRefs?.bind (·.id), s.revocationRefs?.bind (·.id)] := by
  cases hc : s.certificateRefs? <;> cases hr : s.revocationRefs? <;>
    simp [refsRequirements, hc, hr, Requirement.id?]

theorem id?_sigAndRefsRequirements :
    (sigAndRefsRequirements s).map Requirement.id? =
      s.value.id :: s.signatureTimestamps.map (·.id) ++
        [s.certificateRefs?.bind (·.id), s.revocationRefs?.bind (·.id)] := by
  simp [sigAndRefsRequirements, id?_refsRequirements, Requirement.id?, Function.comp_def]

theorem refsNamed_iff {certificatesId revocationsId : String} :
    s.RefsNamed certificatesId revocationsId ↔
      s.certificateRefs?.bind (·.id) = some certificatesId ∧
        s.revocationRefs?.bind (·.id) = some revocationsId := by
  rw [Option.bind_eq_some_iff, Option.bind_eq_some_iff]
  exact ⟨fun h => ⟨h.certificates, h.revocations⟩, fun h => ⟨h.1, h.2⟩⟩

theorem sigAndRefsTimestampFailures_eq_nil_iff :
    sigAndRefsTimestampFailures s = [] ↔
      s.sigAndRefsTimestamps = [] ∨
        ∃ valueId certificatesId revocationsId, s.value.id = some valueId ∧
          s.RefsNamed certificatesId revocationsId ∧
          (∀ t ∈ s.signatureTimestamps, t.id ≠ none) ∧
          ∀ t ∈ s.sigAndRefsTimestamps, t.includedSet =
            {valueId} ∪ {id | ∃ u ∈ s.signatureTimestamps, u.id = some id} ∪
              {certificatesId, revocationsId} := by
  rw [sigAndRefsTimestampFailures, requirementFailures_eq_nil_iff, id?_sigAndRefsRequirements]
  simp only [refsNamed_iff]
  refine or_congr_right ?_
  -- whatever has no identifier fails both sides
  cases s.value.id with
  | none => simp
  | some valueId =>
      cases s.certificateRefs?.bind (·.id) with
      | none => simp
      | some certificatesId =>
          cases s.revocationRefs?.bind (·.id) with
          | none => simp
          | some revocationsId =>
              have hset : {id | some id ∈ some valueId ::
                  s.signatureTimestamps.map (·.id) ++ [some certificatesId, some revocationsId]} =
                  ({valueId} ∪ {id | ∃ u ∈ s.signatureTimestamps, u.id = some id} ∪
                    {certificatesId, revocationsId} : Set String) := by
                ext id
                simp [-Set.union_insert, or_assoc]
              rw [hset]
              simp

theorem refsOnlyTimestampFailures_eq_nil_iff :
    refsOnlyTimestampFailures s = [] ↔
      s.refsOnlyTimestamps = [] ∨
        ∃ certificatesId revocationsId, s.RefsNamed certificatesId revocationsId ∧
          ∀ t ∈ s.refsOnlyTimestamps, t.includedSet = {certificatesId, revocationsId} := by
  rw [refsOnlyTimestampFailures, requirementFailures_eq_nil_iff, id?_refsRequirements]
  simp only [refsNamed_iff]
  refine or_congr_right ?_
  cases s.certificateRefs?.bind (·.id) with
  | none => simp
  | some certificatesId =>
      cases s.revocationRefs?.bind (·.id) with
      | none => simp
      | some revocationsId =>
          have hset : {id | some id ∈ [some certificatesId, some revocationsId]} =
              ({certificatesId, revocationsId} : Set String) := by
            ext id
            simp
          rw [hset]
          simp

/-! ## The order of the includes -/

theorem exactFailures_rearranged (h : t.Rearranged u) :
    exactFailures check name expected t = exactFailures check name expected u := by
  have hlabel : timestampLabel name t = timestampLabel name u := by
    rw [timestampLabel, timestampLabel, h.id_eq]
  have hcontains : (fun id => !t.includedIds.contains id) = fun id =>
      !u.includedIds.contains id := by
    funext id
    rw [Bool.not_inj_iff, Bool.eq_iff_iff, List.contains_iff_mem, List.contains_iff_mem,
      h.mem_includedIds_iff]
  unfold exactFailures absentFailures surplusFailures
  rw [hlabel, hcontains, inOrder_congr h.mem_includedIds_iff]

theorem requirementFailures_rearranged {others : List TimestampElement}
    (h : List.Forall₂ TimestampElement.Rearranged timestamps others) :
    requirementFailures check name requirements timestamps =
      requirementFailures check name requirements others := by
  have hflat (expected : List String) : timestamps.flatMap (exactFailures check name expected) =
      others.flatMap (exactFailures check name expected) := by
    induction h with
    | nil => rfl
    | cons htu _ ih => rw [List.flatMap_cons, List.flatMap_cons, exactFailures_rearranged htu, ih]
  unfold requirementFailures
  rw [hflat]
  cases h with
  | nil => rfl
  | cons _ _ => rfl

theorem map_id_rearranged {α : Type} {others : List TimestampElement} (f : Option String → α)
    (h : List.Forall₂ TimestampElement.Rearranged timestamps others) :
    timestamps.map (fun t => f t.id) = others.map fun t => f t.id := by
  induction h with
  | nil => rfl
  | cons htu _ ih => rw [List.map_cons, List.map_cons, htu.id_eq, ih]

theorem refsRequirements_rearranged (h : s.Rearranged s') :
    refsRequirements s = refsRequirements s' := by
  unfold refsRequirements
  rw [h.certificateRefs?_eq, h.revocationRefs?_eq]

theorem sigAndRefsRequirements_rearranged (h : s.Rearranged s') :
    sigAndRefsRequirements s = sigAndRefsRequirements s' := by
  have htimestamps := map_id_rearranged (Requirement.element "SignatureTimeStamp")
    (h.timestamps UnsignedProperty.Rearranged.signatureTimestamp?)
  change _ :: s.signatureTimestamps.map (fun t => _) ++ _ =
    _ :: s'.signatureTimestamps.map (fun t => _) ++ _
  rw [refsRequirements_rearranged h, h.core]
  exact congrArg (fun stamps => _ :: stamps ++ _) htimestamps

/-! ## The timestamps over references -/

/-- **The checks on timestamps over references accept exactly the prescribed sets.** They pass where
there is no such timestamp, or where both collections of references are there, everything that a
timestamp of the kind has to be over has an identifier, and each includes the set of these
identifiers. Whatever they find, the order and repetition of includes make no difference to it. -/
theorem exact_includes_accept_prescribed_sets (crypto : Crypto) (s : Signature) :
    (Check.sigAndRefsTimestampIncludes.failures crypto s = [] ↔
      s.sigAndRefsTimestamps = [] ∨
        ∃ valueId certificatesId revocationsId, s.value.id = some valueId ∧
          s.RefsNamed certificatesId revocationsId ∧
          (∀ t ∈ s.signatureTimestamps, t.id ≠ none) ∧
          ∀ t ∈ s.sigAndRefsTimestamps, t.includedSet =
            {valueId} ∪ {id | ∃ u ∈ s.signatureTimestamps, u.id = some id} ∪
              {certificatesId, revocationsId}) ∧
    (Check.refsOnlyTimestampIncludes.failures crypto s = [] ↔
      s.refsOnlyTimestamps = [] ∨
        ∃ certificatesId revocationsId, s.RefsNamed certificatesId revocationsId ∧
          ∀ t ∈ s.refsOnlyTimestamps, t.includedSet = {certificatesId, revocationsId}) ∧
    ∀ s', s.Rearranged s' →
      Check.sigAndRefsTimestampIncludes.failures crypto s =
        Check.sigAndRefsTimestampIncludes.failures crypto s' ∧
        Check.refsOnlyTimestampIncludes.failures crypto s =
          Check.refsOnlyTimestampIncludes.failures crypto s' := by
  refine ⟨sigAndRefsTimestampFailures_eq_nil_iff, refsOnlyTimestampFailures_eq_nil_iff,
    fun s' h => ⟨?_, ?_⟩⟩
  · change requirementFailures _ _ (sigAndRefsRequirements s) _ =
      requirementFailures _ _ (sigAndRefsRequirements s') _
    rw [sigAndRefsRequirements_rearranged h]
    exact requirementFailures_rearranged
      (h.timestamps UnsignedProperty.Rearranged.sigAndRefsTimestamp?)
  · change requirementFailures _ _ (refsRequirements s) _ =
      requirementFailures _ _ (refsRequirements s') _
    rw [refsRequirements_rearranged h]
    exact requirementFailures_rearranged
      (h.timestamps UnsignedProperty.Rearranged.refsOnlyTimestamp?)

end Structure
end SignatureTrust
