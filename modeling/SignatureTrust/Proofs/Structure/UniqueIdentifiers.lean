import Mathlib.Data.List.Count
import Mathlib.Data.List.Nodup
import SignatureTrust.Proofs.Signature.Coverage
import SignatureTrust.Structure.Examination

/-!
# `Proofs.Structure.UniqueIdentifiers` — which repeated identifiers are found

The check goes through the identifiers of a signature and reports one when it comes for the second
time. So it reports

> **each repeated identifier exactly once, and nothing else** (`reportsRepeated_elementIds`),

of those that it goes through. These are the identifiers of everything that the signer made and of
the unsigned properties; of a counter-signature, that of the element. What is inside a
counter-signature has identifiers too (`Signature.allIds`), and references go to them by identifier
like to any other. A repetition that takes one of these is not seen, and the check says of all
identifiers what it should **just if no repetition hides in there**
(`repetitions_reported_iff_none_hidden`).
-/

set_option autoImplicit false

namespace SignatureTrust

/-! ## All identifiers -/

namespace Signature

/-- The identifiers of what the signer made, and of the element that holds the unsigned
properties. -/
def coreIds (core : SignatureCore) : List String :=
  core.id.toList ++ core.signedInfo.id.toList ++ core.references.filterMap (·.id) ++
      core.value.id.toList ++ (core.keyInfo.bind (·.id)).toList ++
      (match core.signedProperties with
      | some p => signedPropertyIds p
      | none => []) ++
    core.unsignedId.toList

mutual

/-- The identifiers of all elements of a signature, and of all elements of the counter-signatures in
it at any depth. -/
def allIds : Signature → List String
  | ⟨core, unsigned⟩ => coreIds core ++ allIdsIn unsigned

def allIdsIn : List UnsignedProperty → List String
  | [] => []
  | .counterSignature s _ :: rest => s.allIds ++ allIdsIn rest
  | p :: rest => p.id.toList ++ allIdsIn rest

end

variable {s : Signature}

theorem elementIds_eq (s : Signature) :
    s.elementIds = coreIds s.toSignatureCore ++ s.unsigned.filterMap (·.id) := rfl

theorem id_sublist_allIds (s : Signature) : s.id.toList.Sublist s.allIds := by
  obtain ⟨core, unsigned⟩ := s
  rw [allIds, coreIds]
  simp only [List.append_assoc]
  exact List.sublist_append_left _ _

theorem filterMap_id_cons (p : UnsignedProperty) (ps : List UnsignedProperty) :
    (p :: ps).filterMap (·.id) = p.id.toList ++ ps.filterMap (·.id) := by
  cases h : p.id <;> simp [h]

theorem ids_sublist_allIdsIn (ps : List UnsignedProperty) :
    (ps.filterMap (·.id)).Sublist (allIdsIn ps) := by
  induction ps with
  | nil => exact List.Sublist.slnil
  | cons p ps ih =>
      rw [filterMap_id_cons]
      cases p with
      | counterSignature t _ => exact (id_sublist_allIds t).append ih
      | signatureTimestamp _ | certificateRefs _ | revocationRefs _ | sigAndRefsTimestamp _
          | refsOnlyTimestamp _
      | certificateValues _ | revocationValues _ | archiveTimestamp _ =>
          exact (List.Sublist.refl _).append ih

/-- What the check goes through is some of all. -/
theorem elementIds_sublist_allIds (s : Signature) : s.elementIds.Sublist s.allIds := by
  obtain ⟨core, unsigned⟩ := s
  rw [elementIds_eq, allIds]
  exact (List.Sublist.refl _).append (ids_sublist_allIdsIn unsigned)

theorem allIdsIn_eq_of_no_counterSignature {ps : List UnsignedProperty}
    (h : ps.filterMap UnsignedProperty.counterSignature? = []) :
    allIdsIn ps = ps.filterMap (·.id) := by
  induction ps with
  | nil => rfl
  | cons p ps ih =>
      rw [filterMap_id_cons]
      cases p with
      | counterSignature t _ => cases h
      | signatureTimestamp _ | certificateRefs _ | revocationRefs _ | sigAndRefsTimestamp _
          | refsOnlyTimestamp _
      | certificateValues _ | revocationValues _ | archiveTimestamp _ =>
          exact congrArg (_ ++ ·) (ih h)

theorem allIds_eq_of_no_counterSignature (h : s.counterSignatures = []) :
    s.allIds = s.elementIds := by
  obtain ⟨core, unsigned⟩ := s
  rw [elementIds_eq, allIds, allIdsIn_eq_of_no_counterSignature h]

end Signature

namespace Structure

variable {s : Signature} {ids before : List String} {found : List Failure}

/-! ## Repetitions -/

/-- The failure that names a repeated identifier. -/
def repeatedFailure (id : String) : Failure :=
  .general .uniqueIdentifiers ("Id '" ++ id ++ "' is used more than once")

theorem repeatedFailure_injective : Function.Injective repeatedFailure := by
  intro a b h
  have hmessage : "Id '" ++ a ++ "' is used more than once" =
      "Id '" ++ b ++ "' is used more than once" :=
    congrArg Failure.message h
  simpa using hmessage

/-- The failures name each repeated identifier once, and there are no others; none, if no identifier
is repeated. -/
structure ReportsRepeated (ids : List String) (found : List Failure) : Prop where
  passes_iff : found = [] ↔ ids.Nodup
  once : ∀ id, found.count (repeatedFailure id) = if 2 ≤ ids.count id then 1 else 0
  only : ∀ f ∈ found, ∃ id, f = repeatedFailure id

/-- An identifier is listed when it has come at most once and comes for the second time. -/
theorem count_secondOccurrences (id : String) :
    (secondOccurrences before ids).count id =
      if before.count id ≤ 1 ∧ 2 ≤ before.count id + ids.count id then 1 else 0 := by
  induction ids generalizing before with
  | nil =>
      have hnone : ¬ (before.count id ≤ 1 ∧ 2 ≤ before.count id + [].count id) := by
        rw [List.count_nil]
        omega
      rw [if_neg hnone]
      rfl
  | cons other ids ih =>
      rw [secondOccurrences]
      by_cases hid : other = id
      · subst hid
        by_cases hsecond : before.count other = 1
        · rw [if_pos hsecond, List.count_cons_self, ih, List.count_cons_self, List.count_cons_self,
            if_neg (by omega), if_pos (by omega)]
        · rw [if_neg hsecond, ih, List.count_cons_self, List.count_cons_self]
          exact if_congr (by omega) rfl rfl
      · have hcount (l : List String) : (other :: l).count id = l.count id :=
          List.count_cons_of_ne hid
        split
        · rw [hcount, ih, hcount, hcount]
        · rw [ih, hcount, hcount]

theorem count_repeatedFailure (s : Signature) (id : String) :
    (uniqueIdentifierFailures s).count (repeatedFailure id) =
      if 2 ≤ s.elementIds.count id then 1 else 0 := by
  have hmap : uniqueIdentifierFailures s =
      (secondOccurrences [] s.elementIds).map repeatedFailure := rfl
  rw [hmap, List.count_map_of_injective _ _ repeatedFailure_injective, count_secondOccurrences]
  simp

theorem exists_eq_repeatedFailure {f : Failure} (h : f ∈ uniqueIdentifierFailures s) :
    ∃ id, f = repeatedFailure id := by
  obtain ⟨id, -, hid⟩ := List.mem_map.1 h
  exact ⟨id, hid.symm⟩

/-- What names each repeated identifier once, and nothing else, is empty when there is none. -/
theorem ReportsRepeated.of_once
    (once : ∀ id, found.count (repeatedFailure id) = if 2 ≤ ids.count id then 1 else 0)
    (only : ∀ f ∈ found, ∃ id, f = repeatedFailure id) : ReportsRepeated ids found where
  once := once
  only := only
  passes_iff := by
    rw [List.nodup_iff_count_le_one]
    constructor
    · intro hnone id
      have hid := once id
      rw [hnone, List.count_nil] at hid
      by_contra hrepeated
      rw [if_pos (by omega)] at hid
      exact absurd hid Nat.zero_ne_one
    · intro hunique
      apply List.eq_nil_iff_forall_not_mem.2
      intro f hf
      obtain ⟨id, rfl⟩ := only f hf
      have hid := once id
      rw [if_neg (by have := hunique id; omega)] at hid
      exact List.count_eq_zero.1 hid hf

/-- **The check reports each identifier that it meets repeatedly exactly once, and nothing
else.** -/
theorem reportsRepeated_elementIds (s : Signature) :
    ReportsRepeated s.elementIds (uniqueIdentifierFailures s) :=
  .of_once (count_repeatedFailure s) fun _ => exists_eq_repeatedFailure

theorem once_iff_once {p q : Prop} [Decidable p] [Decidable q] :
    ((if p then 1 else 0 : Nat) = if q then 1 else 0) ↔ (p ↔ q) := by
  by_cases hp : p <;> by_cases hq : q <;> simp [hp, hq]

/-- It does so of other identifiers when the same are repeated among these. -/
theorem reportsRepeated_iff :
    ReportsRepeated ids (uniqueIdentifierFailures s) ↔
      ∀ id, 2 ≤ ids.count id ↔ 2 ≤ s.elementIds.count id := by
  have hreports := reportsRepeated_elementIds s
  constructor
  · intro h id
    exact once_iff_once.1 ((h.once id).symm.trans (hreports.once id))
  · intro h
    apply ReportsRepeated.of_once _ hreports.only
    intro id
    rw [hreports.once id]
    exact once_iff_once.2 (h id).symm

/-- **The check says of all identifiers what it should, just if no repetition hides in a
counter-signature.** Of those of the signature and its unsigned properties it reports each repeated
one exactly once; of all, when whatever is repeated is repeated among these. -/
theorem repetitions_reported_iff_none_hidden (crypto : Crypto) (s : Signature) :
    let found := Check.uniqueIdentifiers.failures crypto s
    ReportsRepeated s.elementIds found ∧
      (ReportsRepeated s.allIds found ↔
        ∀ id, 2 ≤ s.allIds.count id → 2 ≤ s.elementIds.count id) ∧
      (s.counterSignatures = [] → ReportsRepeated s.allIds found) := by
  intro found
  have hreports : ReportsRepeated s.elementIds found := reportsRepeated_elementIds s
  refine ⟨hreports, ?_, ?_⟩
  · rw [show found = uniqueIdentifierFailures s from rfl, reportsRepeated_iff]
    have hgrows (id : String) : 2 ≤ s.elementIds.count id → 2 ≤ s.allIds.count id :=
      fun h => Nat.le_trans h (s.elementIds_sublist_allIds.count_le id)
    exact forall_congr' fun id => ⟨Iff.mp, fun h => ⟨h, hgrows id⟩⟩
  · intro hnone
    rw [Signature.allIds_eq_of_no_counterSignature hnone]
    exact hreports

end Structure

namespace Specimen

/-- A signature with a counter-signature whose value has the same identifier. -/
def countersignedAlike : Signature := withUnsigned [.counterSignature (withUnsigned []) []]

/-- The check passes, and two elements have one identifier. -/
theorem clash_across_signatures_passes :
    Structure.Check.uniqueIdentifiers.failures plain countersignedAlike = [] ∧
      ¬ countersignedAlike.allIds.Nodup := by
  decide +kernel

end Specimen
end SignatureTrust
