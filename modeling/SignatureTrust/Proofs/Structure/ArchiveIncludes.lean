import SignatureTrust.Proofs.Signature.Coverage
import SignatureTrust.Proofs.Structure.Includes

/-!
# `Proofs.Structure.ArchiveIncludes` — does an archive timestamp name all that it is over?

An archive timestamp that lists includes has to list everything it is over, and may list more. What
it is over is enumerated twice: for its octets, and for the identifiers that it has to include.
**Both run over the same elements in the same order** (`archivedIds_eq_filterMap`, beside
`Signature.archiveData_eq_flatMap`), with one difference. An element adds its octets whether it has
an identifier or not; without one it is not among those that have to be included, though nothing can
include it. So

> the check finds what is not named among the elements with an identifier, and **says of all
> elements what it says of these just if none of them is nameless**
> (`archive_includes_complete_iff_none_nameless`).

The checks on timestamps over references and over data take it the other way: an element without an
identifier fails them.
-/

set_option autoImplicit false

namespace SignatureTrust

/-- A timestamp includes an element by its identifier. -/
def CoveredElement.NamedBy (e : CoveredElement) (t : TimestampElement) : Prop :=
  ∃ id ∈ t.includedIds, e.id = some id

theorem CoveredElement.NamedBy.id_ne_none {e : CoveredElement} {t : TimestampElement}
    (h : e.NamedBy t) : e.id ≠ none := by
  obtain ⟨id, -, hid⟩ := h
  rw [hid]
  exact Option.some_ne_none id

namespace Structure

variable {s : Signature} {position : Nat} {t : TimestampElement}

theorem archivedIds_eq_filterMap (s : Signature) (position : Nat) :
    archivedIds s position = (s.coveredElements position).filterMap (·.id) := by
  have hone (e : CoveredElement) : [e].filterMap (·.id) = e.id.toList := by
    cases h : e.id <;> simp [h]
  have hkeyInfo :
      (s.keyInfo.toList.map fun k => (⟨k.id, k.canonical⟩ : CoveredElement)).filterMap (·.id) =
        (s.keyInfo.bind (·.id)).toList := by
    cases s.keyInfo with
    | none => rfl
    | some k => exact hone _
  unfold archivedIds Signature.coveredElements
  rw [List.filterMap_append, List.filterMap_append, List.filterMap_append,
    hkeyInfo, ← List.singleton_append, List.filterMap_append, hone, hone, List.filterMap_map,
    List.filterMap_map]
  simp

theorem archivedIds_subset_iff :
    archivedIds s position ⊆ t.includedIds ↔
      ∀ e ∈ s.coveredElements position, e.id ≠ none → e.NamedBy t := by
  rw [archivedIds_eq_filterMap]
  constructor
  · intro h e he hid
    obtain ⟨id, hid⟩ := Option.ne_none_iff_exists'.1 hid
    exact ⟨id, h (List.mem_filterMap.2 ⟨e, he, hid⟩), hid⟩
  · intro h id hmem
    obtain ⟨e, he, hid⟩ := List.mem_filterMap.1 hmem
    obtain ⟨other, hother, heq⟩ := h e he (by simp [hid])
    obtain rfl : id = other := Option.some.inj (hid.symm.trans heq)
    exact hother

/-- Something holds of every archive timestamp with includes and each element that it is over. -/
def EachCovered (s : Signature) (holds : TimestampElement → CoveredElement → Prop) : Prop :=
  ∀ position t, (position, t) ∈ s.archiveTimestamps → t.includes ≠ [] →
    ∀ e ∈ s.coveredElements position, holds t e

/-- The check passes when the elements that have an identifier are named. -/
theorem archiveTimestampFailures_eq_nil_iff :
    archiveTimestampFailures s = [] ↔ EachCovered s fun t e => e.id ≠ none → e.NamedBy t := by
  simp only [archiveTimestampFailures, List.flatMap_eq_nil_iff, Prod.forall, ite_eq_left_iff,
    List.isEmpty_iff, absentFailures_eq_nil_iff, archivedIds_subset_iff, EachCovered, ne_eq]

/-- **Whether archive timestamps name all that they are over.** What one is over are the octets of
its elements. The check passes when those of the elements are named that have an identifier. So it
passes exactly when all are named, unless it passes over one that has none. -/
theorem archive_includes_complete_iff_none_nameless (crypto : Crypto) (s : Signature) :
    let passes := Check.archiveTimestampIncludes.failures crypto s = []
    (∀ position, s.archiveData position = (s.coveredElements position).flatMap (·.octets)) ∧
      (passes ↔ EachCovered s fun t e => e.id ≠ none → e.NamedBy t) ∧
      ((passes ↔ EachCovered s fun t e => e.NamedBy t) ↔
          (passes → EachCovered s fun _ e => e.id ≠ none)) := by
  intro passes
  have hpasses : passes ↔ EachCovered s fun t e => e.id ≠ none → e.NamedBy t :=
    archiveTimestampFailures_eq_nil_iff
  refine ⟨s.archiveData_eq_flatMap, hpasses, ?_⟩
  constructor
  · intro hlaw hpass position t hmem hincludes e he
    have hnamed : e.NamedBy t := hlaw.1 hpass position t hmem hincludes e he
    exact hnamed.id_ne_none
  · intro hnamed
    constructor
    · intro hpass position t hmem hincludes e he
      exact hpasses.1 hpass position t hmem hincludes e he
        (hnamed hpass position t hmem hincludes e he)
    · intro hall
      apply hpasses.2
      intro position t hmem hincludes e he _
      exact hall position t hmem hincludes e he

end Structure

namespace Specimen

/-- An archive timestamp that includes the signature value, over signed information without an
identifier. -/
def overNameless : Signature := withUnsigned [.archiveTimestamp (stampOver [] ["#value"])]

/-- The check passes, and the signed information is not named. -/
theorem nameless_signedInfo_passes :
    Structure.Check.archiveTimestampIncludes.failures plain overNameless = [] ∧
      ¬ Structure.EachCovered overNameless fun t e => e.NamedBy t := by
  have hpasses : Structure.Check.archiveTimestampIncludes.failures plain overNameless = [] := by
    decide +kernel
  refine ⟨hpasses, fun hall => ?_⟩
  have hmem : (0, stampOver [] ["#value"]) ∈ overNameless.archiveTimestamps :=
    List.mem_singleton_self _
  have hcovered : ⟨none, [1]⟩ ∈ overNameless.coveredElements 0 := List.mem_cons_self
  exact (hall 0 _ hmem (by simp [stampOver]) _ hcovered).id_ne_none rfl

end Specimen
end SignatureTrust
