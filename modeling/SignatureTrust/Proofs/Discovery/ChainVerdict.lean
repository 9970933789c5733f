import SignatureTrust.Discovery.Trust
import SignatureTrust.Proofs.Discovery.Growth
import SignatureTrust.Proofs.Verdict

/-!
# `Proofs.Discovery.ChainVerdict` — what a valid chain says of its links

The verdict on a chain is put together from verdicts on its certificates, each found again by issuer
and serial. Turned around: **the verdict is valid exactly when every certificate of the chain has a
resolution that passes** (`Passes`) and one of them is trusted. Nothing about where the resolutions
come from is used here, only that keys and handles agree.
-/

set_option autoImplicit false

namespace SignatureTrust.Context

variable {c : Context} {x : Certificate} {e : Entry} {h : Handle} {r : Resolution}

/-- A certificate with this resolution may stand in a valid chain. -/
structure Passes (c : Context) (r : Resolution) : Prop where
  settled : r.isUnresolved = false
  verified : c.evidenceIsUnverified r = false
  valid : ∀ {status : Status}, r.status? = some status → status.validity = .valid

theorem isValid_statusVerdict_iff {subject : String} {s : Option Status} :
    (statusVerdict subject s).isValid = true ↔
      ∀ {status : Status}, s = some status → status.validity = .valid := by
  cases s with
  | none => simp [statusVerdict]
  | some status => cases hv : status.validity <;> simp [statusVerdict, hv]

/-- **A certificate's verdict is valid when its resolution passes.** -/
theorem isValid_linkVerdict_iff :
    (c.linkVerdict x).isValid = true ↔
      ∃ r, c.resolutionOf? (.certificate x) = some r ∧ Passes c r := by
  unfold linkVerdict
  cases hr : c.resolutionOf? (.certificate x) with
  | none => simp
  | some r =>
      simp only [Option.some.injEq, exists_eq_left']
      cases r with
      | noCheckNeeded reason =>
          exact ⟨fun _ => ⟨rfl, rfl, fun h => by cases h⟩, fun _ => rfl⟩
      | unresolved issuer reason =>
          have hp : ¬ Passes c (.unresolved issuer reason) := fun hp => by cases hp.settled
          cases reason <;> simpa using hp
      | checked h s i =>
          cases hu : c.evidenceIsUnverified (.checked h s i) with
          | true =>
              have hp : ¬ Passes c (.checked h s i) := fun hp => by simp [hp.verified] at hu
              simpa [hu] using hp
          | false =>
              simp only [hu, Bool.false_eq_true, if_false, isValid_statusVerdict_iff]
              exact ⟨fun hv => ⟨rfl, hu, hv⟩, fun hp => hp.valid⟩

/-- **A chain is valid when its certificates are and one of them is trusted.** -/
theorem isValid_chainVerdict_iff : (SignatureTrust.chainVerdict (some c)).isValid = true ↔
    (∀ e ∈ c.chain, (c.linkVerdict e.certificate).isValid = true) ∧
      ∃ e ∈ c.chain, e.isTrusted = true := by
  show c.chainVerdict.isValid = true ↔ _
  rw [chainVerdict, Verdict.isValid_combine_iff, List.forall_mem_append, List.forall_mem_map]
  refine and_congr_right fun _ => ?_
  cases ha : c.chain.any (·.isTrusted) with
  | true => simpa using List.any_eq_true.1 ha
  | false => simpa using List.any_eq_false.1 ha

end SignatureTrust.Context
