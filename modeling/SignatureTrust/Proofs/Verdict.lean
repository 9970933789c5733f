import SignatureTrust.Verdict

/-!
# `Proofs.Verdict` — combined verdicts that are valid, invalid or undetermined

`Verdict.combine` carries the worst part up. Of a combined verdict one mostly asks whether it is
valid, and then the carrying is beside the point: **it is valid when every part is**, and not even
the order of the parts matters. Nor does it at the other end: it is invalid when some part is. What
is neither is undetermined.
-/

set_option autoImplicit false

namespace SignatureTrust

theorem Indication.worst_eq_valid_iff {a b : Indication} :
    a.worst b = .valid ↔ a = .valid ∧ b = .valid := by
  have hzero (i : Indication) : i = .valid ↔ i.severity = 0 :=
    ⟨congrArg severity, fun h => severity_injective h⟩
  rw [hzero, hzero, hzero, severity_worst, Nat.max_eq_zero_iff]

namespace Verdict

variable {message : String} {parts : List Verdict} {v : Verdict}

@[simp] theorem details_combine : (combine message parts).details = parts := rfl

theorem isValid_iff : v.isValid = true ↔ v.indication = .valid := by simp [isValid]

/-- Carrying one part further leaves valid what was valid, if the part is. -/
theorem carry_eq_valid_iff {sofar : Indication × Option Reason} :
    (carry sofar v).1 = .valid ↔ sofar.1 = .valid ∧ v.indication = .valid := by
  obtain ⟨i, r⟩ := sofar
  unfold carry
  cases i <;> cases v.indication <;> simp [Indication.severity]

theorem foldl_carry_eq_valid_iff {sofar : Indication × Option Reason} :
    (parts.foldl carry sofar).1 = .valid ↔
      sofar.1 = .valid ∧ ∀ v ∈ parts, v.isValid = true := by
  induction parts generalizing sofar with
  | nil => simp
  | cons v parts ih => simp [ih, carry_eq_valid_iff, isValid_iff, and_assoc]

/-- **A combined verdict is valid exactly when its parts are.** -/
theorem isValid_combine_iff :
    (combine message parts).isValid = true ↔ ∀ v ∈ parts, v.isValid = true := by
  rw [isValid_iff]
  exact foldl_carry_eq_valid_iff.trans (and_iff_right rfl)

theorem isInvalid_iff : v.isInvalid = true ↔ v.indication = .invalid := by simp [isInvalid]

theorem carry_eq_invalid_iff {sofar : Indication × Option Reason} :
    (carry sofar v).1 = .invalid ↔ sofar.1 = .invalid ∨ v.indication = .invalid := by
  obtain ⟨i, r⟩ := sofar
  unfold carry
  cases i <;> cases v.indication <;> simp [Indication.severity]

theorem foldl_carry_eq_invalid_iff {sofar : Indication × Option Reason} :
    (parts.foldl carry sofar).1 = .invalid ↔
      sofar.1 = .invalid ∨ ∃ v ∈ parts, v.isInvalid = true := by
  induction parts generalizing sofar with
  | nil => simp
  | cons v parts ih => simp [ih, carry_eq_invalid_iff, isInvalid_iff, or_assoc]

/-- **A combined verdict is invalid exactly when some part is.** -/
theorem isInvalid_combine_iff :
    (combine message parts).isInvalid = true ↔ ∃ v ∈ parts, v.isInvalid = true := by
  rw [isInvalid_iff]
  exact foldl_carry_eq_invalid_iff.trans (or_iff_right nofun)

theorem isUndetermined_iff :
    v.isUndetermined = true ↔ v.isValid = false ∧ v.isInvalid = false := by
  unfold isUndetermined isValid isInvalid
  cases v.indication <;> decide

/-- A combined verdict is undetermined when no part is invalid and some part is undetermined. -/
theorem isUndetermined_combine_iff :
    (combine message parts).isUndetermined = true ↔
      (∀ v ∈ parts, v.isInvalid = false) ∧ ∃ v ∈ parts, v.isUndetermined = true := by
  simp only [isUndetermined_iff, ← Bool.not_eq_true, isValid_combine_iff, isInvalid_combine_iff]
  constructor
  · rintro ⟨hvalid, hinvalid⟩
    obtain ⟨v, himp⟩ := Classical.not_forall.1 hvalid
    obtain ⟨hv, hnot⟩ := Classical.not_imp.1 himp
    exact ⟨fun v hv h => hinvalid ⟨v, hv, h⟩, v, hv, hnot, fun h => hinvalid ⟨v, hv, h⟩⟩
  · rintro ⟨hinvalid, v, hv, hnot, -⟩
    exact ⟨fun h => hnot (h v hv), fun ⟨w, hw, h⟩ => hinvalid w hw h⟩

theorem isValid_combine_pair_iff {w : Verdict} :
    (combine message [v, w]).isValid = true ↔ v.isValid = true ∧ w.isValid = true := by
  rw [isValid_combine_iff, List.forall_mem_cons, List.forall_mem_singleton]

/-- Where nothing is valid, what is not invalid is undetermined. -/
theorem isUndetermined_combine_pair_iff {w : Verdict} (hv : v.isValid = false)
    (hw : w.isValid = false) :
    (combine message [v, w]).isUndetermined = true ↔
      v.isUndetermined = true ∧ w.isUndetermined = true := by
  rw [isUndetermined_combine_iff, List.forall_mem_cons, List.forall_mem_singleton]
  simp only [isUndetermined_iff, hv, hw, true_and]
  exact ⟨And.left, fun h => ⟨h, v, List.mem_cons_self, hv, h.1⟩⟩

@[simp] theorem isValid_valid : (valid message).isValid = true := rfl

@[simp] theorem isValid_undetermined {r : Reason} : (undetermined r message).isValid = false := rfl

@[simp] theorem isValid_invalid {r : Reason} : (invalid r message).isValid = false := rfl

@[simp] theorem isUndetermined_undetermined {r : Reason} :
    (undetermined r message).isUndetermined = true := rfl

@[simp] theorem isUndetermined_invalid {r : Reason} :
    (invalid r message).isUndetermined = false := rfl

end Verdict
end SignatureTrust
