import SignatureTrust.Structure.Examination

/-!
# `Proofs.Structure.Examination` — a pass that stops early, and a check run alone

The checks know nothing of each other, so what one of them finds can be had by running it alone
(`failures_examine_ofCheck`). A pass that stops at the first failure leaves later checks out and
then says nothing of them; but **it stops only when it is not consistent already**, so

> both ways of running agree on `isConsistent`: it holds just if no selected check finds anything.
-/

set_option autoImplicit false

namespace SignatureTrust.Structure

variable {config : Config} {crypto : Crypto} {s : Signature} {stop : Bool}

theorem Report.isConsistent_iff {r : Report} : r.isConsistent = true ↔ r.failures = [] :=
  List.isEmpty_iff

theorem Check.mem_all (c : Check) : c ∈ Check.all := by
  cases c <;> decide

theorem Mask.mem_checks_iff {m : Mask} {c : Check} : c ∈ m.checks ↔ m.selects c = true := by
  unfold Mask.checks
  rw [List.mem_filter, and_iff_right c.mem_all]

theorem Mask.checks_ofCheck (c : Check) : (Mask.ofCheck c).checks = [c] := by
  cases c <;> decide

/-- Whether it stops early or not, a pass is consistent when each of its checks is. -/
theorem isConsistent_runChecks_iff {cs : List Check} :
    (runChecks crypto s stop cs).isConsistent = true ↔
      ∀ c ∈ cs, c.failures crypto s = [] := by
  rw [Report.isConsistent_iff]
  induction cs with
  | nil => simp [runChecks]
  | cons c cs ih =>
      rw [List.forall_mem_cons, ← ih, runChecks]
      by_cases hfound : c.failures crypto s = []
      · simp [hfound]
      · -- what it found stands in the report of both ways of running
        cases stop with
        | true => simp [hfound]
        | false => simp [hfound]

theorem isConsistent_examine_iff :
    (examine config crypto s).isConsistent = true ↔
      ∀ c, config.structuralChecks.selects c = true → c.failures crypto s = [] := by
  unfold examine
  rw [isConsistent_runChecks_iff]
  exact forall_congr' fun c => imp_congr_left Mask.mem_checks_iff

theorem failures_examine_ofCheck (c : Check) :
    (examine { config with structuralChecks := .ofCheck c } crypto s).failures =
      c.failures crypto s := by
  change (runChecks crypto s config.stopOnFirstFailure (Mask.ofCheck c).checks).failures = _
  rw [Mask.checks_ofCheck, runChecks]
  split
  · rfl
  · exact List.append_nil _

end SignatureTrust.Structure
