import Mathlib.Data.Nat.Bitwise
import SignatureTrust.Proofs.Structure.Examination
import SignatureTrust.Proofs.Structure.Labels

/-!
# `Proofs.Structure.SumOfChecks` — a pass is the sum of its checks

A pass runs the checks whose bit the mask has, in the fixed order, and puts what they find into one
report. Nothing that a check finds depends on what ran before it, so a report can be had from the
reports of each check alone:

> a pass that goes through reports **the concatenation of what each selected check reports alone**;
> one that stops early runs up to the first check that finds something, and reports that
> (`examine_sum_of_alone`).

Which checks are selected is a matter of bits and of nothing else: a bit that stands for no check
selects nothing, and changes nothing (`Mask.selects_eq_testBit`).
-/

set_option autoImplicit false

namespace SignatureTrust.Structure

variable {crypto : Crypto} {s : Signature}

/-! ## Which checks run -/

theorem Mask.toNat_bits_ofCheck (c : Check) : (Mask.ofCheck c).bits.toNat = 2 ^ c.index := by
  cases c <;> rfl

/-- A mask selects a check when it has the check's bit. -/
theorem Mask.selects_eq_testBit (m : Mask) (c : Check) :
    m.selects c = m.bits.toNat.testBit c.index := by
  have hbits : m.bits &&& (Mask.ofCheck c).bits = (Mask.ofCheck c).bits ↔
      (m.bits.toNat.testBit c.index).toNat * 2 ^ c.index = 2 ^ c.index := by
    rw [← UInt32.toNat_inj, UInt32.toNat_and, toNat_bits_ofCheck, Nat.and_two_pow]
  rw [Bool.eq_iff_iff, selects, includes, beq_iff_eq, hbits]
  cases m.bits.toNat.testBit c.index with
  | true => simp
  | false => simpa using Nat.ne_of_lt (Nat.two_pow_pos c.index)

theorem Mask.checks_eq_filter_testBit (m : Mask) :
    m.checks = Check.all.filter fun c => m.bits.toNat.testBit c.index :=
  congrArg (Check.all.filter ·) (funext m.selects_eq_testBit)

/-! ## What a pass reports -/

theorem runChecks_through (cs : List Check) :
    runChecks crypto s false cs = ⟨cs, cs.flatMap (·.failures crypto s), false⟩ := by
  induction cs with
  | nil => rfl
  | cons c cs ih =>
      rw [runChecks, ih]
      rfl

/-- What a pass reports that stops: all checks, of which none finds anything, or those up to the
first that does. -/
inductive StopsAtFirst (found : Check → List Failure) (selected : List Check) : Report → Prop
  | never (clean : ∀ c ∈ selected, found c = []) : StopsAtFirst _ _ ⟨selected, [], false⟩
  | early {before after : List Check} {c : Check} (split : selected = before ++ c :: after)
      (clean : ∀ b ∈ before, found b = []) (fails : found c ≠ []) :
      StopsAtFirst _ _ ⟨before ++ [c], found c, true⟩

namespace StopsAtFirst

variable {found : Check → List Failure} {selected : List Check} {r : Report}

/-- A check in front that finds nothing is run and leaves the rest as it is. -/
theorem cons {c : Check} (h : StopsAtFirst found selected r) (hclean : found c = []) :
    StopsAtFirst found (c :: selected) ⟨c :: r.checksRun, r.failures, r.stoppedEarly⟩ := by
  cases h with
  | never clean => exact .never (List.forall_mem_cons.2 ⟨hclean, clean⟩)
  | @early before after d split clean fails =>
      have hsplit : c :: selected = (c :: before) ++ d :: after := congrArg (c :: ·) split
      exact .early hsplit (List.forall_mem_cons.2 ⟨hclean, clean⟩) fails

theorem stoppedEarly_iff (h : StopsAtFirst found selected r) :
    r.stoppedEarly = true ↔ ∃ c ∈ selected, found c ≠ [] := by
  cases h with
  | never clean => simpa using clean
  | @early before after d split clean fails =>
      have hmem : d ∈ selected := split ▸ List.mem_append_right before List.mem_cons_self
      exact iff_of_true rfl ⟨d, hmem, fails⟩

theorem isConsistent_iff (h : StopsAtFirst found selected r) :
    r.isConsistent = true ↔ ∀ c ∈ selected, found c = [] := by
  rw [Report.isConsistent_iff]
  cases h with
  | never clean => exact iff_of_true rfl clean
  | @early before after d split clean fails =>
      have hmem : d ∈ selected := split ▸ List.mem_append_right before List.mem_cons_self
      exact iff_of_false fails fun hall => fails (hall d hmem)

end StopsAtFirst

theorem runChecks_stopsAtFirst (cs : List Check) :
    StopsAtFirst (·.failures crypto s) cs (runChecks crypto s true cs) := by
  induction cs with
  | nil => exact .never (List.forall_mem_nil _)
  | cons c cs ih =>
      rw [runChecks]
      by_cases hclean : c.failures crypto s = []
      · simpa [hclean] using ih.cons hclean
      · -- nothing is before the first check
        have hsplit : c :: cs = [] ++ c :: cs := rfl
        simpa [hclean] using StopsAtFirst.early hsplit (List.forall_mem_nil _) hclean

/-- **A pass is the sum of what its checks report alone.** It runs the checks whose bit the mask
has, in order; if it goes through, their failures follow each other, each labelled with its check;
if it stops, it stops at the first check that fails. Both ways of running agree on whether anything
failed. -/
theorem examine_sum_of_alone (config : Config) (crypto : Crypto) (s : Signature) :
    let selected := Check.all.filter fun c => config.structuralChecks.bits.toNat.testBit c.index
    let alone (c : Check) :=
      (examine { config with structuralChecks := .ofCheck c } crypto s).failures
    let through := examine { config with stopOnFirstFailure := false } crypto s
    let stopping := examine { config with stopOnFirstFailure := true } crypto s
    (∀ c, Labelled c (alone c)) ∧ through = ⟨selected, selected.flatMap alone, false⟩ ∧
      StopsAtFirst alone selected stopping ∧
      (stopping.stoppedEarly = true ↔ ∃ c ∈ selected, alone c ≠ []) ∧
      stopping.isConsistent = through.isConsistent := by
  intro selected alone through stopping
  have halone : alone = fun c => c.failures crypto s := funext failures_examine_ofCheck
  have hselected : config.structuralChecks.checks = selected :=
    config.structuralChecks.checks_eq_filter_testBit
  have hthrough : through = ⟨selected, selected.flatMap alone, false⟩ := by
    rw [halone, ← hselected]
    exact runChecks_through _
  have hstops : StopsAtFirst alone selected stopping := by
    rw [halone, ← hselected]
    exact runChecks_stopsAtFirst _
  refine ⟨fun c => ?_, hthrough, hstops, hstops.stoppedEarly_iff, ?_⟩
  · rw [halone]
    exact labelled_failures c
  · rw [Bool.eq_iff_iff, hstops.isConsistent_iff, hthrough, Report.isConsistent_iff,
      List.flatMap_eq_nil_iff]

end SignatureTrust.Structure
