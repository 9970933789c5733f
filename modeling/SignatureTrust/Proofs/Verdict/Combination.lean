import Mathlib.Data.List.Induction
import SignatureTrust.Proofs.Verdict

/-!
# `Proofs.Verdict.Combination` — combining what is combined already

Levels C and XL combine verdicts that were combined before, so what was carried up once is carried
up again. Everything here rests on one fact:

> **to carry a combined verdict is to carry its parts** (`carry_combine`).

Groups may therefore be formed at will, and dissolved, to any depth. What a list of parts comes to
is said without the fold (`SumsUp`): no part is worse, and the reason is that of the *first* as bad.
Which one is first depends on the order, so rearranging the parts may change the reason. It never
changes the indication.
-/

set_option autoImplicit false

namespace SignatureTrust

/-- Verdicts as they are combined: one that stands alone, or a group of them that is combined
first. -/
inductive Grouping where
  | part (v : Verdict)
  | group (message : String) (members : List Grouping)

namespace Grouping

mutual

def verdict : Grouping → Verdict
  | part v => v
  | group message members => .combine message (verdicts members)

def verdicts : List Grouping → List Verdict
  | [] => []
  | g :: gs => g.verdict :: verdicts gs

end

mutual

/-- What stands alone in a grouping, from left to right. -/
def parts : Grouping → List Verdict
  | part v => [v]
  | group _ members => partsOf members

def partsOf : List Grouping → List Verdict
  | [] => []
  | g :: gs => g.parts ++ partsOf gs

end

end Grouping

namespace Verdict

/-- What is carried up from a verdict: its message and its parts are left behind. -/
def ruling (v : Verdict) : Indication × Option Reason := (v.indication, v.reason)

/-- No part is worse than the sum, and the sum has the reason of the first part as bad. A valid sum
has no reason, whatever the parts have. -/
structure SumsUp (parts : List Verdict) (sum : Indication × Option Reason) : Prop where
  worst : ∀ v ∈ parts, v.indication.severity ≤ sum.1.severity
  leftmost : sum.1 ≠ .valid → ∃ before v after, parts = before ++ v :: after ∧
    v.ruling = sum ∧ ∀ w ∈ before, w.indication.severity < sum.1.severity
  reasonless : sum.1 = .valid → sum.2 = none

variable {message message' : String} {parts parts' : List Verdict} {v w : Verdict}
  {sofar : Indication × Option Reason}

/-! ## Carrying a part further -/

theorem carry_of_lt (h : sofar.1.severity < v.indication.severity) :
    carry sofar v = v.ruling := if_pos h

theorem carry_of_le (h : v.indication.severity ≤ sofar.1.severity) : carry sofar v = sofar :=
  if_neg (Nat.not_lt.2 h)

theorem severity_carry :
    (carry sofar v).1.severity = max sofar.1.severity v.indication.severity := by
  rcases Nat.lt_or_ge sofar.1.severity v.indication.severity with h | h
  · rw [carry_of_lt h, Nat.max_eq_right (Nat.le_of_lt h)]
    rfl
  · rw [carry_of_le h, Nat.max_eq_left h]

theorem sumsUp_nil : SumsUp [] (.valid, none) := ⟨nofun, fun h => absurd rfl h, fun _ => rfl⟩

/-- A part that is worse than all before it is the first as bad; one that is not changes nothing. -/
theorem SumsUp.carry (h : SumsUp parts sofar) : SumsUp (parts ++ [v]) (carry sofar v) := by
  rcases Nat.lt_or_ge sofar.1.severity v.indication.severity with hv | hv
  · rw [carry_of_lt hv]
    have hbefore : ∀ w ∈ parts, w.indication.severity < v.indication.severity :=
      fun w hw => Nat.lt_of_le_of_lt (h.worst w hw) hv
    refine ⟨?_, fun _ => ⟨parts, v, [], rfl, rfl, hbefore⟩, ?_⟩
    · intro w hw
      rcases List.mem_append.1 hw with hw | hw
      · exact Nat.le_of_lt (hbefore w hw)
      · rw [List.mem_singleton.1 hw]
        exact Nat.le_refl _
    · intro hvalid
      have hzero : v.indication.severity = 0 := congrArg Indication.severity hvalid
      omega
  · rw [carry_of_le hv]
    refine ⟨?_, ?_, h.reasonless⟩
    · intro w hw
      rcases List.mem_append.1 hw with hw | hw
      · exact h.worst w hw
      · rw [List.mem_singleton.1 hw]
        exact hv
    · intro hbad
      obtain ⟨before, first, after, rfl, hfirst, hbefore⟩ := h.leftmost hbad
      exact ⟨before, first, after ++ [v], by rw [List.append_assoc, List.cons_append], hfirst,
        hbefore⟩

/-- **A combined verdict says of its parts what their list says.** -/
theorem sumsUp_combine (message : String) (parts : List Verdict) :
    SumsUp parts (combine message parts).ruling := by
  show SumsUp parts (parts.foldl Verdict.carry (.valid, none))
  induction parts using List.reverseRecOn with
  | nil => exact sumsUp_nil
  | append_singleton parts v ih =>
      rw [List.foldl_append]
      exact ih.carry

/-- Whatever else is combined with them, and in whatever order, parts keep their weight. -/
theorem severity_combine_le_of_subset (h : parts ⊆ parts') :
    (combine message parts).indication.severity ≤
      (combine message' parts').indication.severity := by
  by_cases hvalid : (combine message parts).indication = .valid
  · rw [hvalid]
    exact Nat.zero_le _
  · obtain ⟨before, v, after, hparts, hruling, -⟩ :=
      (sumsUp_combine message parts).leftmost hvalid
    have hv : v ∈ parts' := by
      apply h
      rw [hparts]
      exact List.mem_append_right before List.mem_cons_self
    have hindication : v.indication = (combine message parts).indication :=
      congrArg Prod.fst hruling
    rw [← hindication]
    exact (sumsUp_combine message' parts').worst v hv

theorem indication_combine_perm (h : parts.Perm parts') :
    (combine message parts).indication = (combine message' parts').indication :=
  Indication.severity_injective (Nat.le_antisymm (severity_combine_le_of_subset h.subset)
    (severity_combine_le_of_subset h.symm.subset))

/-! ## Groups -/

theorem carry_congr (h : v.ruling = w.ruling) : carry sofar v = carry sofar w := by
  obtain ⟨hindication, hreason⟩ := Prod.mk.inj h
  unfold carry
  rw [hindication, hreason]

/-- To carry a whole is to carry what it was before its last part, and then this part. -/
theorem carry_whole {whole whole' : Verdict} (h : whole'.ruling = carry whole.ruling v) :
    carry sofar whole' = carry (carry sofar whole) v := by
  have hsofar : (carry sofar whole).1.severity = max sofar.1.severity whole.indication.severity :=
    severity_carry
  rcases Nat.lt_or_ge whole.indication.severity v.indication.severity with hv | hv
  · rw [carry_of_lt hv] at h
    rw [carry_congr h]
    rcases Nat.lt_or_ge sofar.1.severity v.indication.severity with hworse | hworse
    · rw [carry_of_lt hworse, carry_of_lt (by omega)]
    · have hkept : carry sofar whole = sofar := carry_of_le (by omega)
      rw [hkept]
  · rw [carry_of_le hv] at h
    rw [carry_congr h, carry_of_le (v := v) (by omega)]

/-- **To carry a combined verdict is to carry its parts.** -/
theorem carry_combine : carry sofar (combine message parts) = parts.foldl carry sofar := by
  induction parts using List.reverseRecOn with
  | nil => exact carry_of_le (Nat.zero_le _)
  | append_singleton parts v ih =>
      have hwhole : (combine message (parts ++ [v])).ruling =
          carry (combine message parts).ruling v := by
        show (parts ++ [v]).foldl carry (.valid, none) = _
        rw [List.foldl_append]
        rfl
      rw [carry_whole hwhole, ih, List.foldl_append, List.foldl_cons, List.foldl_nil]

end Verdict

namespace Grouping

open Verdict (carry carry_combine)

mutual

/-- To carry a grouping is to carry what stands alone in it. -/
theorem carry_verdict : ∀ (g : Grouping) (sofar : Indication × Option Reason),
    carry sofar g.verdict = g.parts.foldl carry sofar
  | part _, _ => rfl
  | group _ members, sofar => carry_combine.trans (foldl_carry_verdicts members sofar)

theorem foldl_carry_verdicts : ∀ (gs : List Grouping) (sofar : Indication × Option Reason),
    (verdicts gs).foldl carry sofar = (partsOf gs).foldl carry sofar
  | [], _ => rfl
  | g :: gs, sofar => by
      rw [verdicts, partsOf, List.foldl_cons, List.foldl_append, carry_verdict g,
        foldl_carry_verdicts gs]

end

end Grouping

namespace Verdict

theorem foldl_carry_groups (groups : List (String × List Verdict))
    (sofar : Indication × Option Reason) :
    (groups.map fun g => combine g.1 g.2).foldl carry sofar =
      (groups.flatMap Prod.snd).foldl carry sofar := by
  rw [List.foldl_map, List.foldl_flatMap]
  congr 1
  funext sofar g
  exact carry_combine

/-- **Combining does not depend on grouping.** A list sums up to its worst indication and the reason
of the first part that has it; parts combined group by group, empty groups among them, sum up to the
same, and so they do when the groups are made of groups in turn; the indication does not depend on
the order; and no further part makes it less severe. -/
theorem combine_independent_of_grouping (message message' : String) :
    (∀ parts, SumsUp parts (combine message parts).ruling) ∧
    (∀ groups : List (String × List Verdict),
      (combine message (groups.map fun g => combine g.1 g.2)).ruling =
        (combine message' (groups.flatMap Prod.snd)).ruling) ∧
    (∀ gs : List Grouping,
      (combine message (Grouping.verdicts gs)).ruling =
        (combine message' (Grouping.partsOf gs)).ruling) ∧
    (∀ parts parts' : List Verdict, parts.Perm parts' →
      (combine message parts).indication = (combine message' parts').indication) ∧
    (∀ before v after, (combine message (before ++ after)).indication.severity ≤
      (combine message' (before ++ v :: after)).indication.severity) := by
  refine ⟨sumsUp_combine message, fun groups => foldl_carry_groups groups _,
    fun gs => Grouping.foldl_carry_verdicts gs _, fun _ _ => indication_combine_perm,
    fun before v after => severity_combine_le_of_subset ?_⟩
  exact List.append_subset.2 ⟨List.subset_append_left _ _,
    List.subset_append_of_subset_right _ (List.subset_cons_self v after)⟩

/-- Four verdicts on timestamps, of which the third is the first invalid one. -/
def fourTimestamps : List Verdict :=
  [.valid "ts-1", .undetermined .unsupportedDigest "ts-2", .invalid .imprintMismatch "ts-3",
    .invalid .timestampSignerUnverified "ts-4"]

/-- From the other end they are as bad, for another reason. -/
theorem fourTimestamps_reversed :
    fourTimestamps.Perm fourTimestamps.reverse ∧
      (combine "timestamps" fourTimestamps).indication =
        (combine "timestamps" fourTimestamps.reverse).indication ∧
      (combine "timestamps" fourTimestamps).reason = some .imprintMismatch ∧
      (combine "timestamps" fourTimestamps.reverse).reason = some .timestampSignerUnverified := by
  have hperm : fourTimestamps.Perm fourTimestamps.reverse := fourTimestamps.reverse_perm.symm
  exact ⟨hperm, (combine_independent_of_grouping "timestamps" "timestamps").2.2.2.1 _ _ hperm,
    rfl, rfl⟩

end Verdict
end SignatureTrust
