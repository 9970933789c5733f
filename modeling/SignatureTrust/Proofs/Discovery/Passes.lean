import Mathlib.Logic.Function.Iterate
import SignatureTrust.Proofs.Discovery.FixedPoint
import SignatureTrust.Proofs.Discovery.Requests

/-!
# `Proofs.Discovery.Passes` — the bound only cuts discovery short

Discovery is one pass after another. The bound says how many at most, and counts those of earlier
calls; what a pass does it does not touch. So **a context after some passes is the same however they
were spread over calls** (`afterPasses`), and a call is told by how many passes it makes: up to the
first that finds every token resolved, that one included, unless the bound comes first
(`exists_discover`).

> What a bounded run has, an unbounded one has at the same place; and calling discovery for one pass
> at a time until nothing grows ends as it does without a bound, or like it does not end at all
> (`bound_only_truncates`).

There is no unbounded call. What stands for it is what all large bounds come to (`EndsWith`):
sources that always have another issuer to offer make discovery go on for ever, and then every bound
cuts it short.
-/

set_option autoImplicit false

namespace SignatureTrust

/-- The same settings with another bound on passes. -/
def Config.within (config : Config) (bound : Nat) : Config := { config with maxPasses := bound }

theorem Config.maxPasses_within (config : Config) (bound : Nat) :
    (config.within bound).maxPasses = bound := rfl

namespace Context

variable {sources : Sources} {config : Config} {c c' d : Context}

/-! ## One pass after another -/

/-- The context after a pass. There always is one (`pass_eq`). -/
def afterPass (sources : Sources) (config : Config) (c : Context) : Context :=
  (c.pass sources config).toOption.getD c

def afterPasses (c : Context) (sources : Sources) (config : Config) (n : Nat) : Context :=
  (afterPass sources config)^[n] c

theorem pass_eq (c : Context) (sources : Sources) (config : Config) :
    c.pass sources config = .ok (c.afterPass sources config) := by
  obtain ⟨next, hp, -⟩ := pass_reaches sources config c
  rw [afterPass, hp]
  rfl

theorem reaches_afterPass (c : Context) (sources : Sources) (config : Config) :
    Reaches sources config c (c.afterPass sources config) := by
  obtain ⟨next, hp, hr⟩ := pass_reaches sources config c
  obtain rfl := Except.ok.inj ((pass_eq c sources config).symm.trans hp)
  exact hr

theorem afterPass_of_resolved (hall : c.Resolved) :
    c.afterPass sources config = { c with passes := c.passes + 1 } :=
  Except.ok.inj ((pass_eq c sources config).symm.trans (pass_of_resolved hall))

/-- A pass counts, and if it was needed it resolves more. -/
theorem afterPass_spec (c : Context) (sources : Sources) (config : Config) :
    (c.afterPass sources config).passes = c.passes + 1 ∧
      (¬ c.Resolved → c.resolvedCount < (c.afterPass sources config).resolvedCount) := by
  obtain ⟨next, hp, hcount, hpass⟩ := exists_pass sources config c
  obtain rfl := Except.ok.inj ((pass_eq c sources config).symm.trans hp)
  refine ⟨hcount, ?_⟩
  intro hwaits
  rcases hpass with ⟨hall, -⟩ | hlt
  · exact absurd hall hwaits
  · exact hlt

theorem afterPasses_succ (n : Nat) :
    c.afterPasses sources config (n + 1) =
      (c.afterPasses sources config n).afterPass sources config :=
  Function.iterate_succ_apply' ..

theorem afterPasses_add (m n : Nat) :
    c.afterPasses sources config (m + n) =
      (c.afterPasses sources config m).afterPasses sources config n := by
  rw [Nat.add_comm]
  exact Function.iterate_add_apply ..

theorem passes_afterPasses (n : Nat) : (c.afterPasses sources config n).passes = c.passes + n := by
  induction n with
  | zero => rfl
  | succ n ih => rw [afterPasses_succ, (afterPass_spec _ sources config).1, ih, Nat.add_assoc]

theorem reaches_afterPasses (c : Context) (sources : Sources) (config : Config) (n : Nat) :
    Reaches sources config c (c.afterPasses sources config n) := by
  induction n with
  | zero => exact .refl
  | succ n ih =>
      rw [afterPasses_succ]
      exact ih.trans (reaches_afterPass _ sources config)

/-- Where every token is resolved, passes are counted and nothing else happens. -/
theorem afterPasses_of_resolved (hall : c.Resolved) (n : Nat) :
    c.afterPasses sources config n = { c with passes := c.passes + n } := by
  induction n with
  | zero => rfl
  | succ n ih =>
      have hall' : Resolved { c with passes := c.passes + n } := hall
      rw [afterPasses_succ, ih, afterPass_of_resolved hall']
      rfl

/-! ## What a pass does not change -/

/-- What is there stays where it was, in the collections too. -/
structure Continues (c c' : Context) : Prop extends Grows c c' where
  certificates : c.neededCertificates <+: c'.neededCertificates
  crls : c.neededCrls <+: c'.neededCrls
  ocsps : c.neededOcsps <+: c'.neededOcsps

/-- The counter apart, a context is continued by itself. -/
theorem continues_passes (c : Context) (m n : Nat) :
    Continues { c with passes := m } { c with passes := n } where
  date := rfl
  slot hs := ⟨_, hs, .refl _⟩
  key := id
  certificates := List.prefix_rfl
  crls := List.prefix_rfl
  ocsps := List.prefix_rfl

theorem Continues.refl (c : Context) : Continues c c := continues_passes c c.passes c.passes

theorem Continues.trans (h : Continues c c') (k : Continues c' d) : Continues c d where
  toGrows := h.toGrows.trans k.toGrows
  certificates := h.certificates.trans k.certificates
  crls := h.crls.trans k.crls
  ocsps := h.ocsps.trans k.ocsps

theorem Continues.append {t : Token} {p : Provenance} {v : Option Service} :
    Continues c (c.append t p v) where
  toGrows := .append
  certificates := by rw [append_eq]; exact List.prefix_append ..
  crls := by rw [append_eq]; exact List.prefix_append ..
  ocsps := by rw [append_eq]; exact List.prefix_append ..

theorem Step.continues (hs : Step c c') : Continues c c' := by
  cases hs with
  | insert t p v =>
      rcases insert_cases c t p v with ⟨_, _, hi⟩ | ⟨_, hi⟩
      · rw [hi]; exact .refl c
      · rw [hi]; exact .append
  | record hr =>
      obtain ⟨s, hs, hn, rfl⟩ := record_eq_ok_iff.1 hr
      exact ⟨.settled hs hn, List.prefix_rfl, List.prefix_rfl, List.prefix_rfl⟩
  | countPass => exact continues_passes c c.passes (c.passes + 1)

theorem Reaches.continues (hr : Reaches sources config c c') : Continues c c' :=
  hr.keeps (P := Continues c) (fun hc hch => hc.trans hch.step.continues) (.refl c)

theorem continues_afterPasses (c : Context) (sources : Sources) (config : Config) (n : Nat) :
    Continues c (c.afterPasses sources config n) :=
  (reaches_afterPasses c sources config n).continues

/-! ## A call makes some passes -/

/-- Neither of the numbers changes that discovery looks at. -/
def Still (c c' : Context) : Prop := c'.size = c.size ∧ c'.resolvedCount = c.resolvedCount

/-- The test for the last pass finds out exactly whether somebody waited. -/
theorem still_afterPass_iff : Still c (c.afterPass sources config) ↔ c.Resolved := by
  constructor
  · intro hstill
    by_contra hwaits
    exact absurd hstill.2 (Nat.ne_of_gt ((afterPass_spec c sources config).2 hwaits))
  · intro hall
    rw [afterPass_of_resolved hall]
    exact ⟨rfl, rfl⟩

theorem exists_discoverWithin_passes (sources : Sources) (config : Config) (more : Nat)
    (c : Context) :
    ∃ n ≤ more, discoverWithin sources config more c =
      .ok (c.afterPasses sources config (n + 1)) ∧
      (∀ i < n, ¬ (c.afterPasses sources config i).Resolved) ∧
      (n = more ∨ (c.afterPasses sources config n).Resolved) := by
  induction more generalizing c with
  | zero =>
      refine ⟨0, Nat.le_refl 0, ?_, fun i hi => absurd hi (Nat.not_lt_zero i), .inl rfl⟩
      rw [discoverWithin, pass_eq]
      exact ite_self _
  | succ more ih =>
      by_cases hall : c.Resolved
      · refine ⟨0, Nat.zero_le _, ?_, fun i hi => absurd hi (Nat.not_lt_zero i), .inr hall⟩
        rw [discoverWithin, pass_eq]
        exact if_pos (still_afterPass_iff.2 hall)
      · obtain ⟨n, hn, hd, hbefore, hstop⟩ := ih (c.afterPass sources config)
        have hshift : ∀ i, c.afterPasses sources config (i + 1) =
            (c.afterPass sources config).afterPasses sources config i :=
          fun i => Function.iterate_succ_apply ..
        refine ⟨n + 1, Nat.succ_le_succ hn, ?_, ?_, ?_⟩
        · rw [discoverWithin, pass_eq, hshift]
          exact (if_neg (fun hstill => hall (still_afterPass_iff.1 hstill))).trans hd
        · intro i hi
          cases i with
          | zero => exact hall
          | succ i =>
              rw [hshift]
              exact hbefore i (Nat.lt_of_succ_lt_succ hi)
        · rw [hshift]
          exact hstop.imp (congrArg (· + 1)) id

/-- **A call makes passes up to the first that was not needed, or up to the bound.** -/
theorem exists_discover (c : Context) (sources : Sources) (config : Config) :
    ∃ n ≤ config.maxPasses - c.passes - 1, c.discover sources config =
      .ok (c.afterPasses sources config (n + 1)) ∧
      (∀ i < n, ¬ (c.afterPasses sources config i).Resolved) ∧
      (n = config.maxPasses - c.passes - 1 ∨ (c.afterPasses sources config n).Resolved) :=
  exists_discoverWithin_passes sources config _ c

/-! ## The bound -/

/-- A pass does not read the bound. -/
theorem afterPass_within (bound : Nat) :
    afterPass sources (config.within bound) = afterPass sources config := rfl

/-- What a call comes to with another bound, in passes with the settings as they are. -/
theorem exists_discover_within (c : Context) (sources : Sources) (config : Config) (bound : Nat) :
    ∃ n ≤ bound - c.passes - 1, c.discover sources (config.within bound) =
      .ok (c.afterPasses sources config (n + 1)) ∧
      (∀ i < n, ¬ (c.afterPasses sources config i).Resolved) ∧
      (n = bound - c.passes - 1 ∨ (c.afterPasses sources config n).Resolved) := by
  simpa only [afterPasses, afterPass_within, Config.maxPasses_within]
    using exists_discover c sources (config.within bound)

/-- The context after discovery was called with one bound after another. -/
def afterCalls (c : Context) (sources : Sources) (config : Config) (bounds : List Nat) : Context :=
  c.afterAll (bounds.map fun bound => .discover sources (config.within bound))

/-- **After any calls the context is what so many single passes make of it**, one at least for each
call. -/
theorem exists_afterCalls (c : Context) (sources : Sources) (config : Config) (bounds : List Nat) :
    ∃ k ≥ bounds.length, (c.afterCalls sources config bounds).passes = c.passes + k ∧
      c.afterCalls sources config bounds = c.afterPasses sources config k := by
  suffices hcalls : ∃ k ≥ bounds.length, c.afterCalls sources config bounds =
      c.afterPasses sources config k by
    obtain ⟨k, hle, hk⟩ := hcalls
    exact ⟨k, hle, by rw [hk, passes_afterPasses], hk⟩
  induction bounds generalizing c with
  | nil => exact ⟨0, Nat.le_refl 0, rfl⟩
  | cons bound bounds ih =>
      obtain ⟨n, -, hd, -⟩ := exists_discover_within c sources config bound
      have hfirst : c.after (.discover sources (config.within bound)) =
          c.afterPasses sources config (n + 1) :=
        after_of_ok (q := .discover sources (config.within bound)) hd
      obtain ⟨k, hle, hk⟩ := ih (c.afterPasses sources config (n + 1))
      refine ⟨n + 1 + k, by simp only [List.length_cons]; omega, ?_⟩
      rw [afterPasses_add, ← hk, ← hfirst]
      rfl

/-- Calls for one pass each make one pass each. -/
theorem afterCalls_replicate_one (c : Context) (sources : Sources) (config : Config) (n : Nat) :
    c.afterCalls sources config (.replicate n 1) = c.afterPasses sources config n := by
  induction n with
  | zero => rfl
  | succ n ih =>
      obtain ⟨m, hm, hd, -⟩ :=
        exists_discover_within (c.afterPasses sources config n) sources config 1
      obtain rfl : m = 0 := by omega
      have hlast : (c.afterPasses sources config n).after (.discover sources (config.within 1)) =
          c.afterPasses sources config (n + 1) := by
        rw [after_of_ok (q := .discover sources (config.within 1)) hd, ← afterPasses_add]
      rw [← hlast, ← ih, afterCalls, afterCalls, List.replicate_succ', List.map_append,
        afterAll, List.foldl_append]
      rfl

/-- A run with a higher bound has what the passes up to it make. It may make fewer, if these were
not all needed. -/
theorem continues_discover_within (c : Context) (sources : Sources) (config : Config)
    (k bound : Nat) (hk : c.passes + k ≤ bound) :
    ∃ d, c.discover sources (config.within bound) = .ok d ∧
      Continues (c.afterPasses sources config k) d := by
  obtain ⟨n, -, hd, -, hstop⟩ := exists_discover_within c sources config bound
  refine ⟨_, hd, ?_⟩
  by_cases hle : k ≤ n + 1
  · obtain ⟨more, hmore⟩ := Nat.exists_eq_add_of_le hle
    rw [hmore, afterPasses_add]
    exact continues_afterPasses ..
  · -- the run stopped before, and not because of its bound
    have hall : (c.afterPasses sources config n).Resolved := hstop.resolve_left (by omega)
    obtain ⟨more, hmore⟩ := Nat.exists_eq_add_of_le (show n ≤ k by omega)
    rw [hmore, afterPasses_add, afterPasses_add, afterPasses_of_resolved hall,
      afterPasses_of_resolved hall]
    exact continues_passes ..

/-- **A run with a higher bound has what runs with lower bounds have.** -/
theorem afterCalls_continues_discover (c : Context)
    (sources : Sources) (config : Config) (bounds : List Nat) (bound : Nat)
    (hle : (c.afterCalls sources config bounds).passes ≤ bound) :
    ∃ d, c.discover sources (config.within bound) = .ok d ∧
      Continues (c.afterCalls sources config bounds) d := by
  obtain ⟨k, -, hcount, hk⟩ := exists_afterCalls c sources config bounds
  rw [hk]
  exact continues_discover_within c sources config k bound (by omega)

/-! ## Without a bound -/

/-- Discovery without a bound ends with a context: every large enough bound makes it end there. -/
def EndsWith (sources : Sources) (config : Config) (c d : Context) : Prop :=
  ∃ enough, ∀ bound ≥ enough, c.discover sources (config.within bound) = .ok d

/-- It ends after the first pass that was not needed. -/
theorem endsWith_iff : EndsWith sources config c d ↔
    ∃ n, (∀ i < n, ¬ (c.afterPasses sources config i).Resolved) ∧
      (c.afterPasses sources config n).Resolved ∧
      d = c.afterPasses sources config (n + 1) := by
  constructor
  · rintro ⟨enough, hends⟩
    -- a bound that the run that ended does not reach
    obtain ⟨n, -, hd, hbefore, hstop⟩ :=
      exists_discover_within c sources config (enough + d.passes + 1)
    have hsame : d = c.afterPasses sources config (n + 1) :=
      Except.ok.inj ((hends _ (by omega)).symm.trans hd)
    have hcount : d.passes = c.passes + (n + 1) := by rw [hsame, passes_afterPasses]
    exact ⟨n, hbefore, hstop.resolve_left (by omega), hsame⟩
  · rintro ⟨n, hbefore, hall, rfl⟩
    refine ⟨c.passes + n + 1, ?_⟩
    intro bound hbound
    obtain ⟨m, -, hd, hbefore', hstop⟩ := exists_discover_within c sources config bound
    have hle : m ≤ n := Nat.le_of_not_lt fun hlt => hbefore' n hlt hall
    have hge : n ≤ m := by
      rcases hstop with hm | hall'
      · omega
      · exact Nat.le_of_not_lt fun hlt => hbefore m hlt hall'
    rw [hd, Nat.le_antisymm hle hge]

theorem EndsWith.continues (hends : EndsWith sources config c d) (bounds : List Nat) :
    Continues (c.afterCalls sources config bounds) d := by
  obtain ⟨enough, hends⟩ := hends
  obtain ⟨d', hd', hcontinues⟩ := afterCalls_continues_discover c sources config bounds
    (enough + (c.afterCalls sources config bounds).passes) (by omega)
  obtain rfl : d = d' := Except.ok.inj ((hends _ (by omega)).symm.trans hd')
  exact hcontinues

/-- Calls for one pass each, up to the first that changes neither number, end as discovery without a
bound does. -/
theorem endsWith_iff_still : EndsWith sources config c d ↔
    ∃ n, (∀ i < n, ¬ Still (c.afterCalls sources config (.replicate i 1))
        (c.afterCalls sources config (.replicate (i + 1) 1))) ∧
      Still (c.afterCalls sources config (.replicate n 1))
        (c.afterCalls sources config (.replicate (n + 1) 1)) ∧
      d = c.afterCalls sources config (.replicate (n + 1) 1) := by
  simp only [afterCalls_replicate_one, afterPasses_succ, still_afterPass_iff]
  rw [endsWith_iff]
  simp only [afterPasses_succ]

/-- **The bound only cuts discovery short.** After any calls the context is what so many single
passes make of it. A run with a higher bound, and one without, has what runs with lower bounds have,
where it was. And calls for one pass each, made until one of them changes neither number, end with
what the run without a bound ends with. -/
theorem bound_only_truncates (c : Context) (sources : Sources) (config : Config) :
    (∀ bounds : List Nat, ∃ k ≥ bounds.length,
      (c.afterCalls sources config bounds).passes = c.passes + k ∧
      c.afterCalls sources config bounds = c.afterPasses sources config k) ∧
    (∀ bounds bounds' : List Nat,
      (c.afterCalls sources config bounds).passes = (c.afterCalls sources config bounds').passes →
        c.afterCalls sources config bounds = c.afterCalls sources config bounds') ∧
    (∀ (bounds : List Nat) (bound : Nat),
      (c.afterCalls sources config bounds).passes ≤ bound →
      ∃ d, c.discover sources (config.within bound) = .ok d ∧
        Continues (c.afterCalls sources config bounds) d) ∧
    (∀ (bounds : List Nat) (d : Context), EndsWith sources config c d →
      Continues (c.afterCalls sources config bounds) d) ∧
    ∀ d : Context, EndsWith sources config c d ↔
      ∃ n, (∀ i < n, ¬ Still (c.afterCalls sources config (.replicate i 1))
          (c.afterCalls sources config (.replicate (i + 1) 1))) ∧
        Still (c.afterCalls sources config (.replicate n 1))
          (c.afterCalls sources config (.replicate (n + 1) 1)) ∧
        d = c.afterCalls sources config (.replicate (n + 1) 1) := by
  refine ⟨exists_afterCalls c sources config, ?_, afterCalls_continues_discover c sources config,
    fun bounds _ hends => hends.continues bounds, fun _ => endsWith_iff_still⟩
  intro bounds bounds' hsame
  obtain ⟨k, -, hcount, hk⟩ := exists_afterCalls c sources config bounds
  obtain ⟨k', -, hcount', hk'⟩ := exists_afterCalls c sources config bounds'
  obtain rfl : k = k' := by omega
  rw [hk, hk']

end Context
end SignatureTrust
