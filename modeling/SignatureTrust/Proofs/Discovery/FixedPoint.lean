import SignatureTrust.Proofs.Discovery.Run

/-!
# `Proofs.Discovery.FixedPoint` — when discovery stops

Discovery repeats its pass until one changes neither the number of tokens nor the number of
resolutions. Two numbers are a coarse test for *nothing changed*, and they are enough, because **a
pass resolves every token that waited when it began**: the second number stays only where nobody
waited.

> Discovery always gives a context, and there either every token is resolved or the bound on passes
> is reached. Where every token was resolved before, it counts a pass and does nothing else
> (`discover_resolves_or_exhausts`).

Nothing is asked of the context. It may have been filled and partly resolved by hand, with handles
that lead nowhere, or have used up its passes; a pass records for waiting tokens only, and what it
adds in the meantime leaves them waiting.
-/

set_option autoImplicit false

namespace SignatureTrust.Context

variable {sources : Sources} {config : Config} {c c' : Context} {t : Token} {p : Provenance}
  {v : Option Service}
variable {h : Handle} {s s' : Slot} {r : Resolution}

/-- Every token has a resolution. -/
def Resolved (c : Context) : Prop := ∀ s ∈ c.slots, s.resolution.isSome = true

/-! ## Who waits -/

theorem mem_pending_iff :
    h ∈ c.pending ↔ ∃ s, c.slot? h = some s ∧ s.resolution = none := by
  obtain ⟨i⟩ := h
  simp [pending, slot?, List.mem_zipIdx_iff_getElem?]

theorem pending_eq_nil_iff : c.pending = [] ↔ c.Resolved := by
  constructor
  · intro hnil s hs
    obtain ⟨i, hi⟩ := List.mem_iff_getElem?.1 hs
    cases hr : s.resolution with
    | some r => rfl
    | none =>
        have hwaits : (⟨i⟩ : Handle) ∈ c.pending := mem_pending_iff.2 ⟨s, hi, hr⟩
        rw [hnil] at hwaits
        cases hwaits
  · intro hall
    apply List.eq_nil_iff_forall_not_mem.2
    intro h hh
    obtain ⟨s, hs, hr⟩ := mem_pending_iff.1 hh
    have hsome := hall s (List.mem_of_getElem? hs)
    rw [hr] at hsome
    cases hsome

/-! ## How many are resolved -/

theorem resolvedCount_append : c.resolvedCount ≤ (c.append t p v).resolvedCount := by
  simp only [resolvedCount, append_eq, List.countP_append]
  exact Nat.le_add_right _ _

theorem resolvedCount_settled (hs : c.slot? h = some s) (hr : s.resolution = none) :
    (c.settled h s r).resolvedCount = c.resolvedCount + 1 := by
  obtain ⟨hlt, he⟩ := List.getElem?_eq_some_iff.1 hs
  simp [resolvedCount, settled, List.countP_set hlt, he, hr]

/-- A change loses no resolution. -/
theorem Step.resolvedCount_le (hs : Step c c') : c.resolvedCount ≤ c'.resolvedCount := by
  cases hs with
  | insert t p v =>
      rcases insert_cases c t p v with ⟨h, _, hi⟩ | ⟨_, hi⟩
      · exact Nat.le_of_eq (by rw [hi])
      · rw [hi]
        exact resolvedCount_append
  | record hr =>
      obtain ⟨s, hs, hn, rfl⟩ := record_eq_ok_iff.1 hr
      rw [resolvedCount_settled hs hn]
      exact Nat.le_succ _
  | countPass => exact Nat.le_refl _

/-- A change that resolves a token adds a resolution. -/
theorem Step.resolvedCount_lt (hst : Step c c') (hs : c.slot? h = some s)
    (hn : s.resolution = none) (hs' : c'.slot? h = some s') (hr : s'.resolution = some r) :
    c.resolvedCount < c'.resolvedCount := by
  cases hst with
  | insert t p v =>
      -- what is inserted goes elsewhere
      obtain rfl := Option.some.inj (hs'.symm.trans (slot?_insert_of_some hs))
      rw [hn] at hr
      cases hr
  | record hrec =>
      obtain ⟨a, ha, hna, rfl⟩ := record_eq_ok_iff.1 hrec
      rw [resolvedCount_settled ha hna]
      exact Nat.lt_succ_self _
  | countPass =>
      obtain rfl := Option.some.inj (hs'.symm.trans hs)
      rw [hn] at hr
      cases hr

theorem Reaches.resolvedCount_le (hr : Reaches sources config c c') :
    c.resolvedCount ≤ c'.resolvedCount :=
  hr.keeps (P := fun b => c.resolvedCount ≤ b.resolvedCount)
    (fun hle hch => Nat.le_trans hle hch.step.resolvedCount_le) (Nat.le_refl _)

theorem Reaches.resolvedCount_lt (hreach : Reaches sources config c c') (hs : c.slot? h = some s)
    (hn : s.resolution = none) (hs' : c'.slot? h = some s') (hr : s'.resolution = some r) :
    c.resolvedCount < c'.resolvedCount := by
  induction hreach generalizing s' r with
  | refl =>
      obtain rfl := Option.some.inj (hs'.symm.trans hs)
      rw [hn] at hr
      cases hr
  | tail before hch ih =>
      -- the token was resolved by an earlier change, or by the last one
      obtain ⟨a, ha, -⟩ := Reaches.grows before |>.slot hs
      cases hra : a.resolution with
      | some r' => exact Nat.lt_of_lt_of_le (ih ha hra) hch.step.resolvedCount_le
      | none =>
          exact Nat.lt_of_le_of_lt (Reaches.resolvedCount_le before)
            (hch.step.resolvedCount_lt ha hra hs' hr)

/-! ## A pass counts as one -/

theorem passes_insert : (c.insert t p v).2.passes = c.passes := by
  rcases insert_cases c t p v with ⟨h, _, hi⟩ | ⟨_, hi⟩
  · rw [hi]
  · rw [hi, append_eq]

theorem passes_of_record (hr : c.record h r = .ok c') : c'.passes = c.passes := by
  obtain ⟨s, _, _, rfl⟩ := record_eq_ok_iff.1 hr
  rfl

theorem passes_resolveCertificate {certificate issuer : Certificate} :
    (c.resolveCertificate sources certificate issuer h).2.passes = c.passes := by
  unfold resolveCertificate
  split
  · rfl
  · split
    · rfl
    · exact passes_insert

theorem passes_of_process (hp : c.process sources config h t = .ok c') : c'.passes = c.passes := by
  unfold process at hp
  cases search : sources.issuer? config c.date t with
  | none =>
      rw [search] at hp
      exact passes_of_record hp
  | some e =>
      rw [search] at hp
      cases t with
      | certificate x =>
          exact (passes_of_record hp).trans (passes_resolveCertificate.trans passes_insert)
      | crl _ | ocsp _ | timestamp _ => exact (passes_of_record hp).trans passes_insert

theorem passes_of_visit (hv : visit sources config c h = .ok c') : c'.passes = c.passes := by
  unfold visit at hv
  split at hv
  · split at hv
    · exact passes_of_process hv
    · cases hv
      rfl
  · cases hv
    rfl

theorem passes_of_foldlM_visit {hs : List Handle}
    (hf : hs.foldlM (visit sources config) c = .ok c') :
    c'.passes = c.passes := by
  induction hs generalizing c with
  | nil =>
      cases hf
      rfl
  | cons h hs ih =>
      obtain ⟨c₁, hv, -⟩ := visit_reaches sources config c h
      rw [List.foldlM_cons, hv] at hf
      exact (ih hf).trans (passes_of_visit hv)

/-! ## One pass -/

theorem pass_of_resolved (hall : c.Resolved) :
    c.pass sources config = .ok { c with passes := c.passes + 1 } := by
  rw [pass, pending_eq_nil_iff.2 hall]
  rfl

/-- **A pass does nothing but count, or it resolves more.** Which of the two depends on whether
anybody waits. -/
theorem exists_pass (sources : Sources) (config : Config) (c : Context) :
    ∃ next, c.pass sources config = .ok next ∧ next.passes = c.passes + 1 ∧
      (c.Resolved ∧ next = { c with passes := c.passes + 1 } ∨
        c.resolvedCount < next.resolvedCount) := by
  unfold pass
  cases hp : c.pending with
  | nil => exact ⟨_, rfl, rfl, .inl ⟨pending_eq_nil_iff.1 hp, rfl⟩⟩
  | cons h rest =>
      obtain ⟨s, hs, hn⟩ := mem_pending_iff.1 (hp ▸ List.mem_cons_self : h ∈ c.pending)
      obtain ⟨c₁, hv, hr₁, hresolves⟩ := visit_reaches sources config c h
      obtain ⟨c₂, hf, hr₂⟩ := foldlM_visit_reaches sources config rest c₁
      obtain ⟨s', r, hs', hr, -⟩ := hresolves hs hn
      have hfold : (h :: rest).foldlM (visit sources config) c = .ok c₂ := by
        rw [List.foldlM_cons, hv]; exact hf
      refine ⟨{ c₂ with passes := c₂.passes + 1 }, by rw [hfold]; rfl, ?_, .inr ?_⟩
      · exact congrArg (· + 1) (passes_of_foldlM_visit hfold)
      · exact Nat.lt_of_lt_of_le (hr₁.resolvedCount_lt hs hn hs' hr) hr₂.resolvedCount_le

/-- A pass that changes neither number was one with nobody waiting. -/
theorem resolved_of_unchanged {next : Context}
    (hpass : c.Resolved ∧ next = { c with passes := c.passes + 1 } ∨
      c.resolvedCount < next.resolvedCount)
    (hsame : next.size = c.size ∧ next.resolvedCount = c.resolvedCount) : next.Resolved := by
  rcases hpass with ⟨hall, rfl⟩ | hlt
  · exact hall
  · exact absurd hsame.2 (Nat.ne_of_gt hlt)

/-! ## The whole run -/

theorem exists_discoverWithin (sources : Sources) (config : Config) (more : Nat) (c : Context) :
    ∃ c', discoverWithin sources config more c = .ok c' ∧
      (c'.Resolved ∨ c.passes + more + 1 ≤ c'.passes) := by
  induction more generalizing c with
  | zero =>
      obtain ⟨next, hp, hcount, -⟩ := exists_pass sources config c
      refine ⟨next, ?_, .inr (Nat.le_of_eq hcount.symm)⟩
      rw [discoverWithin, hp]
      exact ite_self (Except.ok next)
  | succ more ih =>
      obtain ⟨next, hp, hcount, hpass⟩ := exists_pass sources config c
      by_cases hsame : next.size = c.size ∧ next.resolvedCount = c.resolvedCount
      · refine ⟨next, ?_, .inl (resolved_of_unchanged hpass hsame)⟩
        rw [discoverWithin, hp]
        exact if_pos hsame
      · obtain ⟨c', hw, hstop⟩ := ih next
        refine ⟨c', ?_, hstop.imp id fun hle => ?_⟩
        · rw [discoverWithin, hp]
          exact (if_neg hsame).trans hw
        · rw [hcount] at hle
          omega

theorem discover_of_resolved (hall : c.Resolved) :
    c.discover sources config = .ok { c with passes := c.passes + 1 } := by
  unfold discover discoverWithin
  rw [pass_of_resolved hall]
  exact if_pos ⟨rfl, rfl⟩

/-- **Discovery gives a context, and stops where every token is resolved or its passes are used
up.** From a context where every token is resolved it only counts a pass. -/
theorem discover_resolves_or_exhausts (c : Context) (sources : Sources) (config : Config) :
    ∃ c', c.discover sources config = .ok c' ∧
      (c'.Resolved ∨ config.maxPasses ≤ c'.passes) ∧
      (c.Resolved → c' = { c with passes := c.passes + 1 }) := by
  obtain ⟨c', hd, hstop⟩ :=
    exists_discoverWithin sources config (config.maxPasses - c.passes - 1) c
  refine ⟨c', hd, hstop.imp id fun hle => by omega, ?_⟩
  intro hall
  exact Except.ok.inj (hd.symm.trans (discover_of_resolved hall))

end SignatureTrust.Context
