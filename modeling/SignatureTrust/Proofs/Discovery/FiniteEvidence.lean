import Mathlib.Data.Finset.Card
import SignatureTrust.Proofs.Discovery.InStep
import SignatureTrust.Proofs.Discovery.Passes
import SignatureTrust.Proofs.Discovery.RecordedEvidence

/-!
# `Proofs.Discovery.FiniteEvidence` — discovery comes to an end

Discovery feeds itself: to resolve a token it adds others, and those can lead back to it. Two
certificates that issued each other, or a list whose signer's status rests on that very list, do not
keep it busy, because a token that is there is not added again. What counts is only how much there
is to find:

> A pass resolves whatever was there when it began. Either it adds a token, or nobody waits after it
> (`resolved_or_size_lt`).

Where all that sources can answer is among so many objects (`DrawnFrom`), tokens run out, one pass
later nobody waits, and one more finds that out (`resolved_within_finite_evidence`). Two
certificates that issued each other take all these passes (`CrossCertified.firstList_resolved`).
-/

set_option autoImplicit false

namespace SignatureTrust

/-- All that the sources ever answer, and what comes along with it or with the target, is in a pool
of tokens. -/
structure Sources.DrawnFrom (sources : Sources) (target : Token) (pool : Finset Token) : Prop where
  returned : ∀ {e : Entry}, sources.Returns e → .certificate e.certificate ∈ pool
  listed : ∀ {source : CrlSource} {x issuer : Certificate} {date : Instant} {l : Crl},
    sources.crl = some source → source.getAt x issuer date = some l → .crl l ∈ pool
  answered : ∀ {source : OcspSource} {x issuer : Certificate} {date : Instant} {r : OcspResponse},
    sources.ocsp = some source → source.getAt x issuer date = some r → .ocsp r ∈ pool
  alongAnswer : ∀ {r : OcspResponse} {x : Certificate}, .ocsp r ∈ pool →
    x ∈ r.certificates → .certificate x ∈ pool
  alongTarget : ∀ {x : Certificate}, x ∈ target.bag → .certificate x ∈ pool

namespace Context

variable {sources : Sources} {config : Config} {t : Token} {date : Instant} {c c' : Context}
variable {h : Handle} {s : Slot} {pool : Finset Token}

/-! ## What a pass resolves -/

theorem isSome_of_visit (hv : visit sources config c h = .ok c') (hs : c.slot? h = some s) :
    (c'.resolutionAt? h).isSome = true := by
  obtain ⟨c₁, hv₁, hreach, hresolves⟩ := visit_reaches sources config c h
  obtain rfl := Except.ok.inj (hv₁.symm.trans hv)
  cases hr : s.resolution with
  | some r => exact hreach.grows.isSome_resolutionAt? (by simp [resolutionAt?, hs, hr])
  | none =>
      obtain ⟨s', r, hs', hr', -⟩ := hresolves hs hr
      simp [resolutionAt?, hs', hr']

/-- Whoever is visited is resolved, and stays so while the others are visited. -/
theorem isSome_of_foldlM_visit {hs : List Handle} (hf : hs.foldlM (visit sources config) c = .ok c')
    (hh : h ∈ hs) (hslot : c.slot? h = some s) : (c'.resolutionAt? h).isSome = true := by
  induction hs generalizing c s with
  | nil => cases hh
  | cons i rest ih =>
      obtain ⟨c₁, hv, hreach, -⟩ := visit_reaches sources config c i
      rw [List.foldlM_cons, hv] at hf
      rcases List.mem_cons.1 hh with rfl | hh
      · obtain ⟨c₂, hrest, hreach₂⟩ := foldlM_visit_reaches sources config rest c₁
        obtain rfl := Except.ok.inj (hrest.symm.trans hf)
        exact hreach₂.grows.isSome_resolutionAt? (isSome_of_visit hv hslot)
      · obtain ⟨s₁, hs₁, -⟩ := hreach.grows.slot hslot
        exact ih hf hh hs₁

/-- A token that was there when a pass began is resolved when it ends. -/
theorem isSome_afterPass (sources : Sources) (config : Config) (hs : c.slot? h = some s) :
    ((c.afterPass sources config).resolutionAt? h).isSome = true := by
  have hgrows : Grows c (c.afterPass sources config) := (reaches_afterPass c sources config).grows
  cases hr : s.resolution with
  | some r => exact hgrows.isSome_resolutionAt? (by simp [resolutionAt?, hs, hr])
  | none =>
      obtain ⟨c₁, hf, -⟩ := foldlM_visit_reaches sources config c.pending c
      have hpass : c.pass sources config = .ok { c₁ with passes := c₁.passes + 1 } := by
        rw [pass, hf]; rfl
      have hvisited : (c₁.resolutionAt? h).isSome = true :=
        isSome_of_foldlM_visit hf (mem_pending_iff.2 ⟨s, hs, hr⟩) hs
      rw [Except.ok.inj ((pass_eq c sources config).symm.trans hpass)]
      exact hvisited

/-- **A pass adds a token, or nobody waits after it.** -/
theorem resolved_or_size_lt (c : Context) (sources : Sources) (config : Config) :
    (c.afterPass sources config).Resolved ∨ c.size < (c.afterPass sources config).size := by
  have hle : c.size ≤ (c.afterPass sources config).size :=
    (reaches_afterPass c sources config).grows.size_le
  rcases Nat.lt_or_eq_of_le hle with hlt | hsame
  · exact .inr hlt
  · left
    intro s hs
    obtain ⟨i, hi⟩ := List.mem_iff_getElem?.1 hs
    obtain ⟨hlt, -⟩ := List.getElem?_eq_some_iff.1 hi
    have hbefore : i < c.slots.length := by
      simp only [size] at hsame
      omega
    have hthere : c.slot? ⟨i⟩ = some c.slots[i] := List.getElem?_eq_getElem hbefore
    have hresolved := isSome_afterPass sources config hthere
    rwa [resolutionAt?, slot?, hi, Option.bind_some] at hresolved

theorem resolved_or_size_le (c : Context) (sources : Sources) (config : Config) (n : Nat) :
    (c.afterPasses sources config n).Resolved ∨
      c.size + n ≤ (c.afterPasses sources config n).size := by
  induction n with
  | zero => exact .inr (Nat.le_refl _)
  | succ n ih =>
      rw [afterPasses_succ]
      rcases ih with hall | hle
      · left
        rw [afterPass_of_resolved hall]
        exact hall
      · exact (resolved_or_size_lt _ sources config).imp id fun hlt => Nat.lt_of_le_of_lt hle hlt

/-! ## What there is to add -/

/-- A token other than the target is in the pool. -/
theorem Discovered.mem_pool (hd : Discovered sources config t date c)
    (hpool : sources.DrawnFrom t pool) (hs : c.slot? h = some s) (hn : h ≠ target) :
    s.token ∈ pool := by
  cases hd.origin hs hn with
  | issuer there search sourced =>
      obtain ⟨x, hx, hentry⟩ := Option.map_eq_some_iff.1 sourced
      have htoken : s.token = .certificate x := Token.eq_of_certificate? hx
      subst hentry
      rw [htoken]
      cases hd.knows_found there search with
      | target is =>
          -- the target stands at the first handle, and no token at two
          obtain ⟨s₀, hs₀, ht, -, -⟩ := hd.first
          have hfirst := hd.filed.handleOf?_of_slot hs₀
          rw [ht, is, ← htoken, hd.filed.handleOf?_of_slot hs] at hfirst
          exact absurd (Option.some.inj hfirst) hn
      | withTarget along => exact hpool.alongTarget along
      | returned returns => exact hpool.returned returns
      | withResponse asked given along => exact hpool.alongAnswer (hpool.answered asked given) along
  | evidence answer rests token =>
      obtain ⟨evidence, hrests, answered⟩ := Status.answered_of_check? answer
      obtain rfl := Option.some.inj (rests.symm.trans hrests)
      rw [token]
      cases answered with
      | byResponse asked given _ => exact hpool.answered asked given
      | byList asked given _ => exact hpool.listed asked given

theorem Discovered.size_le (hd : Discovered sources config t date c)
    (hpool : sources.DrawnFrom t pool) :
    c.size ≤ pool.card + 1 := by
  have hnodup : (c.tokens.drop 1).Nodup :=
    (List.Nodup.of_map _ hd.filed.nodup_keys).sublist (List.drop_sublist 1 _)
  have hsubset : (c.tokens.drop 1).toFinset ⊆ pool := by
    intro u hu
    obtain ⟨i, hi⟩ := List.mem_iff_getElem?.1 (List.mem_toFinset.1 hu)
    rw [List.getElem?_drop, tokens, List.getElem?_map] at hi
    obtain ⟨s, hs, rfl⟩ := Option.map_eq_some_iff.1 hi
    refine hd.mem_pool hpool (h := ⟨1 + i⟩) hs ?_
    intro hfirst
    have hindex : 1 + i = 0 := congrArg Handle.index hfirst
    omega
  have hcard : (c.tokens.drop 1).length ≤ pool.card := by
    rw [← List.toFinset_card_of_nodup hnodup]
    exact Finset.card_le_card hsubset
  have hlength : (c.tokens.drop 1).length = c.size - 1 := by simp [tokens, size]
  omega

/-- However many passes are made, tokens do not outnumber the pool and the target. -/
theorem size_afterPasses_le (hpool : sources.DrawnFrom t pool) (n : Nat) :
    ((ofTarget t date).afterPasses sources config n).size ≤ pool.card + 1 := by
  have hd : Discovered sources config t date ((ofTarget t date).afterPasses sources config n) :=
    (reaches_afterPasses _ sources config n).keeps
      (P := Discovered sources config t date) Discovered.change (discovered_ofTarget t date)
  exact hd.size_le hpool

/-- After one pass for each token that there can be, there is none that a pass could still have
added. -/
theorem resolved_afterPasses (hpool : sources.DrawnFrom t pool) :
    ((ofTarget t date).afterPasses sources config (pool.card + 1)).Resolved := by
  refine (resolved_or_size_le (ofTarget t date) sources config (pool.card + 1)).resolve_right ?_
  have hone : (ofTarget t date).size = 1 := rfl
  have hmost :
      ((ofTarget t date).afterPasses sources config (pool.card + 1)).size ≤ pool.card + 1 :=
    size_afterPasses_le hpool (pool.card + 1)
  omega

/-- **On finite evidence discovery resolves every token.** With a pool of so many objects it takes
two passes more at most, if the bound allows them, and ends with one token more at most. -/
theorem resolved_within_finite_evidence (t : Token) (date : Instant)
    (sources : Sources) (config : Config) (pool : Finset Token) (hpool : sources.DrawnFrom t pool)
    (hbound : pool.card + 2 ≤ config.maxPasses) :
    ∃ c, (ofTarget t date).discover sources config = .ok c ∧ c.Resolved ∧
      c.passes ≤ pool.card + 2 ∧
      c.size ≤ pool.card + 1 := by
  have hend : ((ofTarget t date).afterPasses sources config (pool.card + 1)).Resolved :=
    resolved_afterPasses hpool
  have hnone : (ofTarget t date).passes = 0 := rfl
  obtain ⟨n, -, hd, hbefore, hstop⟩ := exists_discover (ofTarget t date) sources config
  have hn : n ≤ pool.card + 1 := Nat.le_of_not_lt fun hlt => hbefore _ hlt hend
  have hall : ((ofTarget t date).afterPasses sources config n).Resolved := by
    rcases hstop with hm | hall
    · -- the bound allows as many passes as are needed
      obtain rfl : n = pool.card + 1 := by omega
      exact hend
    · exact hall
  refine ⟨_, hd, ?_, ?_, size_afterPasses_le hpool (n + 1)⟩
  · rw [afterPasses_succ, afterPass_of_resolved hall]
    exact hall
  · rw [passes_afterPasses]
    omega

end Context

namespace CrossCertified

open Context Specimen

/-- Nothing but the two certificates that issued each other. -/
def pairSources : Sources where
  crypto := crypto
  external :=
    some (CertificateStore.ofEntries .other [.plain ca .other, .plain cross .other]).bySubject

def pair : Finset Token := {.certificate ca, .certificate cross}

theorem drawnFrom_pair : pairSources.DrawnFrom (.crl firstList) pair where
  returned := by
    intro e returns
    cases returns with
    | trusted asked _ => cases asked
    | external asked given =>
        obtain rfl := Option.some.inj asked
        have hm : e ∈ [Entry.plain ca .other, Entry.plain cross .other] :=
          (CertificateStore.mem_bySubject_iff.1 given).1
        rcases List.mem_pair.1 hm with rfl | rfl
        · exact Finset.mem_insert_self ..
        · exact Finset.mem_insert_of_mem (Finset.mem_singleton_self _)
  listed asked _ := by cases asked
  answered asked _ := by cases asked
  alongAnswer there _ := by simp [pair] at there
  alongTarget along := by cases along

/-- Going round the two certificates adds a token a pass, then nothing, and all passes are
needed. -/
theorem firstList_resolved : pairSources.DrawnFrom (.crl firstList) pair ∧ pair.card = 2 ∧
    ∃ c, (ofTarget (.crl firstList) ⟨5⟩).discover pairSources { maxPasses := 4 } = .ok c ∧
      c.Resolved ∧
      c.passes = 4 ∧ c.size = 3 := by
  have hcard : pair.card = 2 := by decide +kernel
  obtain ⟨c, hc, hall, -, -⟩ :=
    resolved_within_finite_evidence (.crl firstList) ⟨5⟩ pairSources
      { maxPasses := 4 } pair drawnFrom_pair (Nat.le_of_eq (congrArg (· + 2) hcard))
  have hrun : ((ofTarget (.crl firstList) ⟨5⟩).discover pairSources
      { maxPasses := 4 }).toOption.map (fun c => (c.passes, c.size)) = some (4, 3) := by
    decide +kernel
  rw [hc] at hrun
  obtain ⟨hpasses, hsize⟩ := Prod.mk.inj (Option.some.inj hrun)
  exact ⟨drawnFrom_pair, hcard, c, hc, hall, hpasses, hsize⟩

end CrossCertified
end SignatureTrust
