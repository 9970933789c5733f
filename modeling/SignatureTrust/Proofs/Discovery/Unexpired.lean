import SignatureTrust.Proofs.Discovery.TrustPath

/-!
# `Proofs.Discovery.Unexpired` — which certificates of a chain are valid at its date

A period of validity is looked at in one place: a candidate that is not valid at the date is
nobody's issuer. A certificate gets into a context by being found as an issuer, and in no other way,
**unless it is the target**.

> A chain contains an expired certificate exactly when its target is one (`chain_unexpired_iff`).

Under which issuer and serial a certificate is filed does not matter: whichever of two stands at a
handle, it was found once. The verdict on the chain does not matter either. It is read off the
recorded resolutions, which know no period, so a chain may be valid and start at a certificate that
has expired (`Expired`).
-/

set_option autoImplicit false

namespace SignatureTrust.Context

variable {sources : Sources} {config : Config} {t : Token} {date : Instant} {c : Context}
variable {h : Handle} {e : Entry}

/-! ## The certificates of a context -/

/-- A certificate that is not the target is valid, because it was found. -/
theorem Discovered.valid_of_entryAt? (hd : Discovered sources config t date c)
    (he : c.entryAt? h = some e) (hn : h ≠ target) : e.certificate.isValidAt date = true := by
  obtain ⟨_, _, -, search⟩ := hd.found_of_entryAt? he hn
  exact Sources.valid_of_issuer? search

/-- At the handle of the target stands a certificate if the target is one, and then it is that
one. -/
theorem Discovered.certificate?_of_entryAt?_target (hd : Discovered sources config t date c)
    (he : c.entryAt? target = some e) : t.certificate? = some e.certificate := by
  obtain ⟨s, hs, ht, -⟩ := slot_of_entryAt? he
  obtain ⟨rfl, -, -⟩ := hd.eq_target hs
  rw [ht, Token.certificate?]

/-! ## The certificates of a chain -/

theorem exists_entryAt?_of_mem_chainFrom {steps : Nat} {start : Option Handle}
    (hm : e ∈ c.chainFrom steps start) :
    ∃ h, c.entryAt? h = some e := by
  induction steps generalizing start with
  | zero => cases hm
  | succ steps ih =>
      cases start with
      | none => cases hm
      | some h =>
          cases he : c.entryAt? h with
          | none => simp [chainFrom, he] at hm
          | some first =>
              simp only [chainFrom, he, List.mem_cons] at hm
              rcases hm with rfl | hm
              · exact ⟨h, he⟩
              · exact ih hm

theorem Discovered.mem_chain_of_certificate {x : Certificate}
    (hd : Discovered sources config (.certificate x) date c) :
    .plain x .other ∈ c.chain := by
  obtain ⟨hchain, hfirst⟩ := hd.chain_of_certificate
  simp [hchain, chainFrom, hfirst]

theorem Discovered.forall_chain_valid_iff (hd : Discovered sources config t date c) :
    (∀ e ∈ c.chain, e.certificate.isValidAt date = true) ↔
      ∀ x ∈ t.certificate?, x.isValidAt date = true := by
  constructor
  · intro hall x hx
    obtain rfl := Token.eq_of_certificate? hx
    exact hall _ hd.mem_chain_of_certificate
  · intro htarget e he
    obtain ⟨h, hh⟩ := exists_entryAt?_of_mem_chainFrom he
    by_cases hn : h = target
    · subst hn
      exact htarget _ (hd.certificate?_of_entryAt?_target hh)
    · exact hd.valid_of_entryAt? hh hn

/-- **All certificates of a chain are valid at its date exactly when the target is, if it is a
certificate.** -/
theorem chain_unexpired_iff (t : Token) (date : Instant) (sources : Sources) (config : Config) :
    ∃ c, (ofTarget t date).discover sources config = .ok c ∧
      ((∀ e ∈ c.chain, e.certificate.isValidAt date = true) ↔
        ∀ x ∈ t.certificate?, x.isValidAt date = true) := by
  obtain ⟨c, hc, hd⟩ := exists_discovered t date sources config
  exact ⟨c, hc, hd.forall_chain_valid_iff⟩

end SignatureTrust.Context

namespace SignatureTrust.Expired

open Context Specimen

/-- A leaf that expired at 3. -/
def leaf : Certificate := { Specimen.leaf with notAfter := ⟨3⟩ }

/-- At 5 the chain of the expired leaf is valid, and contains it. -/
theorem leaf_chain_valid_not_unexpired :
    ∃ c, (ofTarget (.certificate leaf) ⟨5⟩).discover sources {} = .ok c ∧
      (SignatureTrust.chainVerdict (some c)).isValid = true ∧
      ¬ ∀ e ∈ c.chain, e.certificate.isValidAt ⟨5⟩ = true := by
  obtain ⟨c, hc, hd⟩ := exists_discovered (.certificate leaf) ⟨5⟩ sources {}
  have hrun : ((ofTarget (.certificate leaf) ⟨5⟩).discover sources {}).toOption.any
      (fun c => (SignatureTrust.chainVerdict (some c)).isValid) = true := by decide +kernel
  rw [hc] at hrun
  refine ⟨c, hc, hrun, ?_⟩
  intro hall
  exact absurd (hall _ hd.mem_chain_of_certificate) (by decide)

end SignatureTrust.Expired
