import SignatureTrust.Level.Timestamp
import SignatureTrust.Proofs.Discovery.ChainVerdict
import SignatureTrust.Proofs.Discovery.IssuerLinks

/-!
# `Proofs.Level.TimestampSigner` — the signer of a timestamp and the verdict on its chain

Whether somebody trusted made a timestamp is decided by a walk of its own over what discovery
gathered, not by the verdict on the chain. The two agree on what is missing, on revocation and on
the trusted list. They part on two questions that only the chain's verdict asks: whether a status
says *unknown*, and whether the evidence behind a status was verified (`Unvouched`).

> Where a timestamp is valid, the verdict on its chain is valid **exactly where nothing on it is
> unvouched** (`chainVerdict_iff_of_verify`).

So the signer check is the laxer one. `Unsure` has a timestamp that is valid although its signer's
status is unknown.
-/

set_option autoImplicit false

namespace SignatureTrust

open Context

/-- A status on the chain says unknown, or rests on evidence that was not verified. -/
def Context.Unvouched (c : Context) (r : Resolution) : Prop :=
  c.evidenceIsUnverified r = true ∨ ∃ status, r.status? = some status ∧
    status.validity = .unknown

theorem Context.passes_iff {c : Context} {r : Resolution} :
    Passes c r ↔ r.isUnresolved = false ∧ r.isRevoked = false ∧ ¬ c.Unvouched r := by
  constructor
  · intro hp
    refine ⟨hp.settled, ?_, ?_⟩
    · cases hs : r.status? with
      | none => simp [Resolution.isRevoked, hs]
      | some status => simp [Resolution.isRevoked, hs, hp.valid hs]
    · rintro (hu | ⟨status, hs, hunknown⟩)
      · exact absurd hp.verified (by simp [hu])
      · exact absurd (hp.valid hs) (by simp [hunknown])
  · rintro ⟨hsettled, hrevoked, hvouched⟩
    refine ⟨hsettled, ?_, ?_⟩
    · cases hu : c.evidenceIsUnverified r with
      | false => rfl
      | true => exact absurd (.inl hu) hvouched
    · intro status hs
      cases hv : status.validity with
      | valid => rfl
      | revoked => simp [Resolution.isRevoked, hs, hv] at hrevoked
      | unknown => exact absurd (.inr ⟨status, hs, hv⟩) hvouched

namespace TimestampVerifier

variable {v : TimestampVerifier} {label name : String} {t : TimestampElement} {covered : Octets}
variable {sources : Sources} {config : Config} {date : Instant} {c : Context}

/-! ## The walk -/

/-- A resolution that the walk does not object to. -/
def Unobjectionable (r : Option Resolution) : Prop :=
  ∃ resolution, r = some resolution ∧ resolution.isUnresolved = false ∧
    resolution.isRevoked = false

theorem any_settled_iff {r : Option Resolution} :
    r.any (fun r => !r.isUnresolved) = true ↔
      ∃ resolution, r = some resolution ∧ resolution.isUnresolved = false := by
  cases r <;> simp

theorem objection_eq_none_iff {r : Option Resolution} {revoked unresolved : Verdict} :
    (if r.any (·.isRevoked) = true then some revoked
      else if (!r.any fun r => !r.isUnresolved) = true then some unresolved else none) = none ↔
      Unobjectionable r := by
  cases r with
  | none => simp [Unobjectionable]
  | some r => cases hr : r.isRevoked <;> cases hu : r.isUnresolved <;>
      simp [Unobjectionable, hr, hu]

/-- **The walk has no objection exactly where the target is settled, every certificate of the chain
is settled and not revoked, and one is trusted.** -/
theorem signerObjection?_eq_none_iff : signerObjection? name c = none ↔
    (∃ r, c.resolutionAt? target = some r ∧ r.isUnresolved = false) ∧
      (∀ e ∈ c.chain, Unobjectionable (c.resolutionOf? (.certificate e.certificate))) ∧
      ∃ e ∈ c.chain, e.isTrusted = true := by
  unfold signerObjection?
  dsimp only
  rw [← any_settled_iff]
  by_cases hsettled : ((c.resolutionAt? target).any fun r => !r.isUnresolved) = true
  · rw [if_neg (by simp [hsettled]), and_iff_right hsettled]
    split
    · -- the walk stopped at a certificate
      rename_i objection hin
      obtain ⟨e, he, hobjection⟩ := List.exists_of_findSome?_eq_some hin
      constructor
      · intro h
        cases h
      · rintro ⟨hall, -⟩
        rw [objection_eq_none_iff.2 (hall e he)] at hobjection
        cases hobjection
    · rename_i hin
      have hall : ∀ e ∈ c.chain, Unobjectionable
          (c.resolutionOf? (.certificate e.certificate)) :=
        fun e he => objection_eq_none_iff.1 (List.findSome?_eq_none_iff.1 hin e he)
      rw [and_iff_right hall, ← List.any_eq_true]
      split
      · rename_i htrust
        exact iff_of_true rfl htrust
      · rename_i htrust
        exact iff_of_false (by simp) htrust
  · rw [if_pos (by simpa using hsettled)]
    exact iff_of_false (by simp) fun h => hsettled h.1

/-! ## The verdict -/

theorem isValid_of_signerObjection? {objection : Verdict}
    (h : signerObjection? name c = some objection) :
    objection.isValid = false := by
  unfold signerObjection? at h
  dsimp only at h
  split at h
  · obtain rfl := Option.some.inj h
    rfl
  · split at h
    · rename_i hin
      obtain rfl := Option.some.inj h
      obtain ⟨e, -, hobjection⟩ := List.exists_of_findSome?_eq_some hin
      split at hobjection
      · obtain rfl := Option.some.inj hobjection
        rfl
      · split at hobjection
        · obtain rfl := Option.some.inj hobjection
          rfl
        · cases hobjection
    · split at h
      · cases h
      · obtain rfl := Option.some.inj h
        rfl

theorem checkSigner?_of_verify (hcheck : v.signerCheck = some (sources, config))
    (hvalid : (v.verify label t covered).isValid = true) :
    ∃ name c, (ofTarget (.timestamp t.token) v.date).discover sources config = .ok c ∧
      signerObjection? name c = none := by
  obtain ⟨c, hc, -⟩ := reaches_of_discover sources config (ofTarget (.timestamp t.token) v.date)
  unfold verify at hvalid
  dsimp only at hvalid
  split at hvalid
  · cases hvalid
  · split at hvalid
    · cases hvalid
    · -- the imprint is right, so only an objection could stand in the way
      rw [hcheck, Option.bind_some] at hvalid
      simp only [checkSigner?, hc] at hvalid
      split at hvalid
      · rename_i hobjection
        rw [isValid_of_signerObjection? hobjection] at hvalid
        cases hvalid
      · rename_i hnone
        exact ⟨_, c, hc, hnone⟩

/-- **Where a timestamp is valid, the verdict on its chain is valid exactly where nothing on the
chain is unvouched.** -/
theorem chainVerdict_iff_of_verify (v : TimestampVerifier)
    (label : String) (t : TimestampElement) (covered : Octets)
    (sources : Sources) (config : Config) (hcheck : v.signerCheck = some (sources, config))
    (hvalid : (v.verify label t covered).isValid = true) :
    ∃ c, (ofTarget (.timestamp t.token) v.date).discover sources config = .ok c ∧
      ((SignatureTrust.chainVerdict (some c)).isValid = true ↔
        ∀ e ∈ c.chain, ∀ r, c.resolutionOf? (.certificate e.certificate) = some r →
          ¬ c.Unvouched r) := by
  obtain ⟨name, c, hc, hnone⟩ := checkSigner?_of_verify hcheck hvalid
  obtain ⟨-, hchain, htrust⟩ := signerObjection?_eq_none_iff.1 hnone
  refine ⟨c, hc, ?_⟩
  rw [isValid_chainVerdict_iff, and_iff_left htrust]
  apply forall₂_congr
  intro e he
  obtain ⟨r, hr, hsettled, hrevoked⟩ := hchain e he
  rw [isValid_linkVerdict_iff, hr]
  simp only [Option.some.injEq, exists_eq_left', forall_eq', passes_iff, hsettled,
    hrevoked, true_and]

end TimestampVerifier

namespace Specimen

/-- A timestamp over nothing, made by the leaf. -/
def timestamp : TimestampElement where
  id := none
  includes := []
  token := {
    encoding := [2]
    generatedAt := ⟨1⟩
    imprint := ⟨"2.16.840.1.101.3.4.2.1", []⟩
    signerIssuer := ⟨"CN=Root"⟩
    signerSerial := ⟨[2]⟩
    signed := signedWith 1
    certificates := [leaf] }

def verifier (sources : Sources) : TimestampVerifier := ⟨crypto, ⟨5⟩, some (sources, {})⟩

/-- The root's list vouches for the leaf: the timestamp is valid, and so is the verdict on its
chain. -/
theorem timestamp_chainVerdict :
    ((verifier sources).verify "SignatureTimeStamp" timestamp []).isValid = true ∧
      ∃ c, (ofTarget (.timestamp timestamp.token) ⟨5⟩).discover sources {} = .ok c ∧
        (SignatureTrust.chainVerdict (some c)).isValid = true ∧
        ∀ e ∈ c.chain, ∀ r, c.resolutionOf? (.certificate e.certificate) = some r →
          ¬ c.Unvouched r := by
  have hvalid : ((verifier sources).verify "SignatureTimeStamp" timestamp []).isValid = true := by
    decide +kernel
  obtain ⟨c, hc, hiff⟩ := TimestampVerifier.chainVerdict_iff_of_verify
    (verifier sources) "SignatureTimeStamp" timestamp [] sources {} rfl hvalid
  have hrun : ((ofTarget (.timestamp timestamp.token) ⟨5⟩).discover sources {}).toOption.any
      (fun c => (SignatureTrust.chainVerdict (some c)).isValid) = true := by decide +kernel
  have hchain : (SignatureTrust.chainVerdict (some c)).isValid = true := by
    change (ofTarget (.timestamp timestamp.token) ⟨5⟩).discover sources {} = .ok c at hc
    rw [hc] at hrun
    exact hrun
  exact ⟨hvalid, c, hc, hchain, hiff.1 hchain⟩

end Specimen

namespace Unsure

open Specimen

/-- The root answers that it does not know the leaf. -/
def response : OcspResponse where
  encoding := [3]
  responder := .name ⟨"CN=Root"⟩
  producedAt := ⟨0⟩
  responses := [⟨⟨[2]⟩, .unknown, ⟨0⟩, none⟩]
  signed := signedWith 0
  certificates := []

/-- The root is trusted, and there is nothing but its response. -/
def sources : Sources where
  crypto := crypto
  trustedList := Specimen.sources.trustedList
  ocsp := some (.ofList [response])

/-- The leaf's status is unknown, which leaves the timestamp valid and the verdict on its chain
not. -/
theorem timestamp_valid_chain_not :
    ((verifier sources).verify "SignatureTimeStamp" timestamp []).isValid = true ∧
      ∃ c, (ofTarget (.timestamp timestamp.token) ⟨5⟩).discover sources {} = .ok c ∧
        (SignatureTrust.chainVerdict (some c)).isValid = false := by
  obtain ⟨c, hc, -⟩ :=
    reaches_of_discover sources {} (ofTarget (.timestamp timestamp.token) ⟨5⟩)
  have hrun : ((ofTarget (.timestamp timestamp.token) ⟨5⟩).discover sources {}).toOption.any
      (fun c => !(SignatureTrust.chainVerdict (some c)).isValid) = true := by decide +kernel
  rw [hc] at hrun
  refine ⟨by decide +kernel, c, hc, ?_⟩
  simpa [Except.toOption] using hrun

end Unsure
end SignatureTrust
