import SignatureTrust.Proofs.Discovery.IssuerLinks
import SignatureTrust.Proofs.Signature.Evidence

/-!
# `Proofs.Validator.Memo` — when the last context may be used again

Without the memo a validation discovers anew for every signature and counter-signature
(`Settings.afresh`). With it, it should say the same, over any number of calls, whatever was
validated before. A memo is **sound** if it is what discovery makes for one of the signatures
(`Memo.Sound`); every call takes a sound memo to a sound memo and says what `afresh` says, as long
as

> the encoding tells the certificate, the digest tells the octets, and **the octets tell the
> evidence** (`Identified`).

The first two are what encodings and digests are for. The third is not to be had for nothing: the
octets are run together. Two signatures whose evidence is divided differently share a memo
(`RunTogether`).
-/

set_option autoImplicit false

namespace SignatureTrust

/-- A signature is the other one, or a counter-signature in it at any depth. -/
inductive Signature.Within : Signature → Signature → Prop
  | self (s : Signature) : Within s s
  | counter {t u s : Signature} {canonical : Octets}
      (there : .counterSignature u canonical ∈ s.unsigned) (within : Within t u) : Within t s

namespace Settings

/-! ## Without the memo -/

/-- The report on a signature without its counter-signatures, from a discovery of its own. -/
def afreshAlone (v : Settings) (date : Instant) (s : Signature) : Except ValidationError Report :=
  match refusal? s.toSignatureCore with
  | some e => .error e
  | none =>
      match s.signingCertificate? v.crypto with
      | none => .ok (v.report s date none none)
      | some signer =>
          match (Context.ofTarget (.certificate signer) date).discover (v.sources s) v.config with
          | .error e => .error (.discovery e)
          | .ok context => .ok (v.report s date (some signer) (some context))

mutual

/-- The report on a signature, with a discovery for it and one for every counter-signature in it. -/
def afresh (v : Settings) (date : Instant) : Signature → Except ValidationError Report
  | ⟨core, unsigned⟩ => do
      let report ← v.afreshAlone date ⟨core, unsigned⟩
      if v.config.validateCounterSignatures then
        let counters ← v.afreshCounters date unsigned
        return { report with counterSignatures := counters }
      else return report

def afreshCounters (v : Settings) (date : Instant) :
    List UnsignedProperty → Except ValidationError (List Report)
  | [] => .ok []
  | .counterSignature s _ :: rest => do
      let report ← v.afresh date s
      let reports ← v.afreshCounters date rest
      return report :: reports
  | _ :: rest => v.afreshCounters date rest

end

end Settings

/-! ## What has to be told apart -/

/-- Among some signatures, an equal digest means equal evidence. -/
structure Identified (known : Signature → Prop) : Prop where
  -- the encoding tells the object
  objects : ∀ {s s' : Signature} {a b : Token}, known s → known s' → a ∈ s.evidence →
    b ∈ s'.evidence → a.sameEncoding b = true → a = b
  -- the digest tells the octets
  digests : ∀ {s s' : Signature}, known s → known s' →
    s.evidenceDigest = s'.evidenceDigest → s.evidenceOctets = s'.evidenceOctets
  -- the octets tell the encodings
  framed : ∀ {s s' : Signature}, known s → known s' → s.evidenceOctets = s'.evidenceOctets →
    SameEncodings s.evidence s'.evidence

variable {known : Signature → Prop} {v : Settings} {date : Instant} {s s' : Signature}
  {memo : Option Memo}

theorem Identified.evidence_eq (hid : Identified known) (hs : known s) (hs' : known s')
    (h : s.evidenceDigest = s'.evidenceDigest) : s.evidence = s'.evidence :=
  (hid.framed hs hs' (hid.digests hs hs' h)).eq fun _ ha _ hb => hid.objects hs hs' ha hb

theorem Identified.signer_eq {crypto : Crypto} {x x' : Certificate} (hid : Identified known)
    (hs : known s) (hs' : known s') (hx : s.signingCertificate? crypto = some x)
    (hx' : s'.signingCertificate? crypto = some x') (h : x.sameEncoding x' = true) : x = x' :=
  Token.certificate.inj (hid.objects hs hs' (Signature.mem_evidence_of_signingCertificate? hx)
    (Signature.mem_evidence_of_signingCertificate? hx') h)

/-- Encodings that are delimited by themselves need no frame. -/
theorem Identified.of_delimited (hd : Delimited fun a => ∃ s, known s ∧ a ∈ s.evidence)
    (objects : ∀ {s s' : Signature} {a b : Token}, known s → known s' →
      a ∈ s.evidence → b ∈ s'.evidence → a.sameEncoding b = true → a = b)
    (digests : ∀ {s s' : Signature}, known s → known s' →
      s.evidenceDigest = s'.evidenceDigest → s.evidenceOctets = s'.evidenceOctets) :
    Identified known where
  objects := objects
  digests := digests
  framed {s s'} hs hs' h :=
    hd.sameEncodings (fun _ ha => ⟨s, hs, ha⟩) (fun _ hb => ⟨s', hs', hb⟩) h

/-! ## Sound memos -/

/-- The memo is what discovery makes for one of the signatures. -/
def Memo.Sound (v : Settings) (known : Signature → Prop) (m : Memo) : Prop :=
  ∃ s, known s ∧ s.signingCertificate? v.crypto = some m.certificate ∧
    m.evidenceDigest = s.evidenceDigest ∧
    (Context.ofTarget (.certificate m.certificate) m.date).discover
      (v.sources s) v.config = .ok m.context

/-- What is kept between two steps, if anything is, is sound. -/
abbrev SoundMemo (v : Settings) (known : Signature → Prop) (memo : Option Memo) : Prop :=
  ∀ m ∈ memo, m.Sound v known

theorem soundMemo_none : SoundMemo v known none := by
  intro m hm
  cases hm

namespace Settings

/-- A step with the memo says what was to be said, and leaves a sound memo. -/
structure Agrees {ε α : Type} (v : Settings) (known : Signature → Prop)
    (step : Except ε α × Option Memo) (expected : Except ε α) : Prop where
  outcome : step.1 = expected
  sound : SoundMemo v known step.2

/-- One step after another: the memo is passed on, and kept where the first step fails. -/
def andThen {ε α β : Type} (step : Except ε α × Option Memo)
    (next : α → Option Memo → Except ε β × Option Memo) :
    Except ε β × Option Memo :=
  match step with
  | (.error e, memo) => (.error e, memo)
  | (.ok a, memo) => next a memo

theorem Agrees.andThen {ε α β : Type} {step : Except ε α × Option Memo}
    {expected : Except ε α} {next : α → Option Memo → Except ε β × Option Memo}
    {expectedNext : α → Except ε β} (h : Agrees v known step expected)
    (hnext : ∀ (a : α) (memo : Option Memo), SoundMemo v known memo →
      Agrees v known (next a memo) (expectedNext a)) :
    Agrees v known (andThen step next) (expected >>= expectedNext) := by
  obtain ⟨rfl, hsound⟩ := h
  rcases step with ⟨_ | a, memo⟩
  · exact ⟨rfl, hsound⟩
  · exact hnext a memo hsound

/-- A memo that is used again was made for the same certificate from the same evidence. -/
theorem discover_of_isFor {m : Memo} {x : Certificate} (hid : Identified known) (hs : known s)
    (hx : s.signingCertificate? v.crypto = some x) (hm : m.Sound v known)
    (hfor : isFor m x date s.evidenceDigest = true) :
    (Context.ofTarget (.certificate x) date).discover (v.sources s) v.config = .ok m.context := by
  obtain ⟨s', hs', hx', hdigest, hdiscover⟩ := hm
  simp only [isFor, Bool.and_eq_true, decide_eq_true_eq, beq_iff_eq] at hfor
  obtain ⟨⟨hcertificate, hdate⟩, hdigest'⟩ := hfor
  have hsigner : m.certificate = x := hid.signer_eq hs' hs hx' hx hcertificate
  have hevidence : s'.evidence = s.evidence := hid.evidence_eq hs' hs (hdigest.symm.trans hdigest')
  rwa [hsigner, hdate, Signature.sources_congr v hevidence] at hdiscover

theorem signingContext_agrees {x : Certificate} (hid : Identified known) (date : Instant)
    (hs : known s) (hx : s.signingCertificate? v.crypto = some x) (hm : SoundMemo v known memo) :
    Agrees v known (v.signingContext s x date memo)
      ((Context.ofTarget (.certificate x) date).discover (v.sources s) v.config) := by
  unfold signingContext
  dsimp only
  cases hf : memo.filter fun m => isFor m x date s.evidenceDigest with
  | some m =>
      obtain ⟨hmemo, hfor⟩ := Option.filter_eq_some_iff.1 hf
      exact ⟨(discover_of_isFor hid hs hx (hm m hmemo) hfor).symm, hm⟩
  | none =>
      cases hd : (Context.ofTarget (.certificate x) date).discover (v.sources s) v.config with
      | error e => exact ⟨rfl, hm⟩
      | ok c =>
          refine ⟨rfl, ?_⟩
          intro m hnew
          obtain rfl := Option.some.inj hnew
          exact ⟨s, hs, hx, rfl, hd⟩

theorem validateAlone_agrees (hid : Identified known) (date : Instant) (hs : known s)
    (hm : SoundMemo v known memo) :
    Agrees v known (v.validateAlone date s memo) (v.afreshAlone date s) := by
  unfold validateAlone afreshAlone
  cases refusal? s.toSignatureCore with
  | some e => exact ⟨rfl, hm⟩
  | none =>
      cases hx : s.signingCertificate? v.crypto with
      | none => exact ⟨rfl, hm⟩
      | some x =>
          have hcontext := signingContext_agrees hid date hs hx hm
          have hsound := hcontext.sound
          dsimp only
          rw [← hcontext.outcome]
          revert hsound
          rcases v.signingContext s x date memo with ⟨_ | c, memo'⟩
          · exact fun hsound => ⟨rfl, hsound⟩
          · exact fun hsound => ⟨rfl, hsound⟩

theorem validate_eq_andThen {core : SignatureCore} {unsigned : List UnsignedProperty} :
    v.validate date ⟨core, unsigned⟩ memo =
      andThen (v.validateAlone date ⟨core, unsigned⟩ memo) fun report memo =>
        if v.config.validateCounterSignatures then
          andThen (v.validateCounters date unsigned memo) fun counters memo =>
            (.ok { report with counterSignatures := counters }, memo)
        else (.ok report, memo) := by
  rw [validate]
  rcases v.validateAlone date ⟨core, unsigned⟩ memo with ⟨_ | report, memo'⟩
  · rfl
  · dsimp only [andThen]
    rcases v.validateCounters date unsigned memo' with ⟨_ | counters, memo''⟩
    · rfl
    · rfl

theorem validateCounters_eq_andThen {canonical : Octets} {rest : List UnsignedProperty} :
    v.validateCounters date (.counterSignature s canonical :: rest) memo =
      andThen (v.validate date s memo) fun report memo =>
        andThen (v.validateCounters date rest memo) fun reports memo =>
            (.ok (report :: reports), memo) := by
  rw [validateCounters]
  rcases v.validate date s memo with ⟨_ | report, memo'⟩
  · rfl
  · dsimp only [andThen]
    rcases v.validateCounters date rest memo' with ⟨_ | reports, memo''⟩
    · rfl
    · rfl

-- Both at once, by recursion on the signature and the properties in it. What is carried through is
-- the memo: whatever a counter-signature left there is sound for the next one, and for the next
-- call.
mutual

/-- **A validation with a sound memo says what one without says, and leaves a sound memo.** -/
theorem validate_agrees (hid : Identified known) (date : Instant) :
    ∀ (s : Signature) (memo : Option Memo),
      (∀ t : Signature, t.Within s → known t) → SoundMemo v known memo →
      Agrees v known (v.validate date s memo) (v.afresh date s)
  | ⟨core, unsigned⟩, memo, hs, hm => by
      rw [validate_eq_andThen, afresh]
      refine (validateAlone_agrees hid date (hs _ (.self _)) hm).andThen fun report memo hm => ?_
      by_cases hc : v.config.validateCounterSignatures = true
      · rw [if_pos hc, if_pos hc]
        have hcounters := validateCounters_agrees hid date unsigned memo
          (fun _ _ there t within => hs t (.counter there within)) hm
        exact hcounters.andThen fun _ _ hm => ⟨rfl, hm⟩
      · rw [if_neg hc, if_neg hc]
        exact ⟨rfl, hm⟩

theorem validateCounters_agrees (hid : Identified known) (date : Instant) :
    ∀ (ps : List UnsignedProperty) (memo : Option Memo),
      (∀ (u : Signature) (canonical : Octets), .counterSignature u canonical ∈ ps →
        ∀ t : Signature, t.Within u → known t) →
      SoundMemo v known memo →
      Agrees v known (v.validateCounters date ps memo) (v.afreshCounters date ps)
  | [], memo, _, hm => ⟨rfl, hm⟩
  | p :: rest, memo, hs, hm => by
      have hrest : ∀ memo : Option Memo, SoundMemo v known memo →
          Agrees v known (v.validateCounters date rest memo) (v.afreshCounters date rest) :=
        fun memo hm => validateCounters_agrees hid date rest memo
          (fun u canonical there => hs u canonical (List.mem_cons_of_mem p there)) hm
      cases p with
      | counterSignature u canonical =>
          rw [validateCounters_eq_andThen, afreshCounters]
          have hu := validate_agrees hid date u memo (hs u canonical List.mem_cons_self) hm
          refine hu.andThen fun report memo hm => ?_
          exact (hrest memo hm).andThen fun _ _ hm => ⟨rfl, hm⟩
      | signatureTimestamp _ | certificateRefs _ | revocationRefs _ | sigAndRefsTimestamp _
          | refsOnlyTimestamp _
      | certificateValues _ | revocationValues _ | archiveTimestamp _ => exact hrest memo hm

end

end Settings

/-! ## Any number of calls -/

namespace Validator

/-- What a validator says to one call after the other. -/
def outcomes : Validator → List (Signature × Instant) → List (Except ValidationError Report)
  | _, [] => []
  | v, (s, date) :: calls => (v.validate s date).1 :: (v.validate s date).2.outcomes calls

/-- What a validator says that was not asked before. -/
def fresh (settings : Settings) (call : Signature × Instant) : Except ValidationError Report :=
  ((Validator.mk settings none).validate call.1 call.2).1

theorem outcomes_eq_afresh (hid : Identified known) (calls : List (Signature × Instant))
    (v : Validator) (hcalls : ∀ call ∈ calls, ∀ t : Signature, t.Within call.1 → known t)
    (hm : SoundMemo v.settings known v.memo) :
    v.outcomes calls = calls.map fun call => v.settings.afresh call.2 call.1 := by
  induction calls generalizing v with
  | nil => rfl
  | cons call calls ih =>
      obtain ⟨hcall, hcalls⟩ := List.forall_mem_cons.1 hcalls
      have hstep := Settings.validate_agrees hid call.2 call.1 v.memo hcall hm
      rw [outcomes, ih (v.validate call.1 call.2).2 hcalls hstep.sound, List.map_cons]
      exact congrArg (· :: _) hstep.outcome

/-- **The memo does not show.** Over any number of calls, with any signatures at any dates, a
validator says to each what a fresh one says, and that is what one without a memo says; if among all
these signatures an equal digest means equal evidence. -/
theorem outcomes_eq_fresh (settings : Settings) (calls : List (Signature × Instant))
    (hid : Identified fun t => ∃ call ∈ calls, t.Within call.1) :
    (Validator.mk settings none).outcomes calls = calls.map (fresh settings) ∧
      ∀ call ∈ calls, fresh settings call = settings.afresh call.2 call.1 := by
  have hfresh : ∀ call ∈ calls, fresh settings call = settings.afresh call.2 call.1 :=
    fun call hcall =>
    (Settings.validate_agrees hid call.2 call.1 none
      (fun _ within => ⟨call, hcall, within⟩) soundMemo_none).outcome
  have hall := outcomes_eq_afresh hid calls (Validator.mk settings none) (fun call hcall _ within =>
      ⟨call, hcall, within⟩) soundMemo_none
  exact ⟨hall.trans (List.map_congr_left fun call hcall => (hfresh call hcall).symm), hfresh⟩

end Validator

namespace Specimen

/-- What a report says of the chain. -/
def chainIsValid (outcome : Except ValidationError Report) : Option Bool :=
  outcome.toOption.map (·.chain.isValid)

/-- The root is trusted, and nothing can be had outside. -/
def offline : Settings where
  crypto := crypto
  trustedList := .ofEntries .trustedList [.plain root .trustedList]

/-- A signature of the leaf's holder, with what it brings. -/
def signatureWith (certificates : List Certificate) (crls : List Crl) (counters : List Signature) :
    Signature where
  id := none
  signedInfo := ⟨none, "", []⟩
  references := []
  value := ⟨none, [1], []⟩
  keyInfo := none
  signedProperties :=
    some ⟨none, none, [⟨⟨DigestAlgorithm.sha256.uri, leaf.encoding⟩, leaf.issuer, ""⟩],
      none, none, [], [], [], []⟩
  unsignedId := none
  unsigned := .certificateValues ⟨none, certificates, []⟩ ::
    .revocationValues ⟨none, crls, [], []⟩ :: counters.map fun t => .counterSignature t []

/-- The root's list, with an encoding of its own. -/
def ownList : Crl := { list with encoding := [7] }

def bare : Signature := signatureWith [leaf, root] [] []

def counter : Signature := signatureWith [leaf, root] [ownList] []

def countersigned : Signature := signatureWith [leaf, root] [ownList] [counter]

def calls : List (Signature × Instant) :=
  [(countersigned, ⟨5⟩), (bare, ⟨5⟩), (countersigned, ⟨5⟩)]

theorem within_signatureWith {certificates : List Certificate}
    {crls : List Crl} {counters : List Signature} {t : Signature}
    (h : t.Within (signatureWith certificates crls counters)) :
    t = signatureWith certificates crls counters ∨ ∃ u ∈ counters, t.Within u := by
  cases h with
  | self => exact .inl rfl
  | counter there within =>
      rename_i u canonical
      have hu : u ∈ counters ∧ canonical = [] := by simpa [signatureWith] using there
      exact .inr ⟨u, hu.1, within⟩

def brought : List Token := [.certificate leaf, .certificate root, .crl ownList]

/-- All signatures bring the leaf and the root, and all but one the list. -/
theorem evidence_of_calls {t : Signature} (h : ∃ call ∈ calls, t.Within call.1) :
    t.evidence = brought ∨ t.evidence = brought.dropLast := by
  obtain ⟨call, hcall, within⟩ := h
  have hsignature : call.1 = countersigned ∨ call.1 = bare := by
    simp only [calls, List.mem_cons, List.not_mem_nil, or_false] at hcall
    rcases hcall with rfl | rfl | rfl <;> simp
  rcases hsignature with hs | hs
  · rw [hs] at within
    rcases within_signatureWith within with rfl | ⟨u, hu, within⟩
    · exact .inl rfl
    · obtain rfl := List.mem_singleton.1 hu
      rcases within_signatureWith within with rfl | ⟨_, hnone, -⟩
      · exact .inl rfl
      · cases hnone
  · rw [hs] at within
    rcases within_signatureWith within with rfl | ⟨_, hnone, -⟩
    · exact .inr rfl
    · cases hnone

theorem mem_evidence_of_calls {t : Signature} {a : Token} (h : ∃ call ∈ calls, t.Within call.1)
    (ha : a ∈ t.evidence) :
    a ∈ brought := by
  rcases evidence_of_calls h with he | he
  · rwa [he] at ha
  · rw [he] at ha
    exact List.dropLast_subset brought ha

theorem identified_calls : Identified fun t => ∃ call ∈ calls, t.Within call.1 := by
  have hobjects : ∀ a ∈ brought, ∀ b ∈ brought, a.sameEncoding b = true →
      a = b := by decide
  have hapart : ∀ a ∈ brought, ∀ b ∈ brought, a.encoding <+: b.encoding →
      a.sameEncoding b = true := by decide
  have hnonempty : ∀ a ∈ brought, a.encoding ≠ [] := by decide
  apply Identified.of_delimited
  · constructor
    · rintro a ⟨s, hs, ha⟩
      exact hnonempty a (mem_evidence_of_calls hs ha)
    · rintro a b ⟨s, hs, ha⟩ ⟨s', hs', hb⟩
      exact hapart a (mem_evidence_of_calls hs ha) b (mem_evidence_of_calls hs' hb)
  · intro s s' a b hs hs' ha hb
    exact hobjects a (mem_evidence_of_calls hs ha) b (mem_evidence_of_calls hs' hb)
  · intro s s' hs hs' hdigest
    rw [Signature.evidenceDigest_eq, Signature.evidenceDigest_eq] at hdigest
    unfold Signature.evidenceOctets at hdigest ⊢
    have hcollision : DigestAlgorithm.sha256.digest (brought.flatMap Token.encoding) ≠
        DigestAlgorithm.sha256.digest (brought.dropLast.flatMap Token.encoding) := by decide +kernel
    rcases evidence_of_calls hs with he | he <;> rcases evidence_of_calls hs' with he' | he' <;>
      rw [he, he'] at hdigest ⊢
    · exact absurd hdigest hcollision
    · exact absurd hdigest.symm hcollision

/-- A countersigned signature, one without the list, and the first one again: each is told what it
would be told alone. -/
theorem calls_fresh : (Identified fun t => ∃ call ∈ calls, t.Within call.1) ∧
    (Validator.mk offline none).outcomes calls = calls.map (Validator.fresh offline) ∧
    (calls.map (Validator.fresh offline)).map chainIsValid = [some true, some false, some true] :=
  ⟨identified_calls, (Validator.outcomes_eq_fresh offline calls identified_calls).1,
    by decide +kernel⟩

end Specimen

namespace RunTogether

open Specimen Validator

/-- The root's certificate, with the octets of the list after its own. -/
def root : Certificate := { Specimen.root with encoding := [0, 7] }

/-- It brings a list that says that the leaf is not revoked. -/
def withList : Signature := signatureWith [leaf, Specimen.root] [ownList] []

/-- It brings no list. -/
def withoutList : Signature := signatureWith [leaf, root] [] []

/-- **After the signature with the list, the one without has a valid chain**, which it has not by
itself. The octets of their evidence are the same ones. -/
theorem withoutList_valid_after_withList :
    (∀ a ∈ withList.evidence ++ withoutList.evidence,
      ∀ b ∈ withList.evidence ++ withoutList.evidence,
      a.sameEncoding b = true → a = b) ∧
    withList.evidenceOctets = withoutList.evidenceOctets ∧
    ((Validator.mk offline none).outcomes
        [(withList, ⟨5⟩), (withoutList, ⟨5⟩)]).map chainIsValid = [some true, some true] ∧
    ([(withList, ⟨5⟩), (withoutList, ⟨5⟩)].map (fresh offline)).map chainIsValid =
      [some true, some false] := by
  refine ⟨by decide +kernel, by decide +kernel, ?_, ?_⟩
  · decide +kernel
  · decide +kernel

end RunTogether
end SignatureTrust
