import SignatureTrust.Proofs.Validator.Memo

/-!
# `Proofs.Validator.ReportTree` — what is refused, and what tree of reports there is otherwise

A signature without signed properties or without a value leaves nothing to validate, and a
validation that meets one gives no report at all. Discovery gives no reason to refuse, whatever the
sources say and whatever context is used again. So

> a validation visits signatures in document order, each before those in it, and **refuses the first
> that is incomplete**; if none is, the reports stand as the signatures do (`Examined`).

Which signatures are visited depends on whether counter-signatures are followed
(`Settings.visited`). Nothing else does: the report on a signature is made before those in it are
looked at.
-/

set_option autoImplicit false

namespace SignatureTrust

/-! ## The signatures in a signature -/

mutual

/-- The signature and all those in it, at any depth, each before those in it. -/
def Signature.preorder : Signature → List Signature
  | ⟨core, unsigned⟩ => ⟨core, unsigned⟩ :: Signature.preorderIn unsigned

def Signature.preorderIn : List UnsignedProperty → List Signature
  | [] => []
  | .counterSignature s _ :: rest => s.preorder ++ Signature.preorderIn rest
  | _ :: rest => Signature.preorderIn rest

end

mutual

theorem Signature.mem_preorder : ∀ (s t : Signature), t ∈ s.preorder ↔ t.Within s
  | ⟨core, unsigned⟩, t => by
      rw [Signature.preorder, List.mem_cons, Signature.mem_preorderIn]
      constructor
      · rintro (rfl | ⟨u, canonical, there, within⟩)
        · exact .self _
        · exact .counter there within
      · intro h
        cases h with
        | self => exact .inl rfl
        | counter there within => exact .inr ⟨_, _, there, within⟩

theorem Signature.mem_preorderIn : ∀ (ps : List UnsignedProperty) (t : Signature),
    t ∈ Signature.preorderIn ps ↔ ∃ u canonical, .counterSignature u canonical ∈ ps ∧
      t.Within u
  | [], t => by simp [Signature.preorderIn]
  | p :: rest, t => by
      have hrest := Signature.mem_preorderIn rest t
      cases p with
      | counterSignature u canonical =>
          rw [Signature.preorderIn, List.mem_append, Signature.mem_preorder, hrest]
          constructor
          · rintro (within | ⟨u', canonical', there, within⟩)
            · exact ⟨u, canonical, List.mem_cons_self, within⟩
            · exact ⟨u', canonical', List.mem_cons_of_mem _ there, within⟩
          · rintro ⟨u', canonical', there, within⟩
            rcases List.mem_cons.1 there with heq | there
            · obtain ⟨rfl, rfl⟩ := UnsignedProperty.counterSignature.inj heq
              exact .inl within
            · exact .inr ⟨u', canonical', there, within⟩
      | signatureTimestamp _ | certificateRefs _ | revocationRefs _ | sigAndRefsTimestamp _
          | refsOnlyTimestamp _
      | certificateValues _ | revocationValues _ | archiveTimestamp _ =>
          change t ∈ Signature.preorderIn rest ↔ _
          rw [hrest]
          simp

end

/-! ## Refusals -/

/-- There is nothing to validate. -/
def Signature.Incomplete (s : Signature) : Prop := s.signedProperties = none ∨ s.value.value = []

/-- The error says of the signature what it lacks. -/
structure ValidationError.Names (e : ValidationError) (s : Signature) : Prop where
  kind : e = if s.signedProperties = none then .noSignedProperties s.id
    else .emptySignatureValue s.id
  message : e.message = "Structural error: signature " ++ s.id.getD "<no id>" ++
    if s.signedProperties = none then " has no SignedProperties" else " has an empty SignatureValue"

theorem ValidationError.message_noSignedProperties (id : Option String) :
    message (.noSignedProperties id) =
      "Structural error: signature " ++ id.getD "<no id>" ++ " has no SignedProperties" := by
  cases id <;> rfl

theorem ValidationError.message_emptySignatureValue (id : Option String) :
    message (.emptySignatureValue id) =
      "Structural error: signature " ++ id.getD "<no id>" ++ " has an empty SignatureValue" := by
  cases id <;> rfl

/-- The reports stand as the signatures do, and say whose they are. -/
inductive Report.Mirrors : Report → Signature → Prop
  | mk {r : Report} {s : Signature} (id : r.signatureId = s.id)
      (counters : List.Forall₂ Report.Mirrors r.counterSignatures s.counterSignatures) :
      Report.Mirrors r s

theorem Report.eq_of_alone {r : Report} (h : r.counterSignatures = []) :
    { r with counterSignatures := [] } = r := by
  cases r
  cases h
  rfl

variable {v : Settings} {date : Instant} {s : Signature} {memo : Option Memo}

namespace Settings

theorem refusal?_eq_none_iff : refusal? s.toSignatureCore = none ↔ ¬ s.Incomplete := by
  unfold refusal? Signature.Incomplete
  cases s.signedProperties with
  | none => simp
  | some p => cases s.value.value <;> simp

theorem names_of_refusal? {e : ValidationError} (h : refusal? s.toSignatureCore = some e) :
    e.Names s := by
  unfold refusal? at h
  split at h
  next hp =>
    obtain rfl := Option.some.inj h
    rw [Option.isNone_iff_eq_none] at hp
    exact ⟨by rw [if_pos hp], by rw [if_pos hp, ValidationError.message_noSignedProperties]⟩
  next hp =>
    rw [Option.isNone_iff_eq_none] at hp
    split at h
    next hv =>
      obtain rfl := Option.some.inj h
      exact ⟨by rw [if_neg hp], by rw [if_neg hp, ValidationError.message_emptySignatureValue]⟩
    next hv => cases h

/-! ## Visiting signatures -/

/-- A step that visits some signatures: it refuses the first that is incomplete, and otherwise gives
something good. -/
inductive Examined {α : Type} (visited : List Signature) (good : α → Prop) :
    Except ValidationError α → Prop
  | refused {before after : List Signature} {t : Signature} {e : ValidationError}
      (split : visited = before ++ t :: after) (complete : ∀ u ∈ before, ¬ u.Incomplete)
      (incomplete : t.Incomplete) (names : e.Names t) :
      Examined visited good (.error e)
  | passed {a : α} (complete : ∀ u ∈ visited, ¬ u.Incomplete) (holds : good a) :
      Examined visited good (.ok a)

namespace Examined

variable {α β : Type} {xs ys : List Signature} {good : α → Prop} {good' : β → Prop}

theorem mono {good' : α → Prop} {outcome : Except ValidationError α}
    (h : Examined xs good outcome) (himp : ∀ a, good a → good' a) :
    Examined xs good' outcome := by
  cases h with
  | refused split complete incomplete names => exact .refused split complete incomplete names
  | passed complete hgood => exact .passed complete (himp _ hgood)

/-- One step after another visits what the first visits and then what the second does. -/
theorem andThen {step : Except ValidationError α × Option Memo}
    {next : α → Option Memo → Except ValidationError β × Option Memo}
    (h : Examined xs good step.1)
    (hnext : ∀ (a : α) (memo : Option Memo), good a → Examined ys good' (next a memo).1) :
    Examined (xs ++ ys) good' (Settings.andThen step next).1 := by
  obtain ⟨outcome, memo⟩ := step
  cases h with
  | @refused before after t e split complete incomplete names =>
      have hsplit : xs ++ ys = before ++ t :: (after ++ ys) := by
        rw [split, List.append_assoc, List.cons_append]
      exact .refused hsplit complete incomplete names
  | @passed a complete hgood =>
      change Examined (xs ++ ys) good' (next a memo).1
      have hthen := hnext a memo hgood
      generalize (next a memo).1 = outcome at hthen
      cases hthen with
      | @refused before after t e split complete' incomplete names =>
          have hsplit : xs ++ ys = (xs ++ before) ++ t :: after := by rw [split, List.append_assoc]
          exact .refused hsplit
            (List.forall_mem_append.2 ⟨complete, complete'⟩) incomplete names
      | passed complete' hgood' =>
          exact .passed (List.forall_mem_append.2 ⟨complete, complete'⟩) hgood'

theorem exists_error_iff {outcome : Except ValidationError α} (h : Examined xs good outcome) :
    (∃ e, outcome = .error e) ↔ ∃ t ∈ xs, t.Incomplete := by
  cases h with
  | @refused before after t e split complete incomplete names =>
      exact iff_of_true ⟨e, rfl⟩ ⟨t, by simp [split], incomplete⟩
  | passed complete hgood =>
      refine iff_of_false ?_ ?_
      · rintro ⟨e, ⟨⟩⟩
      · rintro ⟨t, ht, incomplete⟩
        exact complete t ht incomplete

theorem first_of_error {outcome : Except ValidationError α} {e : ValidationError}
    (h : Examined xs good outcome) (he : outcome = .error e) :
    ∃ before t after, xs = before ++ t :: after ∧ (∀ u ∈ before, ¬ u.Incomplete) ∧
      t.Incomplete ∧ e.Names t := by
  subst he
  cases h with
  | refused split complete incomplete names =>
      exact ⟨_, _, _, split, complete, incomplete, names⟩

theorem good_of_ok {outcome : Except ValidationError α} {a : α} (h : Examined xs good outcome)
    (ha : outcome = .ok a) :
    good a := by
  subst ha
  cases h with
  | passed _ hgood => exact hgood

end Examined

/-! ## One signature alone -/

/-- A context used again is there already, and discovery never fails. -/
theorem exists_signingContext (v : Settings) (s : Signature) (x : Certificate) (date : Instant)
    (memo : Option Memo) :
    ∃ c memo', v.signingContext s x date memo = (.ok c, memo') := by
  unfold signingContext
  dsimp only
  cases memo.filter fun m => isFor m x date s.evidenceDigest with
  | some m => exact ⟨m.context, memo, rfl⟩
  | none =>
      obtain ⟨c, hd, -⟩ :=
        Context.reaches_of_discover (v.sources s) v.config (.ofTarget (.certificate x) date)
      exact ⟨c, some ⟨x, date, s.evidenceDigest, c⟩, by rw [hd]⟩

/-- A report on the signature alone: without reports on those in it. -/
abbrev IsAlone (s : Signature) (r : Report) : Prop :=
  r.signatureId = s.id ∧ r.counterSignatures = []

theorem validateAlone_examined (v : Settings) (date : Instant) (s : Signature)
    (memo : Option Memo) :
    Examined [s] (IsAlone s) (v.validateAlone date s memo).1 := by
  unfold validateAlone
  cases hr : refusal? s.toSignatureCore with
  | some e =>
      have hincomplete : s.Incomplete := by
        by_contra hcomplete
        rw [refusal?_eq_none_iff.2 hcomplete] at hr
        cases hr
      have hfirst : [s] = [] ++ s :: [] := rfl
      exact .refused hfirst (List.forall_mem_nil _) hincomplete (names_of_refusal? hr)
  | none =>
      have hcomplete : ∀ u ∈ [s], ¬ u.Incomplete :=
        List.forall_mem_singleton.2 (refusal?_eq_none_iff.1 hr)
      cases s.signingCertificate? v.crypto with
      | none => exact .passed hcomplete ⟨rfl, rfl⟩
      | some x =>
          obtain ⟨c, memo', hc⟩ := exists_signingContext v s x date memo
          dsimp only
          rw [hc]
          exact .passed hcomplete ⟨rfl, rfl⟩

/-! ## A signature with those in it -/

-- Both at once, by recursion on the signature and the properties in it. What is kept between two
-- steps is of no concern: the statements are about any.
mutual

theorem validate_examined (hc : v.config.validateCounterSignatures = true) (date : Instant) :
    ∀ (s : Signature) (memo : Option Memo),
      Examined s.preorder (fun r => r.Mirrors s) (v.validate date s memo).1
  | ⟨core, unsigned⟩, memo => by
      rw [validate_eq_andThen, Signature.preorder, ← List.singleton_append]
      refine (validateAlone_examined v date ⟨core, unsigned⟩ memo).andThen
        fun report memo halone => ?_
      rw [if_pos hc, ← List.append_nil (Signature.preorderIn unsigned)]
      refine (validateCounters_examined hc date unsigned memo).andThen
        fun counters memo hcounters => ?_
      exact .passed (List.forall_mem_nil _) (.mk halone.1 hcounters)

theorem validateCounters_examined (hc : v.config.validateCounterSignatures = true)
    (date : Instant) :
    ∀ (ps : List UnsignedProperty) (memo : Option Memo),
      Examined (Signature.preorderIn ps)
        (fun rs => List.Forall₂ Report.Mirrors rs
          (ps.filterMap UnsignedProperty.counterSignature?))
        (v.validateCounters date ps memo).1
  | [], memo => .passed (List.forall_mem_nil _) .nil
  | p :: rest, memo => by
      have hrest := fun memo => validateCounters_examined hc date rest memo
      cases p with
      | counterSignature u canonical =>
          rw [validateCounters_eq_andThen, Signature.preorderIn]
          refine (validate_examined hc date u memo).andThen fun report memo hreport => ?_
          rw [← List.append_nil (Signature.preorderIn rest)]
          refine (hrest memo).andThen fun reports memo hreports => ?_
          exact .passed (List.forall_mem_nil _) (.cons hreport hreports)
      | signatureTimestamp _ | certificateRefs _ | revocationRefs _ | sigAndRefsTimestamp _
          | refsOnlyTimestamp _
      | certificateValues _ | revocationValues _ | archiveTimestamp _ => exact hrest memo

end

theorem validate_eq_validateAlone (hc : v.config.validateCounterSignatures = false)
    (date : Instant) (s : Signature) (memo : Option Memo) :
    v.validate date s memo = v.validateAlone date s memo := by
  obtain ⟨core, unsigned⟩ := s
  rw [validate_eq_andThen, hc]
  rcases v.validateAlone date ⟨core, unsigned⟩ memo with ⟨_ | report, memo'⟩ <;> rfl

/-- The signatures that a validation looks at, in the order in which it does. -/
def visited (v : Settings) (s : Signature) : List Signature :=
  if v.config.validateCounterSignatures then s.preorder else [s]

/-- What a report says of the counter-signatures. -/
def Follows (v : Settings) (s : Signature) (r : Report) : Prop :=
  if v.config.validateCounterSignatures then r.Mirrors s else r.counterSignatures = []

theorem validate_examined_visited (v : Settings) (date : Instant) (s : Signature)
    (memo : Option Memo) :
    Examined (v.visited s) (v.Follows s) (v.validate date s memo).1 := by
  unfold visited Follows
  cases hc : v.config.validateCounterSignatures with
  | true => exact validate_examined hc date s memo
  | false =>
      rw [validate_eq_validateAlone hc]
      exact (validateAlone_examined v date s memo).mono fun _ halone => halone.2

theorem ok_of_andThen {ε α β : Type}
    {step : Except ε α × Option Memo} {next : α → Option Memo → Except ε β × Option Memo}
    {b : β} (h : (andThen step next).1 = .ok b) :
    ∃ a memo, step = (.ok a, memo) ∧ (next a memo).1 = .ok b := by
  obtain ⟨_ | a, memo⟩ := step
  · cases h
  · exact ⟨a, memo, rfl, h⟩

/-- A report with those on the counter-signatures left out is the one on the signature alone. -/
theorem validateAlone_of_validate {r : Report} (h : (v.validate date s memo).1 = .ok r) :
    (v.validateAlone date s memo).1 = .ok { r with counterSignatures := [] } := by
  obtain ⟨core, unsigned⟩ := s
  have hexamined := validateAlone_examined v date ⟨core, unsigned⟩ memo
  rw [validate_eq_andThen] at h
  obtain ⟨report, memo', hstep, h⟩ := ok_of_andThen h
  rw [hstep] at hexamined ⊢
  have halone : { report with counterSignatures := [] } = report :=
    Report.eq_of_alone (hexamined.good_of_ok rfl).2
  by_cases hc : v.config.validateCounterSignatures = true
  · rw [if_pos hc] at h
    obtain ⟨counters, memo'', -, h⟩ := ok_of_andThen h
    obtain rfl := Except.ok.inj h
    exact congrArg Except.ok halone.symm
  · rw [if_neg hc] at h
    obtain rfl := Except.ok.inj h
    exact congrArg Except.ok halone.symm

theorem validateAlone_none (v : Settings) (date : Instant) (s : Signature) :
    (v.validateAlone date s none).1 = v.afreshAlone date s := by
  unfold validateAlone afreshAlone
  cases refusal? s.toSignatureCore with
  | some e => rfl
  | none =>
      cases s.signingCertificate? v.crypto with
      | none => rfl
      | some x =>
          unfold signingContext
          dsimp only [Option.filter_none]
          cases (Context.ofTarget (.certificate x) date).discover (v.sources s) v.config with
          | error e => rfl
          | ok c => rfl

end Settings

/-! ## The setting -/

/-- The same configuration, with counter-signatures followed or not. -/
def Config.following (config : Config) (counters : Bool) : Config :=
  { config with validateCounterSignatures := counters }

section Following

variable {config : Config} (counters : Bool)

theorem Context.discoverWithin_following (sources : Sources) (more : Nat) (c : Context) :
    c.discoverWithin sources (config.following counters) more =
      c.discoverWithin sources config more := by
  induction more generalizing c with
  | zero => rfl
  | succ more ih =>
      have hpass : c.pass sources (config.following counters) = c.pass sources config := rfl
      rw [discoverWithin, discoverWithin, hpass]
      simp only [ih]

theorem Context.discover_following (sources : Sources) (c : Context) :
    c.discover sources (config.following counters) = c.discover sources config :=
  c.discoverWithin_following counters sources _

theorem TimestampVerifier.verify_following (crypto : Crypto) (date : Instant) (sources : Sources) :
    (TimestampVerifier.mk crypto date (some (sources, config.following counters))).verify =
      (TimestampVerifier.mk crypto date (some (sources, config))).verify := by
  have hcheck : checkSigner? date sources (config.following counters) =
      checkSigner? date sources config := by
    funext name t
    unfold checkSigner?
    rw [Context.discover_following]
  funext label t covered
  unfold verify
  dsimp only [Option.bind_some]
  rw [hcheck]

theorem Settings.timestamps_following (v : Settings) (s : Signature) (date : Instant) :
    (Settings.timestamps { v with config := v.config.following counters } s date).verify =
      (v.timestamps s date).verify := by
  change (TimestampVerifier.mk v.crypto date (if v.config.verifyTimestampSigners
    then some (v.sources s, v.config.following counters) else none)).verify = _
  unfold Settings.timestamps
  cases v.config.verifyTimestampSigners with
  | true => exact TimestampVerifier.verify_following counters v.crypto date (v.sources s)
  | false => rfl

/-- The levels ask of the timestamps only what they are worth. -/
theorem Assessment.verdicts_congr (s : Signature) (context : Option Context) (crypto : Crypto)
    {w w' : TimestampVerifier} (h : w.verify = w'.verify) :
    (Assessment.mk s context crypto w).verdicts = (Assessment.mk s context crypto w').verdicts := by
  have ht : (Assessment.mk s context crypto w).t = (Assessment.mk s context crypto w').t := by
    unfold t
    rw [h]
  have hx : (Assessment.mk s context crypto w).x = (Assessment.mk s context crypto w').x := by
    unfold x
    rw [h]
  have harchive : (Assessment.mk s context crypto w).archive =
      (Assessment.mk s context crypto w').archive := by
    unfold archive
    rw [h]
  unfold verdicts
  rw [ht, hx, harchive]
  rfl

theorem Settings.report_following (v : Settings) (s : Signature) (date : Instant)
    (signer : Option Certificate) (context : Option Context) :
    Settings.report { v with config := v.config.following counters } s date signer context =
      v.report s date signer context := by
  have hlevels :=
    Assessment.verdicts_congr s context v.crypto (v.timestamps_following counters s date)
  unfold Settings.report
  dsimp only
  rw [hlevels]
  rfl

theorem Settings.afreshAlone_following (v : Settings) (date : Instant) (s : Signature) :
    Settings.afreshAlone { v with config := v.config.following counters } date s =
      v.afreshAlone date s := by
  have hdiscover : ∀ x : Certificate, (Context.ofTarget (.certificate x) date).discover
      (Settings.sources { v with config := v.config.following counters } s)
      (v.config.following counters) =
      (Context.ofTarget (.certificate x) date).discover (v.sources s) v.config := fun x =>
    Context.discover_following counters (v.sources s) (.ofTarget (.certificate x) date)
  unfold afreshAlone
  simp only [report_following, hdiscover]

end Following

/-! ## Validators -/

namespace Validator

/-- **What a validation refuses, and what it gives otherwise.** It gives no report just if the
signature is incomplete or, with counter-signatures followed, one in it is, at any depth; the error
then names the first of these. A report that it gives stands over the reports on the
counter-signatures as the signature does over these, or over none if they are not followed. And
without a memo, following them changes nothing else in it. -/
theorem validate_refuses_or_mirrors (v : Validator) (s : Signature) (date : Instant) :
    -- when there is an error
    ((∃ e, (v.validate s date).1 = .error e) ↔
      s.Incomplete ∨ v.settings.config.validateCounterSignatures = true ∧
        ∃ t : Signature, t.Within s ∧ t.Incomplete) ∧
    -- which error it is
    (∀ e, (v.validate s date).1 = .error e →
      ∃ before t after, v.settings.visited s = before ++ t :: after ∧
        (∀ u ∈ before, ¬ u.Incomplete) ∧ t.Incomplete ∧
        e.Names t) ∧
    -- what the report stands over
    (∀ r, (v.validate s date).1 = .ok r →
      if v.settings.config.validateCounterSignatures then r.Mirrors s
        else r.counterSignatures = []) ∧
    -- and what else is in it
    (v.memo = none → ∀ r r',
      ((v.withConfig (v.settings.config.following true)).validate s date).1 = .ok r →
      ((v.withConfig (v.settings.config.following false)).validate s date).1 = .ok r' →
      r' = { r with counterSignatures := [] }) := by
  have hexamined := Settings.validate_examined_visited v.settings date s v.memo
  refine ⟨?_, fun e he => hexamined.first_of_error he, fun r hr => hexamined.good_of_ok hr, ?_⟩
  · refine hexamined.exists_error_iff.trans ?_
    unfold Settings.visited
    by_cases hc : v.settings.config.validateCounterSignatures = true
    · rw [if_pos hc]
      constructor
      · rintro ⟨t, ht, incomplete⟩
        exact .inr ⟨hc, t, (Signature.mem_preorder s t).1 ht, incomplete⟩
      · rintro (incomplete | ⟨-, t, within, incomplete⟩)
        · exact ⟨s, (Signature.mem_preorder s s).2 (.self s), incomplete⟩
        · exact ⟨t, (Signature.mem_preorder s t).2 within, incomplete⟩
    · rw [if_neg hc]
      simp [hc]
  · intro hmemo r r' hr hr'
    have halone : ∀ (counters : Bool) (r : Report),
        ((v.withConfig (v.settings.config.following counters)).validate s date).1 = .ok r →
        v.settings.afreshAlone date s = .ok { r with counterSignatures := [] } := by
      intro counters r hr
      have h := Settings.validateAlone_of_validate hr
      change (Settings.validateAlone _ date s v.memo).1 = _ at h
      rw [hmemo, Settings.validateAlone_none] at h
      exact (Settings.afreshAlone_following counters v.settings date s).symm.trans h
    have hoff : r'.counterSignatures = [] :=
      (Settings.validate_examined_visited _ date s v.memo).good_of_ok hr'
    calc r' = { r' with counterSignatures := [] } := (Report.eq_of_alone hoff).symm
      _ = { r with counterSignatures := [] } :=
        Except.ok.inj ((halone false r' hr').symm.trans (halone true r hr))

end Validator

namespace Specimen

/-- A signature that is complete, over one without a value. -/
def overEmpty : Signature :=
  signatureWith [leaf, root] [] [{ bare with id := some "inner", value := ⟨none, [], []⟩ }]

-- The error names the counter-signature, and there is none where it is not followed.
example :
    (match ((Validator.mk offline none).validate overEmpty ⟨5⟩).1 with
      | .error e => some e
      | .ok _ => none) = some (.emptySignatureValue (some "inner")) ∧
    (((Validator.mk offline none).withConfig (offline.config.following false)).validate overEmpty
        ⟨5⟩).1.isOk = true := by
  decide +kernel

end Specimen
end SignatureTrust
