import SignatureTrust.Proofs.Discovery.InStep
import SignatureTrust.Proofs.Discovery.Passes
import SignatureTrust.Proofs.Discovery.WellResolved

/-!
# `Proofs.Discovery.Collected` — discovery collects nothing that it does not need

Levels C and XL ask a signature for everything that a context has gathered, so whatever is gathered
needlessly makes a good signature incomplete. Of a context that discovery alone has filled, each
token but the target is there because a resolution needs it:

> **Every token but the target is named by the resolution of a token before it**, as issuer or as
> evidence (`discovery_collects_named`).

From token to token this leads back to the target (`Linked`). A certificate that nothing has to be
looked up for names nobody; so the certificate that issued it is there only if somebody else needs
it, or if it is the target.

Change by change this is not so: an issuer and a piece of evidence are there before the resolution
that names them. It is so whenever a token has been visited, and the induction is over visits.
-/

set_option autoImplicit false

namespace SignatureTrust.Context

variable {sources : Sources} {config : Config} {c c' : Context} {h i : Handle} {s a : Slot}
  {t : Token} {r : Resolution}

/-- The resolution at a handle names another handle, as that of the issuer or of the evidence. -/
def Names (c : Context) (i h : Handle) : Prop :=
  ∃ r, c.resolutionAt? i = some r ∧ (r.issuer? = some h ∨ r.evidence? = some h)

/-- Resolutions lead from the target to a handle. -/
def Linked (c : Context) (h : Handle) : Prop := Relation.ReflTransGen c.Names target h

/-- Every token but the target is named by one before it. -/
def NamedBefore (c : Context) : Prop :=
  ∀ {h : Handle} {s : Slot}, c.slot? h = some s → h ≠ target → ∃ i, i.index < h.index ∧
    c.Names i h

/-- What a context holds beside the target is there because it is named. -/
structure Collected (c : Context) : Prop where
  named : c.NamedBefore
  needed : ∀ t ∈ c.neededTokens, ∃ h, c.token? h = some t ∧ c.Linked h
  -- somebody else than the exempt certificate that it issued names a certificate
  aboveExempt : ∀ {i h : Handle} {s : Slot} {e : Entry}, c.slot? i = some s → s.IsExempt →
    c.entryAt? h = some e → s.token.namesSigner e.certificate = true → h ≠ target →
    ∃ j, j ≠ i ∧ c.Names j h

theorem Names.mono (hn : c.Names i h) (hg : Grows c c') : c'.Names i h := by
  obtain ⟨r, hr, hnames⟩ := hn
  exact ⟨r, hg.resolutionAt? hr, hnames⟩

theorem lt_of_slot? (hs : c.slot? h = some s) (hn : c.slot? i = none) : h.index < i.index := by
  obtain ⟨hin, -⟩ := List.getElem?_eq_some_iff.1 hs
  exact Nat.lt_of_lt_of_le hin (List.getElem?_eq_none_iff.1 hn)

/-! ## What a token's visit adds, its resolution names -/

theorem exists_slot?_of_record (hr : c.record h r = .ok c') (ha : c'.slot? i = some a) :
    ∃ b, c.slot? i = some b := by
  obtain ⟨s, hs, -, rfl⟩ := record_eq_ok_iff.1 hr
  by_cases he : i = h
  · exact ⟨s, he ▸ hs⟩
  · exact ⟨a, by rw [← ha, slot?_settled_of_ne he]⟩

/-- The one slot that an insertion may add is at the handle that it gives. -/
theorem exists_slot?_of_insert {p : Provenance} {v : Option Service}
    (ha : (c.insert t p v).2.slot? i = some a) :
    (∃ b, c.slot? i = some b) ∨ i = (c.insert t p v).1 := by
  rcases insert_cases c t p v with ⟨_, _, hi⟩ | ⟨_, hi⟩
  · rw [hi] at ha
    exact .inl ⟨a, ha⟩
  · rw [hi] at ha ⊢
    exact (slot?_append_cases ha).imp (fun hold => ⟨a, hold⟩) And.left

theorem resolveCertificate_names {x issuer : Certificate} {k : Handle}
    (hres : c.resolveCertificate sources x issuer k = (r, c')) :
    r.issuer? = some k ∧
      ∀ {i : Handle} {a : Slot}, c'.slot? i = some a → (∃ b, c.slot? i = some b) ∨
        r.evidence? = some i := by
  unfold resolveCertificate at hres
  split at hres
  · obtain ⟨rfl, rfl⟩ := Prod.mk.inj hres
    exact ⟨rfl, fun ha => .inl ⟨_, ha⟩⟩
  · split at hres
    · obtain ⟨rfl, rfl⟩ := Prod.mk.inj hres
      exact ⟨rfl, fun ha => .inl ⟨_, ha⟩⟩
    · obtain ⟨rfl, rfl⟩ := Prod.mk.inj hres
      exact ⟨rfl, fun ha => (exists_slot?_of_insert ha).imp id fun hi => congrArg some hi.symm⟩

/-- A token's processing adds the issuer and the evidence at most, and its resolution names both. -/
theorem names_of_process (hp : c.process sources config h t = .ok c') (ha : c'.slot? i = some a) :
    (∃ b, c.slot? i = some b) ∨ c'.Names h i := by
  unfold process at hp
  cases search : sources.issuer? config c.date t with
  | none =>
      rw [search] at hp
      exact .inl (exists_slot?_of_record hp ha)
  | some e =>
      rw [search] at hp
      have hissuer {b : Slot} (hb : (c.addEntry e).2.slot? i = some b) :
          (∃ b, c.slot? i = some b) ∨ i = (c.addEntry e).1 := exists_slot?_of_insert hb
      cases t with
      | certificate x =>
          rcases hres : (c.addEntry e).2.resolveCertificate sources x e.certificate
            (c.addEntry e).1 with ⟨r, c₂⟩
          have hrec : c₂.record h r = .ok c' := by simpa only [hres] using hp
          obtain ⟨hnames, hadded⟩ := resolveCertificate_names hres
          obtain ⟨b, hb⟩ := exists_slot?_of_record hrec ha
          have hr := resolutionAt?_of_record hrec
          rcases hadded hb with ⟨b, hb⟩ | hevidence
          · exact (hissuer hb).imp id fun hi => ⟨r, hr, .inl (by rw [hnames, hi])⟩
          · exact .inr ⟨r, hr, .inr hevidence⟩
      | crl _ | ocsp _ | timestamp _ =>
          obtain ⟨b, hb⟩ := exists_slot?_of_record hp ha
          exact (hissuer hb).imp id fun hi =>
            ⟨_, resolutionAt?_of_record hp, .inl (congrArg some hi.symm)⟩

/-- A visit adds nothing that the visited token does not name. -/
theorem NamedBefore.visit (hn : c.NamedBefore) (hv : visit sources config c h = .ok c') :
    c'.NamedBefore := by
  intro i a ha hi
  obtain ⟨c₁, hv', hreach, -⟩ := visit_reaches sources config c h
  obtain rfl : c₁ = c' := Except.ok.inj (hv'.symm.trans hv)
  have hold : ∀ {b : Slot}, c.slot? i = some b → ∃ j, j.index < i.index ∧
      c₁.Names j i := fun hb =>
    (hn hb hi).imp fun _ hj => ⟨hj.1, hj.2.mono hreach.grows⟩
  cases hb : c.slot? i with
  | some b => exact hold hb
  | none =>
      unfold Context.visit at hv
      cases hs : c.slot? h with
      | none =>
          rw [hs] at hv
          obtain rfl := Except.ok.inj hv
          rw [ha] at hb
          cases hb
      | some s =>
          rw [hs] at hv
          dsimp only at hv
          split at hv
          · rcases names_of_process hv ha with ⟨b, hb'⟩ | hnames
            · exact hold hb'
            · exact ⟨h, lt_of_slot? hs hb, hnames⟩
          · obtain rfl := Except.ok.inj hv
            rw [ha] at hb
            cases hb

/-! ## Passes and calls -/

/-- A context that only discovery has worked on. -/
structure Tidy (c : Context) : Prop where
  orderly : c.Orderly
  gathered : c.Gathered
  named : c.NamedBefore

theorem tidy_ofTarget (t : Token) (date : Instant) : (ofTarget t date).Tidy where
  orderly := orderly_ofTarget t date
  gathered := (gathered_empty date).step (.insert (empty date) t .other none)
  named := by
    intro h s hs hn
    -- there is nothing but the target
    have hin : h = target ∨ (empty date).slot? h = some s :=
      (slot?_append_cases (c := empty date) hs).symm.imp And.left id
    rcases hin with rfl | hs
    · exact absurd rfl hn
    · simp [slot?, empty] at hs

theorem Tidy.countPass (ht : c.Tidy) : Tidy { c with passes := c.passes + 1 } where
  orderly := ht.orderly.countPass
  gathered := ht.gathered.step (.countPass c)
  named hs hn := (ht.named hs hn).imp fun _ hi => ⟨hi.1, hi.2.mono (Step.countPass c).grows⟩

theorem Tidy.visit (ht : c.Tidy) (hv : visit sources config c h = .ok c') : c'.Tidy := by
  obtain ⟨c₁, hv', hreach, -⟩ := visit_reaches sources config c h
  obtain rfl : c₁ = c' := Except.ok.inj (hv'.symm.trans hv)
  exact ⟨ht.orderly.reaches hreach, hreach.keeps (P := Gathered)
    (fun hg hch => hg.step hch.step) ht.gathered, NamedBefore.visit ht.named hv⟩

theorem Tidy.foldlM_visit {hs : List Handle} (ht : c.Tidy)
    (hf : hs.foldlM (Context.visit sources config) c = .ok c') :
    c'.Tidy := by
  induction hs generalizing c with
  | nil =>
      obtain rfl := Except.ok.inj hf
      exact ht
  | cons h hs ih =>
      obtain ⟨c₁, hv, -⟩ := visit_reaches sources config c h
      rw [List.foldlM_cons, hv] at hf
      exact ih (ht.visit hv) hf

theorem Tidy.afterPass (ht : c.Tidy) : (c.afterPass sources config).Tidy := by
  obtain ⟨c₁, hf, -⟩ := foldlM_visit_reaches sources config c.pending c
  have hp := pass_eq c sources config
  rw [pass, hf] at hp
  rw [← Except.ok.inj hp]
  exact (ht.foldlM_visit hf).countPass

theorem Tidy.afterPasses (ht : c.Tidy) (n : Nat) : (c.afterPasses sources config n).Tidy := by
  induction n with
  | zero => exact ht
  | succ n ih =>
      rw [afterPasses_succ]
      exact ih.afterPass

theorem Tidy.after (ht : c.Tidy) (sources : Sources) (config : Config) :
    (c.after (.discover sources config)).Tidy := by
  obtain ⟨n, -, hd, -⟩ := exists_discover c sources config
  rw [after_of_ok (q := .discover sources config) hd]
  exact ht.afterPasses (n + 1)

theorem tidy_of_discover {date : Instant} (hc : (ofTarget t date).discover sources config = .ok c) :
    c.Tidy := by
  have hafter := (tidy_ofTarget t date).after sources config
  rwa [after_of_ok (q := .discover sources config) hc] at hafter

theorem Tidy.afterAll (ht : c.Tidy) (runs : List (Sources × Config)) :
    (c.afterAll (runs.map fun (sources, config) => .discover sources config)).Tidy := by
  induction runs generalizing c with
  | nil => exact ht
  | cons run runs ih => exact ih (ht.after run.1 run.2)

/-! ## What is named -/

/-- By induction on the place of a token: whoever names it stands before it. -/
theorem NamedBefore.linked (hn : c.NamedBefore) (hs : c.slot? h = some s) : c.Linked h := by
  obtain ⟨n⟩ := h
  induction n using Nat.strongRecOn generalizing s with
  | ind n ih =>
      by_cases he : (⟨n⟩ : Handle) = target
      · rw [he]
        exact .refl
      · obtain ⟨i, hlt, hnames⟩ := hn hs he
        obtain ⟨r, hr, -⟩ := id hnames
        obtain ⟨b, hb, -⟩ := Option.bind_eq_some_iff.1 hr
        exact (ih i.index hlt hb).tail hnames

/-- A token after the first has a handle of its own. -/
theorem exists_slot?_of_mem_drop (ht : t ∈ c.tokens.drop 1) :
    ∃ h s, h ≠ target ∧ c.slot? h = some s ∧ s.token = t := by
  rw [tokens, ← List.map_drop] at ht
  obtain ⟨s, hs, rfl⟩ := List.mem_map.1 ht
  obtain ⟨i, hi⟩ := List.mem_iff_getElem?.1 hs
  rw [List.getElem?_drop] at hi
  exact ⟨⟨1 + i⟩, s, by simp [target], hi, rfl⟩

/-- An exempt certificate names nobody. -/
theorem Orderly.not_names_of_exempt (ho : c.Orderly) (hs : c.slot? i = some s) (hx : s.IsExempt) :
    ¬ c.Names i h := by
  rintro ⟨r, hr, hnames⟩
  have hw := ho.resolved hs
  have hreason : ∃ reason, s.resolution = some (.noCheckNeeded reason) := by
    obtain ⟨x, hcertificate, hwhy⟩ := hx
    cases hself : x.isSelfIssued with
    | true => exact ⟨_, hw.selfSigned hcertificate hself⟩
    | false => exact ⟨_, hw.trusted hcertificate hself (hwhy.resolve_left (by simp [hself]))⟩
  obtain ⟨reason, hthere⟩ := hreason
  obtain rfl : r = .noCheckNeeded reason := by
    rw [resolutionAt?, hs, Option.bind_some, hthere] at hr
    exact (Option.some.inj hr).symm
  rcases hnames with hnames | hnames <;> cases hnames

theorem Tidy.collected (ht : c.Tidy) : c.Collected where
  named := ht.named
  needed t hneeded := by
    obtain ⟨h, s, -, hs, rfl⟩ := exists_slot?_of_mem_drop (ht.gathered.mem_after_first hneeded)
    exact ⟨h, by simp [token?, hs], NamedBefore.linked ht.named hs⟩
  aboveExempt hs hx he _ hn := by
    obtain ⟨b, hb, -⟩ := slot_of_entryAt? he
    obtain ⟨j, -, hnames⟩ := ht.named hb hn
    exact ⟨j, fun hj => ht.orderly.not_names_of_exempt hs hx (hj ▸ hnames), hnames⟩

/-- **However often discovery has run on a target, with whatever sources and bounds, and however
many tokens of a further pass have been visited: whatever is in the context beside the target is
named by what came before it**, what is needed is linked to the target, and what issued an exempt
certificate somebody else names. -/
theorem discovery_collects_named (t : Token) (date : Instant) (runs : List (Sources × Config)) :
    let c := (ofTarget t date).afterAll (runs.map fun (sources, config) => .discover sources config)
    c.Collected ∧ ∀ (sources : Sources) (config : Config) (visited : List Handle),
      ∃ c', visited.foldlM (visit sources config) c = .ok c' ∧ c'.Collected := by
  intro c
  have ht : c.Tidy := (tidy_ofTarget t date).afterAll runs
  refine ⟨ht.collected, fun sources config visited => ?_⟩
  obtain ⟨c', hf, -⟩ := foldlM_visit_reaches sources config visited c
  exact ⟨c', hf, (ht.foldlM_visit hf).collected⟩

end SignatureTrust.Context
