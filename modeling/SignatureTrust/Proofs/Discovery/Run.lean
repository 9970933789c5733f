import SignatureTrust.Discovery
import SignatureTrust.Proofs.Discovery.Growth
import SignatureTrust.Proofs.Status

/-!
# `Proofs.Discovery.Run` — what a run of discovery does, and why

A run is a sequence of small changes, and each has a reason: an issuer is added because the search
found it for a token that is there, evidence is added because a status rests on it, a resolution is
recorded because the sources' answers **ground** it (`Grounded`). The definitions of `Discovery`
wrap these changes into `Except`, passes and fuel; this file unwraps them once:

> `discover` gives a context, always, and that context is reached by changes
> (`reaches_of_discover`).

What a run keeps is then proved by looking at one change (`Reaches.keeps`). Nothing here asks that
the sources be honest, or that two certificates with one issuer and serial be the same: a resolution
is grounded in what was *found*, and names the handle under which that is *filed*.
-/

set_option autoImplicit false

namespace SignatureTrust.Context

variable {sources : Sources} {config : Config} {c c' : Context}

/-- Why a token has the resolution it has. -/
inductive Grounded (sources : Sources) (config : Config) (c : Context) :
    Token → Resolution → Prop
  | noIssuer {t : Token} (search : sources.issuer? config c.date t = none) :
      Grounded _ _ _ t (.unresolved none .issuerNotFound)
  | noStatus {certificate : Certificate} {e : Entry}
      {h : Handle} (search : sources.issuer? config c.date (.certificate certificate) = some e)
      (filed : c.handleOf? (.certificate e.certificate) = some h)
      (answer : Status.check? sources.crypto sources.ocsp sources.crl certificate e.certificate
        c.date = none) :
      Grounded _ _ _ (.certificate certificate) (.unresolved (some h) .noRevocationData)
  | status {certificate : Certificate} {e : Entry} {h i : Handle} {s : Status}
      {evidence : RevocationEvidence}
      (search : sources.issuer? config c.date (.certificate certificate) = some e)
      (filed : c.handleOf? (.certificate e.certificate) = some h)
      (answer : Status.check? sources.crypto sources.ocsp sources.crl certificate e.certificate
        c.date = some s)
      (rests : s.evidence = some evidence) (evidenceFiled : c.handleOf? evidence.token = some i) :
      Grounded _ _ _ (.certificate certificate) (.checked h (some s) (some i))
  | signer {t : Token} {e : Entry} {h : Handle} (kind : t.certificate? = none)
      (search : sources.issuer? config c.date t = some e)
      (filed : c.handleOf? (.certificate e.certificate) = some h) :
      Grounded _ _ _ t (.checked h none none)

theorem Grounded.mono {t : Token} {r : Resolution} (hr : Grounded sources config c t r)
    (hg : Grows c c') :
    Grounded sources config c' t r := by
  cases hr with
  | noIssuer search => exact .noIssuer (by rwa [hg.date])
  | noStatus search filed answer =>
      exact .noStatus (by rwa [hg.date]) (hg.key filed) (by rwa [hg.date])
  | status search filed answer rests evidenceFiled =>
      exact .status (by rwa [hg.date]) (hg.key filed) (by rwa [hg.date]) rests
        (hg.key evidenceFiled)
  | signer kind search filed => exact .signer kind (by rwa [hg.date]) (hg.key filed)

theorem Grounded.search_of_issuer? {t : Token} {r : Resolution} {h : Handle}
    (hr : Grounded sources config c t r) (hissuer : r.issuer? = some h) :
    ∃ e, sources.issuer? config c.date t = some e ∧
      c.handleOf? (.certificate e.certificate) = some h := by
  cases hr with
  | noIssuer _ => cases hissuer
  | noStatus search filed _ | status search filed _ _ _ | signer _ search filed =>
      cases hissuer
      exact ⟨_, search, filed⟩

/-- A status is recorded for certificates only, and is about the issuer that was found. -/
theorem Grounded.about_of_checked {t : Token} {e : Entry} {h : Handle} {s : Option Status}
    {i : Option Handle} (hr : Grounded sources config c t (.checked h s i))
    (hkind : t.certificate?.isSome = true) (search : sources.issuer? config c.date t = some e) :
    ∃ status, s = some status ∧ status.issuer = some e.certificate := by
  cases hr with
  | status search' _ answer _ _ =>
      obtain rfl := Option.some.inj (search'.symm.trans search)
      exact ⟨_, rfl, (Status.isAbout_of_check? answer).issuer⟩
  | signer kind _ _ =>
      rw [kind] at hkind
      cases hkind

theorem Grounded.issuer?_of_settled {t : Token}
    {r : Resolution} (hr : Grounded sources config c t r) (hsettled : r.isUnresolved = false) :
    ∃ h, r.issuer? = some h := by
  cases hr with
  | noIssuer _ | noStatus _ _ _ => cases hsettled
  | status _ _ _ _ _ | signer _ _ _ => exact ⟨_, rfl⟩

theorem Grounded.certificate_of_status? {t : Token}
    {r : Resolution} (hr : Grounded sources config c t r) (hstatus : r.status?.isSome = true) :
    t.certificate?.isSome = true := by
  cases hr with
  | status _ _ _ _ _ => rfl
  | noIssuer _ | noStatus _ _ _ | signer _ _ _ => cases hstatus

theorem Grounded.filed_of_issuer? {t : Token} {r : Resolution} {e : Entry}
    (hr : Grounded sources config c t r) (search : sources.issuer? config c.date t = some e) :
    ∃ h, c.handleOf? (.certificate e.certificate) = some h := by
  cases hr with
  | noIssuer none => rw [none] at search; cases search
  | noStatus search' filed _ | status search' filed _ _ _ | signer _ search' filed =>
      obtain rfl := Option.some.inj (search'.symm.trans search)
      exact ⟨_, filed⟩

theorem Grounded.filed_of_check? {certificate : Certificate} {r : Resolution} {e : Entry}
    {s : Status} {evidence : RevocationEvidence}
    (hr : Grounded sources config c (.certificate certificate) r)
    (search : sources.issuer? config c.date (.certificate certificate) = some e)
    (answer : Status.check? sources.crypto sources.ocsp sources.crl certificate e.certificate
      c.date = some s)
    (rests : s.evidence = some evidence) : ∃ h, c.handleOf? evidence.token = some h := by
  cases hr with
  | noIssuer none => rw [none] at search; cases search
  | noStatus search' _ none =>
      obtain rfl := Option.some.inj (search'.symm.trans search)
      rw [none] at answer
      cases answer
  | status search' _ answer' rests' evidenceFiled =>
      obtain rfl := Option.some.inj (search'.symm.trans search)
      obtain rfl := Option.some.inj (answer'.symm.trans answer)
      obtain rfl := Option.some.inj (rests'.symm.trans rests)
      exact ⟨_, evidenceFiled⟩
  | signer kind _ _ => cases kind

/-- One change of a run, with its reason. -/
inductive Change (sources : Sources) (config : Config) : Context → Context → Prop
  | issuer {c : Context} {h : Handle} {s : Slot} {e : Entry} (there : c.slot? h = some s)
      (search : sources.issuer? config c.date s.token = some e) : Change _ _ c (c.addEntry e).2
  | evidence {c : Context} {certificate issuer : Certificate}
      {s : Status} {evidence : RevocationEvidence}
      (answer : Status.check? sources.crypto sources.ocsp sources.crl certificate issuer c.date =
        some s)
      (rests : s.evidence = some evidence) : Change _ _ c (c.addToken evidence.token).2
  | record {c c' : Context} {h : Handle} {s : Slot} {r : Resolution} (there : c.slot? h = some s)
      (grounded : Grounded sources config c s.token r) (recorded : c.record h r = .ok c') :
      Change _ _ c c'
  | countPass (c : Context) : Change _ _ c { c with passes := c.passes + 1 }

theorem Change.step (hc : Change sources config c c') : Step c c' := by
  cases hc with
  | issuer _ _ => exact .insert ..
  | evidence _ _ => exact .insert ..
  | record _ _ recorded => exact .record recorded
  | countPass => exact .countPass c

def Reaches (sources : Sources) (config : Config) : Context → Context → Prop :=
  Relation.ReflTransGen (Change sources config)

/-- **What every change keeps, a run keeps.** -/
theorem Reaches.keeps {P : Context → Prop} (hr : Reaches sources config c c')
    (hP : ∀ {a b : Context}, P a → Change sources config a b → P b) (hc : P c) : P c' := by
  induction hr with
  | refl => exact hc
  | tail _ hch ih => exact hP ih hch

theorem Reaches.grows (hr : Reaches sources config c c') : Grows c c' :=
  hr.keeps (P := Grows c) (fun hg hch => hg.trans hch.step.grows) (.refl c)

/-! ## One token -/

theorem exists_record {h : Handle} {s : Slot} {r : Resolution} (hs : c.slot? h = some s)
    (hn : s.resolution = none) (hg : Grounded sources config c s.token r) :
    ∃ c', c.record h r = .ok c' ∧ Change sources config c c' ∧
      ∃ s', c'.slot? h = some s' ∧ s'.resolution = some r ∧
        Grounded sources config c' s.token r := by
  have hr : c.record h r = .ok (c.settled h s r) := record_eq_ok_iff.2 ⟨s, hs, hn, rfl⟩
  exact ⟨_, hr, .record hs hg hr, _, slot?_settled_self hs, rfl, hg.mono (.settled hs hn)⟩

/-- The status of a certificate, as a resolution with its grounds. -/
theorem resolveCertificate_reaches {certificate : Certificate} {e : Entry} {h : Handle}
    (search : sources.issuer? config c.date (.certificate certificate) = some e)
    (filed : c.handleOf? (.certificate e.certificate) = some h) :
    ∃ r c', c.resolveCertificate sources certificate e.certificate h = (r, c') ∧
      Reaches sources config c c' ∧ Grounded sources config c' (.certificate certificate) r ∧
      ∀ {i : Handle} {s : Slot}, c.slot? i = some s → c'.slot? i = some s := by
  unfold resolveCertificate
  cases ha :
      Status.check? sources.crypto sources.ocsp sources.crl certificate e.certificate c.date with
  | none => exact ⟨_, c, rfl, .refl, .noStatus search filed ha, id⟩
  | some s =>
      obtain ⟨evidence, he, -⟩ := Status.answered_of_check? ha
      have hch : Change sources config c (c.addToken evidence.token).2 := .evidence ha he
      have hd : (c.addToken evidence.token).2.date = c.date := hch.step.grows.date
      refine ⟨.checked h (some s) (some (c.addToken evidence.token).1),
        (c.addToken evidence.token).2,
        by simp only [he], .single hch, ?_, slot?_insert_of_some⟩
      exact .status (by rwa [hd]) (hch.step.grows.key filed) (by rwa [hd]) he handleOf?_insert

/-- A token that waits is resolved, with grounds, and nothing else than changes happens. -/
theorem process_reaches (sources : Sources) (config : Config) {h : Handle} {s : Slot}
    (hs : c.slot? h = some s) (hn : s.resolution = none) :
    ∃ c', c.process sources config h s.token = .ok c' ∧ Reaches sources config c c' ∧
      ∃ s' r, c'.slot? h = some s' ∧ s'.resolution = some r ∧
        Grounded sources config c' s.token r := by
  unfold process
  cases search : sources.issuer? config c.date s.token with
  | none =>
      obtain ⟨c', hr, hch, s', hs'⟩ := exists_record hs hn (.noIssuer search)
      exact ⟨c', hr, .single hch, s', _, hs'⟩
  | some e =>
      have hch : Change sources config c (c.addEntry e).2 := .issuer hs search
      have hs₁ : (c.addEntry e).2.slot? h = some s := slot?_insert_of_some hs
      have search₁ : sources.issuer? config (c.addEntry e).2.date s.token = some e := by
        rw [hch.step.grows.date, search]
      have filed : (c.addEntry e).2.handleOf? (.certificate e.certificate) =
          some (c.addEntry e).1 :=
        handleOf?_insert
      cases ht : s.token with
      | certificate certificate =>
          -- the issuer goes in before the status is asked for, so the resolution can name its
          -- handle
          obtain ⟨r, c₂, hres, hreach, hground, hkeep⟩ :=
            resolveCertificate_reaches (ht ▸ search₁) filed
          obtain ⟨c', hr, hch', s', hs'⟩ := exists_record (hkeep hs₁) hn (ht ▸ hground)
          refine ⟨c', by simp only [hres, hr], ?_, s', r, ht ▸ hs'⟩
          exact (Relation.ReflTransGen.head hch hreach).tail hch'
      | crl _ | ocsp _ | timestamp _ =>
          obtain ⟨c', hr, hch', s', hs'⟩ :=
            exists_record hs₁ hn (.signer (by rw [ht]; rfl) search₁ filed)
          exact ⟨c', hr, .tail (.single hch) hch', s', _, ht ▸ hs'⟩

/-! ## Passes -/

theorem visit_reaches (sources : Sources) (config : Config) (c : Context) (h : Handle) :
    ∃ c', visit sources config c h = .ok c' ∧ Reaches sources config c c' ∧
      ∀ {s : Slot}, c.slot? h = some s → s.resolution = none →
        ∃ s' r, c'.slot? h = some s' ∧ s'.resolution = some r ∧
          Grounded sources config c' s.token r := by
  unfold visit
  cases hs : c.slot? h with
  | none => exact ⟨c, rfl, .refl, fun h' => by cases h'⟩
  | some s =>
      cases hn : s.resolution with
      | some r =>
          refine ⟨c, by simp [hn], .refl, ?_⟩
          intro s' h' hw
          obtain rfl := Option.some.inj h'
          exact absurd hw (by simp [hn])
      | none =>
          obtain ⟨c', hp, hr, hs'⟩ := process_reaches sources config hs hn
          refine ⟨c', by simpa [hn] using hp, hr, ?_⟩
          intro s' h' _
          obtain rfl := Option.some.inj h'
          exact hs'

theorem foldlM_visit_reaches (sources : Sources) (config : Config) (hs : List Handle)
    (c : Context) :
    ∃ c', hs.foldlM (visit sources config) c = .ok c' ∧ Reaches sources config c c' := by
  induction hs generalizing c with
  | nil => exact ⟨c, rfl, .refl⟩
  | cons h hs ih =>
      obtain ⟨c₁, hv, hr₁, -⟩ := visit_reaches sources config c h
      obtain ⟨c₂, hf, hr₂⟩ := ih c₁
      exact ⟨c₂, by rw [List.foldlM_cons, hv]; exact hf, hr₁.trans hr₂⟩

theorem pass_reaches (sources : Sources) (config : Config) (c : Context) :
    ∃ c', c.pass sources config = .ok c' ∧ Reaches sources config c c' := by
  obtain ⟨c', hf, hr⟩ := foldlM_visit_reaches sources config c.pending c
  exact ⟨_, by rw [pass, hf]; rfl, hr.tail (.countPass c')⟩

/-! ## The whole run -/

theorem discoverWithin_reaches (sources : Sources) (config : Config) (more : Nat) (c : Context) :
    ∃ c', discoverWithin sources config more c = .ok c' ∧ Reaches sources config c c' := by
  induction more generalizing c with
  | zero =>
      obtain ⟨next, hp, hr⟩ := pass_reaches sources config c
      refine ⟨next, ?_, hr⟩
      rw [discoverWithin, hp]
      exact ite_self (Except.ok next)
  | succ more ih =>
      obtain ⟨next, hp, hr⟩ := pass_reaches sources config c
      by_cases hd : next.size = c.size ∧ next.resolvedCount = c.resolvedCount
      · refine ⟨next, ?_, hr⟩
        rw [discoverWithin, hp]
        exact if_pos hd
      · obtain ⟨c', hw, hr'⟩ := ih next
        refine ⟨c', ?_, hr.trans hr'⟩
        rw [discoverWithin, hp]
        exact (if_neg hd).trans hw

/-- Discovery always gives a context, reached by changes that the sources ground. -/
theorem reaches_of_discover (sources : Sources) (config : Config) (c : Context) :
    ∃ c', c.discover sources config = .ok c' ∧ Reaches sources config c c' :=
  discoverWithin_reaches sources config _ c

end SignatureTrust.Context
