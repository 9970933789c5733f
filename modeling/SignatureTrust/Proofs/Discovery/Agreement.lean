import SignatureTrust.Proofs.Discovery.Run

/-!
# `Proofs.Discovery.Agreement` — what a run asks, and runs that ask alike

A run asks its sources two things: who issued a token that is waiting, and, for a certificate whose
issuer was found, what its status is. Every token that was waiting is resolved in the end, under its
old handle. So **what a run asked can be read off the context it ended with** (`AgreeOn`), and other
sources that answer those questions alike lead to the same context (`discover_of_agreeOn`).

Nothing is assumed about the questions that were not asked. That is the point: the other sources may
know less.
-/

set_option autoImplicit false

namespace SignatureTrust.Context

variable {sources sources' : Sources} {config : Config} {c c' last : Context} {h : Handle}

/-- Other sources answer alike about a token. -/
structure AgreeAbout (sources sources' : Sources) (config : Config) (date : Instant) (t : Token) :
    Prop where
  issuer : sources'.issuer? config date t = sources.issuer? config date t
  status : ∀ {x : Certificate} {e : Entry}, t = .certificate x →
    sources.issuer? config date t = some e →
    Status.check? sources'.crypto sources'.ocsp sources'.crl x e.certificate date =
      Status.check? sources.crypto sources.ocsp sources.crl x e.certificate date

/-- Other sources answer alike about every token of a context whose resolution rests on answers. -/
def AgreeOn (sources sources' : Sources) (config : Config) (c : Context) : Prop :=
  ∀ {h : Handle} {s : Slot} {r : Resolution}, c.slot? h = some s → s.resolution = some r →
    Grounded sources config c s.token r → AgreeAbout sources sources' config c.date s.token

/-! ## One token -/

theorem resolveCertificate_congr {x issuer : Certificate}
    (ha : Status.check? sources'.crypto sources'.ocsp sources'.crl x issuer c.date =
      Status.check? sources.crypto sources.ocsp sources.crl x issuer c.date) :
    c.resolveCertificate sources' x issuer h = c.resolveCertificate sources x issuer h := by
  unfold resolveCertificate
  rw [ha]

theorem process_congr {t : Token} (ha : AgreeAbout sources sources' config c.date t) :
    c.process sources' config h t = c.process sources config h t := by
  unfold process
  rw [ha.issuer]
  cases search : sources.issuer? config c.date t with
  | none => rfl
  | some e =>
      have hdate : (c.addEntry e).2.date = c.date := Grows.insert.date
      cases t with
      | certificate x =>
          have hres :
              (c.addEntry e).2.resolveCertificate sources' x e.certificate (c.addEntry e).1 =
              (c.addEntry e).2.resolveCertificate sources x e.certificate (c.addEntry e).1 :=
            resolveCertificate_congr (by rw [hdate]; exact ha.status rfl search)
          dsimp only
          rw [hres]
      | crl _ | ocsp _ | timestamp _ => rfl

/-- A visit asks about a token whose resolution is there in the end. -/
theorem visit_of_agreeOn (ha : AgreeOn sources sources' config last)
    (hv : visit sources config c h = .ok c') (hg : Grows c' last) :
    visit sources' config c h = .ok c' := by
  cases hs : c.slot? h with
  | none => simpa [visit, hs] using hv
  | some s =>
      cases hr : s.resolution with
      | some r => simpa [visit, hs, hr] using hv
      | none =>
          obtain ⟨c'', hv', hreach, hresolved⟩ := visit_reaches sources config c h
          obtain rfl : c'' = c' := Except.ok.inj (hv'.symm.trans hv)
          obtain ⟨s', r, hs', hr', hground⟩ := hresolved hs hr
          obtain ⟨s₁, hs₁, hb₁⟩ := hreach.grows.slot hs
          obtain rfl : s₁ = s' := Option.some.inj (hs₁.symm.trans hs')
          obtain ⟨s₂, hs₂, hb₂⟩ := hg.slot hs'
          have htoken : s₂.token = s.token := hb₂.token.trans hb₁.token
          have habout := ha hs₂ (hb₂.resolution hr') (htoken ▸ hground.mono hg)
          rw [htoken, (hreach.grows.trans hg).date] at habout
          rw [← hv]
          simp only [visit, hs, hr, Option.isNone_none, if_true]
          exact process_congr habout

/-! ## A pass, and all of them -/

theorem foldlM_visit_of_agreeOn (ha : AgreeOn sources sources' config last) (hs : List Handle)
    (hf : hs.foldlM (visit sources config) c = .ok c') (hg : Grows c' last) :
    hs.foldlM (visit sources' config) c = .ok c' := by
  induction hs generalizing c with
  | nil => exact hf
  | cons h hs ih =>
      obtain ⟨c₁, hv, -, -⟩ := visit_reaches sources config c h
      rw [List.foldlM_cons, hv] at hf
      -- the rest of the pass takes what this visit made into the last context
      obtain ⟨c₂, hrest, hreach⟩ := foldlM_visit_reaches sources config hs c₁
      obtain rfl : c₂ = c' := Except.ok.inj (hrest.symm.trans hf)
      rw [List.foldlM_cons, visit_of_agreeOn ha hv (hreach.grows.trans hg)]
      exact ih hf

theorem pass_of_agreeOn (ha : AgreeOn sources sources' config last)
    (hp : c.pass sources config = .ok c') (hg : Grows c' last) :
    c.pass sources' config = .ok c' := by
  obtain ⟨c₁, hf, -⟩ := foldlM_visit_reaches sources config c.pending c
  rw [pass, hf] at hp
  obtain rfl : { c₁ with passes := c₁.passes + 1 } = c' := Except.ok.inj hp
  have hcount : Grows c₁ { c₁ with passes := c₁.passes + 1 } := (Step.countPass c₁).grows
  rw [pass, foldlM_visit_of_agreeOn ha _ hf (hcount.trans hg)]
  rfl

theorem discoverWithin_of_agreeOn (ha : AgreeOn sources sources' config last)
    (more : Nat) (hd : discoverWithin sources config more c = .ok last) :
    discoverWithin sources' config more c = .ok last := by
  induction more generalizing c with
  | zero =>
      obtain ⟨next, hp, -⟩ := pass_reaches sources config c
      rw [discoverWithin, hp] at hd
      obtain rfl : next = last := Except.ok.inj ((ite_self (Except.ok next)).symm.trans hd)
      rw [discoverWithin, pass_of_agreeOn ha hp (.refl next)]
      exact ite_self (Except.ok next)
  | succ more ih =>
      obtain ⟨next, hp, -⟩ := pass_reaches sources config c
      rw [discoverWithin, hp] at hd
      by_cases hstop : next.size = c.size ∧ next.resolvedCount = c.resolvedCount
      · obtain rfl : next = last := Except.ok.inj ((if_pos hstop).symm.trans hd)
        rw [discoverWithin, pass_of_agreeOn ha hp (.refl next)]
        exact if_pos hstop
      · have hrest : discoverWithin sources config more next = .ok last :=
          (if_neg hstop).symm.trans hd
        obtain ⟨c', hw, hreach⟩ := discoverWithin_reaches sources config more next
        obtain rfl : c' = last := Except.ok.inj (hw.symm.trans hrest)
        rw [discoverWithin, pass_of_agreeOn ha hp hreach.grows]
        exact (if_neg hstop).trans (ih hrest)

/-- **Sources that agree on what a run ended with lead to the same context.** -/
theorem discover_of_agreeOn (ha : AgreeOn sources sources' config last)
    (hd : c.discover sources config = .ok last) :
    c.discover sources' config = .ok last :=
  discoverWithin_of_agreeOn ha _ hd

end SignatureTrust.Context
