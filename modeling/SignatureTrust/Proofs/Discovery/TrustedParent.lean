import Mathlib.Data.List.Perm.Subperm
import SignatureTrust.Proofs.Discovery.Unexpired
import SignatureTrust.Proofs.Source.Revocation

/-!
# `Proofs.Discovery.TrustedParent` — two ways up to a trusted certificate

The chain follows issuers on record. The search for a trusted parent follows them too, and where
there is none **goes on by name**, to the first certificate of the context with the subject it
wants. Qualification takes the service from the second, the verdict on the chain its anchor from the
first.

> The two end at one certificate, exactly unless the chain **detours**: it ends untrusted and
> without an issuer, and by name there is a trusted certificate further up
> (`trustedParent?_eq_find?_iff`).

As far as issuers are on record the walks take the same steps, and one of them stops because it is
where it was, the other because the encoding is the same; that is the one place where an encoding
has to stand for a certificate. Each walk may take as many steps as there are tokens, and **that is
enough** for the second one (`trustedParent?_eq_some_iff`): a walk that arrives does not go anywhere
twice.

Nobody checks a signature on the way by name. In `Namesake` a CA that nobody issued names a root,
and whoever is below the CA gets the root's service.
-/

set_option autoImplicit false

namespace SignatureTrust

/-- Among the certificates that can come up, the encoding determines a certificate. -/
def Sources.TellsByEncoding (sources : Sources) (t : Token) : Prop :=
  ∀ {a b : Certificate}, sources.Knows t a → sources.Knows t b →
    a.sameEncoding b = true → a = b

namespace Context

variable {sources : Sources} {config : Config} {t : Token} {date : Instant} {c : Context}
variable {h j : Handle} {x : Certificate} {e e' a top : Entry} {n m : Nat}

/-! ## Up to a trusted certificate -/

/-- The handle on record for the issuer of a certificate. -/
def recordedIssuer? (c : Context) (x : Certificate) : Option Handle :=
  (c.resolutionOf? (.certificate x)).bind (·.issuer?)

theorem issuerWithin?_of_recorded (hr : c.recordedIssuer? x = some j) :
    c.issuerWithin? x = c.entryAt? j := by
  have hrec : (do let r ← c.resolutionOf? (.certificate x); r.issuer?) = some j := hr
  simp only [issuerWithin?, hrec]

theorem issuerWithin?_of_not_recorded (hr : c.recordedIssuer? x = none) :
    c.issuerWithin? x = c.entryBySubject? x.issuer := by
  have hrec : (do let r ← c.resolutionOf? (.certificate x); r.issuer?) = none := hr
  simp only [issuerWithin?, hrec]

/-- There is a trusted certificate above, and the walk up to it never stands still. -/
inductive TrustedAbove (c : Context) : Certificate → Entry → Prop
  | next {x : Certificate} {e : Entry} (issuer : c.issuerWithin? x = some e)
      (trusted : e.isTrusted = true) :
      TrustedAbove c x e
  | further {x : Certificate} {e a : Entry} (issuer : c.issuerWithin? x = some e)
      (untrusted : e.isTrusted = false) (another : e.certificate.sameEncoding x = false)
      (above : TrustedAbove c e.certificate a) : TrustedAbove c x a

theorem trustedAncestor?_succ_eq_some_iff : c.trustedAncestor? (n + 1) x = some a ↔
    ∃ e, c.issuerWithin? x = some e ∧ (e.isTrusted = true ∧ e = a ∨
      e.isTrusted = false ∧ e.certificate.sameEncoding x = false ∧
        c.trustedAncestor? n e.certificate = some a) := by
  rw [trustedAncestor?]
  cases c.issuerWithin? x with
  | none => simp
  | some e => cases ht : e.isTrusted <;> cases hs : e.certificate.sameEncoding x <;> simp [ht, hs]

theorem trustedAncestor?_mono (hf : c.trustedAncestor? n x = some a) (hle : n ≤ m) :
    c.trustedAncestor? m x = some a := by
  induction n generalizing x m with
  | zero => cases hf
  | succ n ih =>
      obtain ⟨m, rfl⟩ :=
        Nat.exists_eq_add_of_le' (Nat.le_trans (Nat.succ_le_succ (Nat.zero_le n)) hle)
      obtain ⟨e, issuer, hcase⟩ := trustedAncestor?_succ_eq_some_iff.1 hf
      refine trustedAncestor?_succ_eq_some_iff.2 ⟨e, issuer, hcase.imp_right ?_⟩
      rintro ⟨untrusted, another, hf⟩
      exact ⟨untrusted, another, ih hf (Nat.le_of_succ_le_succ hle)⟩

theorem trustedAbove_of_trustedAncestor? (hf : c.trustedAncestor? n x = some a) :
    c.TrustedAbove x a := by
  induction n generalizing x with
  | zero => cases hf
  | succ n ih =>
      obtain ⟨e, issuer, ⟨trusted, rfl⟩ | ⟨untrusted, another, hf⟩⟩ :=
        trustedAncestor?_succ_eq_some_iff.1 hf
      · exact .next issuer trusted
      · exact .further issuer untrusted another (ih hf)

theorem exists_trustedAncestor? (hab : c.TrustedAbove x a) :
    ∃ n, c.trustedAncestor? n x = some a := by
  induction hab with
  | next issuer trusted =>
      exact ⟨1, trustedAncestor?_succ_eq_some_iff.2 ⟨_, issuer, .inl ⟨trusted, rfl⟩⟩⟩
  | further issuer untrusted another _ ih =>
      obtain ⟨n, hf⟩ := ih
      exact ⟨n + 1,
        trustedAncestor?_succ_eq_some_iff.2 ⟨_, issuer, .inr ⟨untrusted, another, hf⟩⟩⟩

/-! ## The bound on the walk -/

/-- The certificates among the tokens. -/
def certificates (c : Context) : List Certificate := c.slots.filterMap fun s => s.token.certificate?

theorem length_certificates_le : c.certificates.length ≤ c.size := List.length_filterMap_le ..

theorem mem_certificates_of_entryAt? (he : c.entryAt? h = some e) :
    e.certificate ∈ c.certificates := by
  obtain ⟨s, hs, ht, -⟩ := slot_of_entryAt? he
  exact List.mem_filterMap.2 ⟨s, List.mem_of_getElem? hs, by rw [ht]; rfl⟩

theorem exists_entryAt?_of_entryBySubject? {name : Name} (he : c.entryBySubject? name = some e) :
    ∃ h, c.entryAt? h = some e := by
  obtain ⟨s, hs, hsome⟩ := List.exists_of_findSome?_eq_some he
  obtain ⟨i, hi⟩ := List.mem_iff_getElem?.1 hs
  refine ⟨⟨i⟩, ?_⟩
  cases hsourced : s.sourced? with
  | none => simp [hsourced] at hsome
  | some first =>
      simp only [hsourced, Option.ite_none_right_eq_some, Option.some.injEq] at hsome
      obtain ⟨-, rfl⟩ := hsome
      simp [entryAt?, slot?, hi, hsourced]

theorem exists_entryAt?_of_issuerWithin? (he : c.issuerWithin? x = some e) :
    ∃ h, c.entryAt? h = some e := by
  cases hr : c.recordedIssuer? x with
  | some j => exact ⟨j, issuerWithin?_of_recorded hr ▸ he⟩
  | none => exact exists_entryAt?_of_entryBySubject? (issuerWithin?_of_not_recorded hr ▸ he)

/-- The walk up needs exactly one step more than this many. -/
structure ArrivesAfter (c : Context) (n : Nat) (x : Certificate) : Prop where
  arrives : (c.trustedAncestor? (n + 1) x).isSome = true
  late : c.trustedAncestor? n x = none

theorem ArrivesAfter.le (hn : c.ArrivesAfter n x) (hm : c.ArrivesAfter m x) : n ≤ m := by
  by_contra hlt
  obtain ⟨a, ha⟩ := Option.isSome_iff_exists.1 hm.arrives
  have hsome := trustedAncestor?_mono ha (Nat.lt_of_not_le hlt)
  rw [hn.late] at hsome
  cases hsome

theorem ArrivesAfter.above (hn : c.ArrivesAfter (n + 1) x) :
    ∃ y ∈ c.certificates, c.ArrivesAfter n y := by
  obtain ⟨a, ha⟩ := Option.isSome_iff_exists.1 hn.arrives
  obtain ⟨e, issuer, hcase⟩ := trustedAncestor?_succ_eq_some_iff.1 ha
  -- with a step less there was nothing, neither next to it nor above
  have hlate : ∀ b, ¬ (e.isTrusted = true ∧ e = b ∨
      e.isTrusted = false ∧ e.certificate.sameEncoding x = false ∧
          c.trustedAncestor? n e.certificate = some b) := by
    intro b hb
    have hsome := trustedAncestor?_succ_eq_some_iff.2 ⟨e, issuer, hb⟩
    rw [hn.late] at hsome
    cases hsome
  obtain ⟨h, he⟩ := exists_entryAt?_of_issuerWithin? issuer
  rcases hcase with htrusted | ⟨untrusted, another, ha⟩
  · exact absurd (.inl htrusted) (hlate a)
  · refine ⟨e.certificate, mem_certificates_of_entryAt? he, by rw [ha]; rfl, ?_⟩
    exact Option.eq_none_iff_forall_ne_some.2 fun b hb =>
      hlate b (.inr ⟨untrusted, another, hb⟩)

/-- On a walk that arrives every certificate is another one, as each is nearer than the one
before. -/
theorem ArrivesAfter.exists_path (hn : c.ArrivesAfter n x) (hx : x ∈ c.certificates) :
    ∃ path : List Certificate, path.Nodup ∧ path.length = n + 1 ∧ path ⊆ c.certificates ∧
      ∀ y ∈ path, ∃ m ≤ n, c.ArrivesAfter m y := by
  induction n generalizing x with
  | zero => exact ⟨[x], List.pairwise_singleton _ x, rfl, by simpa using hx, by simpa using hn⟩
  | succ n ih =>
      obtain ⟨y, hy, hny⟩ := hn.above
      obtain ⟨path, nodup, length, inside, nearer⟩ := ih hny hy
      refine ⟨x :: path, List.nodup_cons.2 ⟨?_, nodup⟩, by rw [List.length_cons, length], ?_,
        ?_⟩
      · intro hxp
        obtain ⟨m, hm, hmx⟩ := nearer x hxp
        exact absurd (hn.le hmx) (by omega)
      · exact List.cons_subset.2 ⟨hx, inside⟩
      · intro z hz
        rcases List.mem_cons.1 hz with rfl | hz
        · exact ⟨n + 1, Nat.le_refl _, hn⟩
        · obtain ⟨m, hm, hmz⟩ := nearer z hz
          exact ⟨m, Nat.le_succ_of_le hm, hmz⟩

theorem ArrivesAfter.lt_size (hn : c.ArrivesAfter n x) (hx : x ∈ c.certificates) :
    n < c.size := by
  obtain ⟨path, nodup, length, inside, -⟩ := hn.exists_path hx
  calc n < path.length := by omega
    _ ≤ c.certificates.length := (nodup.subperm inside).length_le
    _ ≤ c.size := length_certificates_le

/-- What is found in any number of steps is found in as many as there are tokens. -/
theorem trustedAncestor?_size (hf : c.trustedAncestor? n x = some a) (hx : x ∈ c.certificates) :
    c.trustedAncestor? c.size x = some a := by
  induction n with
  | zero => cases hf
  | succ n ih =>
      cases hn : c.trustedAncestor? n x with
      | none =>
          have hlate : c.ArrivesAfter n x := ⟨by rw [hf]; rfl, hn⟩
          exact trustedAncestor?_mono hf (hlate.lt_size hx)
      | some b =>
          obtain rfl : b = a :=
            Option.some.inj ((trustedAncestor?_mono hn (Nat.le_succ n)).symm.trans hf)
          exact ih hn

/-- **The bound is enough**: the trusted parent of a certificate of the context is the trusted
certificate above it. -/
theorem trustedParent?_eq_some_iff (hx : x ∈ c.certificates) :
    c.trustedParent? x = some a ↔ c.TrustedAbove x a := by
  constructor
  · exact trustedAbove_of_trustedAncestor?
  · intro hab
    obtain ⟨n, hf⟩ := exists_trustedAncestor? hab
    exact trustedAncestor?_mono (trustedAncestor?_size hf hx) (Nat.le_succ _)

/-! ## Along the chain -/

theorem Filed.next?_eq (hf : c.Filed) (he : c.entryAt? h = some e) :
    c.next? h = (c.recordedIssuer? e.certificate).bind fun j => if j = h then none else some j := by
  rw [next?, recordedIssuer?, hf.resolutionOf?_of_entryAt? he]
  cases (c.resolutionAt? h).bind (·.issuer?) <;> rfl

theorem mem_chainFrom_succ {start : Option Handle} (hm : e ∈ c.chainFrom n start) :
    e ∈ c.chainFrom (n + 1) start := by
  induction n generalizing start with
  | zero => cases hm
  | succ n ih =>
      obtain ⟨h, rfl, -⟩ := entryAt?_of_chainFrom (List.ne_nil_of_mem hm)
      cases he : c.entryAt? h with
      | none => simp [chainFrom, he] at hm
      | some first =>
          rw [chainFrom_succ he] at hm ⊢
          rcases List.mem_cons.1 hm with rfl | hm
          · exact List.mem_cons_self
          · exact List.mem_cons_of_mem _ (ih hm)

/-- The next certificate of the chain is the issuer within the context, and has another encoding. -/
theorem Discovered.issuerWithin?_of_next? (hd : Discovered sources config t date c)
    (htell : sources.TellsByEncoding t) (he : c.entryAt? h = some e) (he' : c.entryAt? j = some e')
    (hn : c.next? h = some j) :
    c.issuerWithin? e.certificate = some e' ∧
      e'.certificate.sameEncoding e.certificate = false := by
  rw [hd.filed.next?_eq he, Option.bind_eq_some_iff] at hn
  obtain ⟨i, hi, hkeep⟩ := hn
  obtain ⟨hne, hj⟩ := Option.ite_none_left_eq_some.1 hkeep
  obtain rfl := Option.some.inj hj
  refine ⟨(issuerWithin?_of_recorded hi).trans he', ?_⟩
  by_contra hsame
  obtain ⟨s, hs, ht, -⟩ := slot_of_entryAt? he
  obtain ⟨s', hs', ht', -⟩ := slot_of_entryAt? he'
  have heq := htell (hd.knows_slot hs' ht') (hd.knows_slot hs ht) (Bool.not_eq_false _ ▸ hsame)
  exact hne (hd.filed.handle_unique he' he heq)

/-- The trusted certificate that the chain leads to is found by the other walk. -/
theorem Discovered.trustedAncestor?_of_find? (hd : Discovered sources config t date c)
    (htell : sources.TellsByEncoding t)
    (he : c.entryAt? h = some e) (hf : (c.chainFrom n (c.next? h)).find? (·.isTrusted) = some a) :
    c.trustedAncestor? n e.certificate = some a := by
  induction n generalizing h e with
  | zero => cases hf
  | succ n ih =>
      obtain ⟨j, hn, -⟩ :=
        entryAt?_of_chainFrom (List.ne_nil_of_mem (List.mem_of_find?_eq_some hf))
      rw [hn] at hf
      cases he' : c.entryAt? j with
      | none => simp [chainFrom, he'] at hf
      | some e' =>
          obtain ⟨issuer, another⟩ := hd.issuerWithin?_of_next? htell he he' hn
          rw [chainFrom_succ he', List.find?_cons] at hf
          refine trustedAncestor?_succ_eq_some_iff.2 ⟨e', issuer, ?_⟩
          cases ht : e'.isTrusted with
          | true => exact .inl ⟨rfl, by simpa [ht] using hf⟩
          | false => exact .inr ⟨rfl, another, ih he' (by simpa [ht] using hf)⟩

/-- A chain that leads nowhere, below a trusted certificate that only a name leads to. -/
inductive Detours (c : Context) : Prop
  | intro {top a : Entry} (there : top ∈ c.chain)
      (untrusted : top.isTrusted = false) (noIssuer : c.recordedIssuer? top.certificate = none)
      (above : c.TrustedAbove top.certificate a) : Detours c

/-- What the other walk finds the chain leads to, or the chain leads to where that walk goes on by
name. -/
theorem Discovered.find?_or_top (hd : Discovered sources config t date c)
    (he : c.entryAt? h = some e) (hu : e.isTrusted = false)
    (hf : c.trustedAncestor? n e.certificate = some a) :
    (c.chainFrom n (c.next? h)).find? (·.isTrusted) = some a ∨
      ∃ top ∈ c.chainFrom n (some h),
      top.isTrusted = false ∧ c.recordedIssuer? top.certificate = none ∧
        c.TrustedAbove top.certificate a := by
  induction n generalizing h e with
  | zero => cases hf
  | succ n ih =>
      rw [chainFrom_succ he]
      cases hr : c.recordedIssuer? e.certificate with
      | none => exact .inr ⟨e, List.mem_cons_self, hu, hr, trustedAbove_of_trustedAncestor? hf⟩
      | some j =>
          obtain ⟨e', issuer, hcase⟩ := trustedAncestor?_succ_eq_some_iff.1 hf
          have he' : c.entryAt? j = some e' := (issuerWithin?_of_recorded hr).symm.trans issuer
          have hnext := hd.filed.next?_eq he
          by_cases hj : j = h
          · -- who is its own issuer has no next, and its encoding stops the other walk
            subst hj
            obtain rfl : e = e' := Option.some.inj (he.symm.trans he')
            rcases hcase with ⟨trusted, -⟩ | ⟨-, another, -⟩
            · rw [hu] at trusted
              cases trusted
            · simp [Certificate.sameEncoding] at another
          · rw [hr, Option.bind_some, if_neg hj] at hnext
            rw [hnext, chainFrom_succ he', List.find?_cons]
            rcases hcase with ⟨trusted, rfl⟩ | ⟨untrusted, -, hf⟩
            · exact .inl (by rw [trusted])
            · rw [untrusted]
              refine (ih he' untrusted hf).imp id ?_
              rintro ⟨top, hm, htop⟩
              exact ⟨top, List.mem_cons_of_mem _ hm, htop⟩

/-- A chain that ends where the other walk goes on by name leads to no trusted certificate, and that
walk does. -/
theorem Discovered.trustedAbove_of_top (hd : Discovered sources config t date c)
    (htell : sources.TellsByEncoding t)
    (he : c.entryAt? h = some e) (hm : top ∈ c.chainFrom n (some h)) (hu : top.isTrusted = false)
    (hr : c.recordedIssuer? top.certificate = none) (hab : c.TrustedAbove top.certificate a) :
    c.TrustedAbove e.certificate a ∧ ∀ b ∈ c.chainFrom n (some h), b.isTrusted = false := by
  induction n generalizing h e with
  | zero => cases hm
  | succ n ih =>
      rw [chainFrom_succ he] at hm ⊢
      rcases List.mem_cons.1 hm with rfl | hm
      · -- this is the end
        rw [hd.filed.next?_eq he, hr, Option.bind_none, chainFrom_none]
        exact ⟨hab, by simpa using hu⟩
      · obtain ⟨j, hn, hhead⟩ := entryAt?_of_chainFrom (List.ne_nil_of_mem hm)
        have htop : e.isTrusted = false := by
          by_contra htrusted
          rw [hd.next?_of_trusted he (Bool.not_eq_false _ ▸ htrusted)] at hn
          cases hn
        rw [hn] at hm hhead ⊢
        cases he' : c.entryAt? j with
        | none =>
            rw [he', List.head?_eq_none_iff] at hhead
            rw [hhead] at hm
            cases hm
        | some e' =>
            obtain ⟨hab', huntrusted⟩ := ih he' hm
            obtain ⟨issuer, another⟩ := hd.issuerWithin?_of_next? htell he he' hn
            have hu' := huntrusted e' (List.mem_of_mem_head? (hhead.trans he'))
            exact ⟨.further issuer hu' another hab', by simpa [htop] using huntrusted⟩

/-! ## From the target -/

section

variable (hd : Discovered sources config (.certificate x) date c)
include hd

theorem Discovered.mem_certificates : x ∈ c.certificates :=
  mem_certificates_of_entryAt? hd.chain_of_certificate.2

/-- The target is not trusted, so what the chain leads to is above it. -/
theorem Discovered.find?_chain :
    c.chain.find? (·.isTrusted) = (c.chainFrom c.size (c.next? target)).find? (·.isTrusted) := by
  obtain ⟨hchain, hfirst⟩ := hd.chain_of_certificate
  have hother : (Entry.plain x .other).isTrusted = false := rfl
  rw [hchain, chainFrom_succ hfirst, List.find?_cons, hother]

theorem Discovered.trustedParent?_of_find? (htell : sources.TellsByEncoding (.certificate x))
    (hf : c.chain.find? (·.isTrusted) = some a) : c.trustedParent? x = some a := by
  rw [hd.find?_chain] at hf
  exact trustedAncestor?_mono (hd.trustedAncestor?_of_find? htell hd.chain_of_certificate.2 hf)
    (Nat.le_succ _)

theorem Discovered.find?_or_detours (hf : c.trustedParent? x = some a) :
    c.chain.find? (·.isTrusted) = some a ∨ c.Detours := by
  obtain ⟨hchain, hfirst⟩ := hd.chain_of_certificate
  rw [hd.find?_chain]
  refine (hd.find?_or_top hfirst rfl (trustedAncestor?_size hf hd.mem_certificates)).imp id ?_
  rintro ⟨top, hm, untrusted, noIssuer, above⟩
  exact .intro (hchain ▸ mem_chainFrom_succ hm) untrusted noIssuer above

theorem Discovered.trustedParent?_of_detours (htell : sources.TellsByEncoding (.certificate x))
    (hdet : c.Detours) :
    c.chain.find? (·.isTrusted) = none ∧ ∃ a, c.trustedParent? x = some a := by
  obtain ⟨hm, untrusted, noIssuer, above⟩ := hdet
  obtain ⟨hchain, hfirst⟩ := hd.chain_of_certificate
  obtain ⟨habove, hnone⟩ :=
    hd.trustedAbove_of_top htell hfirst (hchain ▸ hm) untrusted noIssuer above
  rw [← hchain] at hnone
  exact ⟨List.find?_eq_none.2 (by simpa using hnone), _,
    (trustedParent?_eq_some_iff hd.mem_certificates).2 habove⟩

end

/-- **The trusted parent of a target is the trusted certificate its chain leads to, exactly unless
the chain detours.** A chain that leads to one does not, so a service is named for an anchored chain
or after a detour. -/
theorem trustedParent?_eq_find?_iff (x : Certificate) (date : Instant) (sources : Sources)
    (config : Config) (htell : sources.TellsByEncoding (.certificate x)) :
    ∃ c, (ofTarget (.certificate x) date).discover sources config = .ok c ∧
      (∀ a, c.chain.find? (·.isTrusted) = some a → c.trustedParent? x = some a) ∧
      (c.trustedParent? x = c.chain.find? (·.isTrusted) ↔ ¬ c.Detours) ∧
      ((Qualification.of (some x) (some c)).service.isSome = true →
        (∃ e ∈ c.chain, e.isTrusted = true) ∨ c.Detours) := by
  obtain ⟨c, hc, hd⟩ := exists_discovered (.certificate x) date sources config
  refine ⟨c, hc, fun a => hd.trustedParent?_of_find? htell, ⟨?_, ?_⟩, ?_⟩
  · intro heq hdet
    obtain ⟨hnone, a, ha⟩ := hd.trustedParent?_of_detours htell hdet
    rw [ha, hnone] at heq
    cases heq
  · intro hno
    cases hp : c.trustedParent? x with
    | some a => exact ((hd.find?_or_detours hp).resolve_right hno).symm
    | none =>
        cases hf : c.chain.find? (·.isTrusted) with
        | none => rfl
        | some a => rw [← hp, hd.trustedParent?_of_find? htell hf]
  · intro hservice
    obtain ⟨service, hs⟩ := Option.isSome_iff_exists.1 hservice
    obtain ⟨a, ha, -⟩ := Option.bind_eq_some_iff.1 hs
    refine (hd.find?_or_detours ha).imp ?_ id
    intro hf
    exact ⟨a, List.mem_of_find?_eq_some hf, List.find?_some hf⟩

end Context

namespace Specimen

open Context

theorem tellsByEncoding_leaf : sources.TellsByEncoding (.certificate leaf) := by
  intro a b ha hb hsame
  exact eq_of_eq_on (f := Certificate.encoding) (by decide) (knows_leaf ha) (knows_leaf hb)
    (Certificate.sameEncoding_iff.1 hsame)

/-- The leaf's chain leads to the root, and so does the search for its trusted parent. -/
theorem leaf_trustedParent : sources.TellsByEncoding (.certificate leaf) ∧
    ∃ c, (ofTarget (.certificate leaf) ⟨5⟩).discover sources {} = .ok c ∧
      c.chain.find? (·.isTrusted) = some (.plain root .trustedList) ∧
      c.trustedParent? leaf = some (.plain root .trustedList) ∧ ¬ c.Detours := by
  obtain ⟨c, hc, hfound, hiff, -⟩ :=
    trustedParent?_eq_find?_iff leaf ⟨5⟩ sources {} tellsByEncoding_leaf
  have hrun : ((ofTarget (.certificate leaf) ⟨5⟩).discover sources {}).toOption.bind
      (fun c => c.chain.find? (·.isTrusted)) = some (.plain root .trustedList) := by decide +kernel
  rw [hc] at hrun
  have hparent := hfound _ hrun
  exact ⟨tellsByEncoding_leaf, c, hc, hrun, hparent, hiff.1 (hparent.trans hrun.symm)⟩

end Specimen

namespace Namesake

open Context Specimen

/-- A CA in the root's name that the root did not issue. -/
def ca : Certificate := certificate "CN=CA" "CN=Root" 2 1 9

/-- The CA's certificate for the key of the root. -/
def cross : Certificate := { certificate "CN=Root" "CN=CA" 3 0 1 with encoding := [7] }

def leaf : Certificate := certificate "CN=Leaf" "CN=CA" 4 2 1

/-- The key of the root says that the leaf is good, and the CA stands for that key. -/
def response : OcspResponse where
  encoding := [3]
  responder := .name ⟨"CN=Root"⟩
  producedAt := ⟨0⟩
  responses := [⟨leaf.serial, .good, ⟨0⟩, none⟩]
  signed := signedWith 0
  certificates := [cross]

def service : Service := ⟨"Service", ⟨0⟩, none, []⟩

/-- The root is trusted for a service, and the CA can be had. -/
def sources : Sources where
  crypto := crypto
  trustedList := some (CertificateStore.ofEntries .trustedList [.trusted root service]).bySubject
  external := some (CertificateStore.ofEntries .other [.plain ca .other]).bySubject
  ocsp := some (.ofList [response])

theorem knows_cases {x : Certificate} (hx : sources.Knows (.certificate leaf) x) :
    x ∈ [leaf, root, ca, cross] := by
  cases hx with
  | target is => simp [Token.certificate.inj is]
  | withTarget along => cases along
  | returned returns =>
      cases returns with
      | trusted asked given | external asked given =>
          obtain rfl := Option.some.inj asked
          obtain ⟨hm, -⟩ := CertificateStore.mem_bySubject_iff.1 given
          simp [List.mem_singleton.1 hm, Entry.trusted, Entry.plain]
  | withResponse asked given along =>
      obtain rfl := Option.some.inj asked
      obtain rfl := List.mem_singleton.1 (OcspSource.mem_of_getAt_ofList given)
      simp [List.mem_singleton.1 along]

theorem tellsByEncoding : sources.TellsByEncoding (.certificate leaf) := by
  have htell : ∀ a ∈ [leaf, root, ca, cross], ∀ b ∈ [leaf, root, ca, cross],
      a.sameEncoding b = true → a = b := by decide
  intro a b ha hb
  exact htell a (knows_cases ha) b (knows_cases hb)

/-- The chain of the leaf leads to no trusted certificate, and the root and its service are found by
name. -/
theorem leaf_trustedParent_not_on_chain : sources.TellsByEncoding (.certificate leaf) ∧
    ∃ c, (ofTarget (.certificate leaf) ⟨5⟩).discover sources {} = .ok c ∧
      c.trustedParent? leaf = some (.trusted root service) ∧
      (Qualification.of (some leaf) (some c)).service = some service ∧
        ¬ ∃ e ∈ c.chain, e.isTrusted = true := by
  have hrun : ((ofTarget (.certificate leaf) ⟨5⟩).discover sources {}).toOption.any (fun c =>
      decide (c.trustedParent? leaf = some (.trusted root service)) &&
        (decide ((Qualification.of (some leaf) (some c)).service = some service) &&
          !c.chain.any (·.isTrusted))) = true := by decide +kernel
  obtain ⟨c, hc, -, htest⟩ := exists_discovered_of_any hrun
  simp only [Bool.and_eq_true, decide_eq_true_eq, Bool.not_eq_true', List.any_eq_false,
    Bool.not_eq_true] at htest
  obtain ⟨hparent, hservice, hnone⟩ := htest
  refine ⟨tellsByEncoding, c, hc, hparent, hservice, ?_⟩
  rintro ⟨e, he, htrusted⟩
  rw [hnone e he] at htrusted
  cases htrusted

end Namesake
end SignatureTrust
