import SignatureTrust.Proofs.Discovery.Run

/-!
# `Proofs.Discovery.Requests` — what callers can do to a context

Nobody but discovery has to fill a context. Its callers add tokens and certificates, put resolutions
on record that they came by elsewhere, and let discovery run in between, with other sources if they
like (`Request`). A request can be refused, and then nothing has happened (`after`). Whatever the
order, each request is a few of the changes of `Step`, so what these keep holds after any number of
requests (`afterAll_keeps`), and first of all that a context only grows:

> A handle keeps its token, a resolution is recorded once, a key is filed once; **a refusal has one
> of two reasons**, no token at the handle or a resolution that is there already
> (`requests_append_only`).

A resolution that a caller records is not looked at. It may name handles that lead nowhere, and a
status of another certificate; what later files say of grounds (`Grounded`) they say of contexts
that discovery alone has filled.
-/

set_option autoImplicit false

namespace SignatureTrust

/-- What a caller asks of a context. -/
inductive Request where
  | addToken (t : Token)
  | addEntry (e : Entry)
  | record (h : Handle) (r : Resolution)
  | discover (sources : Sources) (config : Config)

namespace Context

variable {c c' : Context} {h : Handle} {s : Slot} {r : Resolution} {t : Token}

/-- What a request makes of a context, unless it is refused. -/
def grant (c : Context) : Request → Except ContextError Context
  | .addToken t => .ok (c.addToken t).2
  | .addEntry e => .ok (c.addEntry e).2
  | .record h r => c.record h r
  | .discover sources config => c.discover sources config

/-- The context after a request. One that is refused leaves it as it was. -/
def after (c : Context) (q : Request) : Context := (c.grant q).toOption.getD c

def afterAll (c : Context) (qs : List Request) : Context := qs.foldl after c

theorem after_of_error {q : Request} {e : ContextError} (hq : c.grant q = .error e) :
    c.after q = c := by
  rw [after, hq]
  rfl

theorem after_of_ok {q : Request} (hq : c.grant q = .ok c') : c.after q = c' := by
  rw [after, hq]
  rfl

/-! ## What requests keep -/

theorem after_keeps {P : Context → Prop} (hP : ∀ {a b : Context}, P a → Step a b → P b)
    (hc : P c) (q : Request) :
    P (c.after q) := by
  cases q with
  | addToken t => exact hP hc (.insert c t .other none)
  | addEntry e => exact hP hc (.insert c (.certificate e.certificate) e.provenance e.service)
  | record h r =>
      cases hr : c.record h r with
      | ok c' =>
          rw [after_of_ok (q := .record h r) hr]
          exact hP hc (.record hr)
      | error e =>
          rw [after_of_error (q := .record h r) hr]
          exact hc
  | discover sources config =>
      obtain ⟨c', hd, hreach⟩ := reaches_of_discover sources config c
      rw [after_of_ok (q := .discover sources config) hd]
      exact hreach.keeps (P := P) (fun ha hch => hP ha hch.step) hc

/-- **What every change keeps, any requests keep.** -/
theorem afterAll_keeps {P : Context → Prop} (hP : ∀ {a b : Context}, P a → Step a b → P b)
    (hc : P c) (qs : List Request) : P (c.afterAll qs) := by
  induction qs generalizing c with
  | nil => exact hc
  | cons q qs ih => exact ih (after_keeps hP hc q)

theorem grows_afterAll (c : Context) (qs : List Request) : Grows c (c.afterAll qs) :=
  afterAll_keeps (P := Grows c) (fun hg hs => hg.trans hs.grows) (.refl c) qs

theorem filed_afterAll (hf : c.Filed) (qs : List Request) : (c.afterAll qs).Filed :=
  afterAll_keeps (P := Filed) Filed.step hf qs

theorem filed_ofTarget (t : Token) (date : Instant) : (ofTarget t date).Filed :=
  (filed_empty date).step (.insert (empty date) t .other none)

/-! ## What is there already -/

theorem Filed.insert_of_key {p : Provenance} {v : Option Service} (hf : c.Filed)
    (hs : c.slot? h = some s) (hk : s.token.key = t.key) : c.insert t p v = (h, c) := by
  have hthere : c.handleOf? t = some h := (hf _ h).2 ⟨s, hs, hk⟩
  rw [insert, hthere]

/-- The handle that is given for a token designates one with its key. -/
theorem Filed.slot_of_insert {p : Provenance} {v : Option Service} (hf : c.Filed) :
    ∃ s, (c.insert t p v).2.slot? (c.insert t p v).1 = some s ∧ s.token.key = t.key :=
  (hf.step (.insert c t p v)).slot_of_handleOf? handleOf?_insert

/-- Recording is refused for one of two reasons. -/
theorem record_eq_error_iff {e : ContextError} : c.record h r = .error e ↔
    e = .unknownToken h ∧ c.slot? h = none ∨ e = .alreadyRecorded h ∧
      (c.resolutionAt? h).isSome = true := by
  unfold record resolutionAt?
  cases hs : c.slot? h with
  | none => simp [eq_comm]
  | some s =>
      cases hr : s.resolution with
      | none => simp [hr]
      | some _ => simp [hr, eq_comm]

theorem resolutionAt?_of_record (hr : c.record h r = .ok c') : c'.resolutionAt? h = some r := by
  obtain ⟨s, hs, -, rfl⟩ := record_eq_ok_iff.1 hr
  simp [resolutionAt?, slot?_settled_self hs]

/-- **Requests only add.** Of any context that requests can make of a target, whatever is there is
there after further requests, where it was; a token or a certificate whose key is there is not added
but found; and a resolution is recorded unless there is no token or one with a resolution, in which
case nothing changes. -/
theorem requests_append_only (t : Token) (date : Instant) (earlier later : List Request) :
    let c := (ofTarget t date).afterAll earlier
    Grows c (c.afterAll later) ∧
    -- a handle is given for each token that is added, and the same one again for its key
    (∀ u : Token, ∃ s, (c.addToken u).2.slot? (c.addToken u).1 = some s ∧
      s.token.key = u.key) ∧
    (∀ (u : Token) (h : Handle) (s : Slot), c.slot? h = some s → s.token.key = u.key →
      c.addToken u = (h, c)) ∧
    (∀ e : Entry, ∃ s, (c.addEntry e).2.slot? (c.addEntry e).1 = some s ∧
      s.token.key = (Token.certificate e.certificate).key) ∧
    (∀ (e : Entry) (h : Handle) (s : Slot), c.slot? h = some s →
      s.token.key = (Token.certificate e.certificate).key → c.addEntry e = (h, c)) ∧
    -- a resolution is recorded for good, or refused
    (∀ (h : Handle) (r : Resolution) (c' : Context), c.record h r = .ok c' →
      (c'.afterAll later).resolutionAt? h = some r) ∧
    (∀ (h : Handle) (r : Resolution) (e : ContextError), c.record h r = .error e ↔
      e = .unknownToken h ∧ c.slot? h = none ∨ e = .alreadyRecorded h ∧
        (c.resolutionAt? h).isSome = true) ∧
    ∀ (h : Handle) (r : Resolution) (e : ContextError), c.record h r = .error e →
      c.after (.record h r) = c := by
  intro c
  have hf : c.Filed := filed_afterAll (filed_ofTarget t date) earlier
  refine ⟨grows_afterAll c later, fun _ => hf.slot_of_insert, fun _ _ _ hs hk =>
    hf.insert_of_key hs hk, fun _ => hf.slot_of_insert, fun _ _ _ hs hk => hf.insert_of_key hs hk,
    ?_, fun _ _ _ => record_eq_error_iff, ?_⟩
  · intro h r c' hr
    exact (grows_afterAll c' later).resolutionAt? (resolutionAt?_of_record hr)
  · intro h r e he
    exact after_of_error (q := .record h r) he

end Context
end SignatureTrust
