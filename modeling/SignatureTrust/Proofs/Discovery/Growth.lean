import Mathlib.Logic.Relation
import SignatureTrust.Discovery.Context

/-!
# `Proofs.Discovery.Growth` — a context only grows

Whatever is done to a context is one of three things: a token is inserted, a resolution is recorded,
a pass is counted (`Step`). So what holds of every context is proved for three cases, and it is
always the same three.

> **What is there stays** (`Grows`): a handle keeps its token, with provenance and service; a
> resolution, once there, is never another; a key keeps its handle.

Beside it stands what makes a handle and a key interchangeable (`Filed`): a key has a handle exactly
when the token at that handle has the key. The index is a list beside the list of tokens and nothing
in its type says so; `insert` does, because it looks before it appends.
-/

set_option autoImplicit false

namespace SignatureTrust

/-- What may become of a slot: a resolution where there was none, and nothing else. -/
structure Slot.Becomes (s s' : Slot) : Prop where
  token : s'.token = s.token
  provenance : s'.provenance = s.provenance
  service : s'.service = s.service
  resolution : ∀ {r : Resolution}, s.resolution = some r → s'.resolution = some r

theorem Slot.Becomes.refl (s : Slot) : s.Becomes s := ⟨rfl, rfl, rfl, id⟩

theorem Slot.Becomes.trans {s s' s'' : Slot} (h : s.Becomes s') (k : s'.Becomes s'') :
    s.Becomes s'' :=
  ⟨k.token.trans h.token, k.provenance.trans h.provenance, k.service.trans h.service,
    fun hr => k.resolution (h.resolution hr)⟩

theorem Slot.Becomes.sourced {s s' : Slot} (h : s.Becomes s') : s'.sourced? = s.sourced? := by
  simp only [Slot.sourced?, h.token, h.provenance, h.service]

def Token.crl? : Token → Option Crl
  | .crl c => some c
  | _ => none

def Token.ocsp? : Token → Option OcspResponse
  | .ocsp r => some r
  | _ => none

theorem Token.eq_of_certificate? {t : Token} {x : Certificate} (h : t.certificate? = some x) :
    t = .certificate x := by
  cases t <;> simp_all [Token.certificate?]

namespace Context

variable {c c' : Context} {t : Token} {p : Provenance} {v : Option Service} {h : Handle}
  {k : TokenKey}

/-! ## Slots and certificates -/

theorem slot_of_entryAt? {e : Entry} (he : c.entryAt? h = some e) :
    ∃ s, c.slot? h = some s ∧ s.token = .certificate e.certificate ∧
      s.provenance = e.provenance := by
  obtain ⟨s, hs, hse⟩ := Option.bind_eq_some_iff.1 he
  obtain ⟨x, hx, rfl⟩ := Option.map_eq_some_iff.1 hse
  exact ⟨s, hs, Token.eq_of_certificate? hx, rfl⟩

theorem entryAt?_of_slot {s : Slot} {x : Certificate} (hs : c.slot? h = some s)
    (ht : s.token = .certificate x) :
    c.entryAt? h = some ⟨x, s.provenance, s.service⟩ := by
  simp [entryAt?, hs, Slot.sourced?, ht, Token.certificate?]

/-! ## Appending -/

/-- What a token adds to a collection of needed evidence: the first token, the target, adds
nothing. -/
def unlessFirst {α : Type} (c : Context) (x : Option α) : List α :=
  if c.slots.length = 0 then [] else x.toList

theorem append_eq : c.append t p v = { c with
    slots := c.slots ++ [⟨t, p, v, onArrival t p⟩]
    index := c.index ++ [(t.key, ⟨c.slots.length⟩)]
    neededCertificates :=
      c.neededCertificates ++ c.unlessFirst (t.certificate?.map fun _ => ⟨c.slots.length⟩)
    neededCrls := c.neededCrls ++ c.unlessFirst t.crl?
    neededOcsps := c.neededOcsps ++ c.unlessFirst t.ocsp? } := by
  unfold append unlessFirst
  cases t <;> dsimp only <;> split <;> simp [Token.certificate?, Token.crl?, Token.ocsp?]

theorem slot?_append_of_some {s : Slot} (hs : c.slot? h = some s) :
    (c.append t p v).slot? h = some s := by
  simp only [slot?, append_eq] at hs ⊢
  obtain ⟨hlt, _⟩ := List.getElem?_eq_some_iff.1 hs
  rw [List.getElem?_append_left hlt, hs]

theorem slot?_append_new :
    (c.append t p v).slot? ⟨c.slots.length⟩ = some ⟨t, p, v, onArrival t p⟩ := by
  simp [slot?, append_eq]

theorem slot?_append_cases {s : Slot} (hs : (c.append t p v).slot? h = some s) :
    c.slot? h = some s ∨ (h = ⟨c.slots.length⟩ ∧ s = ⟨t, p, v, onArrival t p⟩) := by
  obtain ⟨i⟩ := h
  simp only [slot?, append_eq, List.getElem?_append] at hs
  split at hs
  · exact .inl hs
  · -- past the old slots there is room for one only
    rename_i hge
    have hi : i - c.slots.length = 0 := by
      obtain ⟨hlt, _⟩ := List.getElem?_eq_some_iff.1 hs
      simp at hlt
      omega
    rw [hi] at hs
    simp only [List.getElem?_cons_zero, Option.some.injEq] at hs
    exact .inr ⟨by congr; omega, hs.symm⟩

theorem handleOfKey?_append : (c.append t p v).handleOfKey? k =
    (c.handleOfKey? k).or (if k = t.key then some ⟨c.slots.length⟩ else none) := by
  simp only [handleOfKey?, append_eq, List.lookup_append]
  congr 1
  by_cases hk : k = t.key
  · simp [hk]
  · simp [List.lookup_cons, beq_eq_false_iff_ne.mpr hk, hk]

/-! ## Inserting -/

/-- A key that is there answers with its handle, and nothing changes; a new key goes to the end. -/
theorem insert_cases (c : Context) (t : Token) (p : Provenance) (v : Option Service) :
    (∃ h, c.handleOf? t = some h ∧ c.insert t p v = (h, c)) ∨
      (c.handleOf? t = none ∧ c.insert t p v = (⟨c.slots.length⟩, c.append t p v)) := by
  unfold insert
  cases hk : c.handleOf? t with
  | some h => exact .inl ⟨h, rfl, rfl⟩
  | none => exact .inr ⟨rfl, rfl⟩

theorem handleOf?_insert : (c.insert t p v).2.handleOf? t = some (c.insert t p v).1 := by
  rcases insert_cases c t p v with ⟨h, hk, hi⟩ | ⟨hk, hi⟩
  · rw [hi]; exact hk
  · rw [hi]
    simp only [handleOf?] at hk ⊢
    simp [handleOfKey?_append, hk]

theorem slot?_insert_of_some {s : Slot} (hs : c.slot? h = some s) :
    (c.insert t p v).2.slot? h = some s := by
  rcases insert_cases c t p v with ⟨i, _, hi⟩ | ⟨_, hi⟩
  · rw [hi]; exact hs
  · rw [hi]; exact slot?_append_of_some hs

/-! ## Recording -/

def settled (c : Context) (h : Handle) (s : Slot) (r : Resolution) : Context :=
  { c with slots := c.slots.set h.index { s with resolution := some r } }

/-- Recording succeeds exactly where a token waits, and then only its slot changes. -/
theorem record_eq_ok_iff {r : Resolution} :
    c.record h r = .ok c' ↔
      ∃ s, c.slot? h = some s ∧ s.resolution = none ∧ c' = c.settled h s r := by
  unfold record settled
  cases hs : c.slot? h with
  | none => simp
  | some s =>
      cases hr : s.resolution with
      | some _ => simp [hr]
      | none => simp [hr, eq_comm]

theorem slot?_settled_self {s : Slot} {r : Resolution} (hs : c.slot? h = some s) :
    (c.settled h s r).slot? h = some { s with resolution := some r } := by
  obtain ⟨hlt, _⟩ := List.getElem?_eq_some_iff.1 hs
  simp [slot?, settled, hlt]

theorem slot?_settled_of_ne {s : Slot} {r : Resolution} {i : Handle} (hi : i ≠ h) :
    (c.settled h s r).slot? i = c.slot? i := by
  have hne : h.index ≠ i.index := fun he => hi (by cases h; cases i; simp_all)
  simp [slot?, settled, List.getElem?_set_ne hne]

/-! ## Growing -/

inductive Step : Context → Context → Prop
  | insert (c : Context) (t : Token) (p : Provenance) (v : Option Service) :
      Step c (c.insert t p v).2
  | record {c c' : Context} {h : Handle} {r : Resolution} (hr : c.record h r = .ok c') : Step c c'
  | countPass (c : Context) : Step c { c with passes := c.passes + 1 }

/-- Everything in the first context is in the second, where it was. -/
structure Grows (c c' : Context) : Prop where
  date : c'.date = c.date
  slot : ∀ {h : Handle} {s : Slot}, c.slot? h = some s → ∃ s', c'.slot? h = some s' ∧
    s.Becomes s'
  key : ∀ {k : TokenKey} {h : Handle}, c.handleOfKey? k = some h → c'.handleOfKey? k = some h

theorem Grows.refl (c : Context) : Grows c c := ⟨rfl, fun hs => ⟨_, hs, .refl _⟩, id⟩

theorem Grows.trans {a b c : Context} (h : Grows a b) (k : Grows b c) : Grows a c where
  date := k.date.trans h.date
  slot := by
    intro i s hs
    obtain ⟨s', hs', hb⟩ := h.slot hs
    obtain ⟨s'', hs'', hb'⟩ := k.slot hs'
    exact ⟨s'', hs'', hb.trans hb'⟩
  key hk := k.key (h.key hk)

theorem Grows.append : Grows c (c.append t p v) where
  date := by rw [append_eq]
  slot hs := ⟨_, slot?_append_of_some hs, .refl _⟩
  key hk := by rw [handleOfKey?_append, hk, Option.some_or]

theorem Grows.insert : Grows c (c.insert t p v).2 := by
  rcases insert_cases c t p v with ⟨h, _, hi⟩ | ⟨_, hi⟩
  · rw [hi]; exact .refl c
  · rw [hi]; exact .append

theorem Grows.settled {s : Slot} {r : Resolution} (hs : c.slot? h = some s)
    (hr : s.resolution = none) :
    Grows c (c.settled h s r) where
  date := rfl
  slot := by
    intro i s' hi
    by_cases he : i = h
    · subst he
      obtain rfl : s = s' := Option.some.inj (hs.symm.trans hi)
      exact ⟨_, slot?_settled_self hs, rfl, rfl, rfl, fun h' => by simp [hr] at h'⟩
    · exact ⟨s', by rw [slot?_settled_of_ne he, hi], .refl s'⟩
  key := id

theorem Step.grows (hs : Step c c') : Grows c c' := by
  cases hs with
  | insert t p v => exact .insert
  | record hr =>
      obtain ⟨s, hs, hn, rfl⟩ := record_eq_ok_iff.1 hr
      exact .settled hs hn
  | countPass => exact ⟨rfl, fun hs => ⟨_, hs, .refl _⟩, id⟩

/-! ### What a larger context still says -/

theorem Grows.size_le (hg : Grows c c') : c.size ≤ c'.size := by
  apply Nat.le_of_not_lt
  intro hin
  -- the handle after the last one of the larger context would be in the smaller
  obtain ⟨s', hs', -⟩ := hg.slot (h := ⟨c'.size⟩) (List.getElem?_eq_getElem hin)
  obtain ⟨hlt', -⟩ := List.getElem?_eq_some_iff.1 hs'
  exact absurd hlt' (Nat.lt_irrefl _)

theorem Grows.targetToken? (hg : Grows c c') (hfirst : c.targetToken? = some t) :
    c'.targetToken? = some t := by
  obtain ⟨s, hs, rfl⟩ := Option.map_eq_some_iff.1 hfirst
  obtain ⟨s', hs', hb⟩ := hg.slot hs
  simp [Context.targetToken?, token?, hs', hb.token]

theorem Grows.resolutionAt? {r : Resolution} (hg : Grows c c') (hr : c.resolutionAt? h = some r) :
    c'.resolutionAt? h = some r := by
  obtain ⟨s, hs, hsr⟩ := Option.bind_eq_some_iff.1 hr
  obtain ⟨s', hs', hb⟩ := hg.slot hs
  simp [Context.resolutionAt?, hs', hb.resolution hsr]

theorem Grows.isSome_resolutionAt? (hg : Grows c c') (hr : (c.resolutionAt? h).isSome = true) :
    (c'.resolutionAt? h).isSome = true := by
  obtain ⟨r, hr⟩ := Option.isSome_iff_exists.1 hr
  exact Option.isSome_iff_exists.2 ⟨r, hg.resolutionAt? hr⟩

/-! ## Keys and handles -/

/-- The index says where the keys are: exactly where the tokens are. -/
def Filed (c : Context) : Prop :=
  ∀ (k : TokenKey) (h : Handle),
    c.handleOfKey? k = some h ↔ ∃ s, c.slot? h = some s ∧ s.token.key = k

theorem filed_empty (date : Instant) : (empty date).Filed := by
  intro k h
  simp [handleOfKey?, slot?, empty]

theorem Filed.append (hf : c.Filed) (hn : c.handleOf? t = none) : (c.append t p v).Filed := by
  intro k h
  rw [handleOfKey?_append]
  constructor
  · intro hk
    cases hold : c.handleOfKey? k with
    | some i =>
        obtain ⟨s, hs, hsk⟩ := (hf k i).1 hold
        simp only [hold, Option.some_or, Option.some.injEq] at hk
        subst hk
        exact ⟨s, slot?_append_of_some hs, hsk⟩
    | none =>
        simp only [hold, Option.none_or, Option.ite_none_right_eq_some, Option.some.injEq] at hk
        obtain ⟨rfl, rfl⟩ := hk
        exact ⟨_, slot?_append_new, rfl⟩
  · rintro ⟨s, hs, rfl⟩
    rcases slot?_append_cases hs with hs | ⟨rfl, rfl⟩
    · rw [(hf _ h).2 ⟨s, hs, rfl⟩, Option.some_or]
    · -- the key is new, so nothing in front of it hides the last line
      simp only [handleOf?] at hn
      simp [hn]

theorem Filed.step (hf : c.Filed) (hs : Step c c') : c'.Filed := by
  cases hs with
  | insert t p v =>
      rcases insert_cases c t p v with ⟨h, _, hi⟩ | ⟨hn, hi⟩
      · rw [hi]; exact hf
      · rw [hi]; exact hf.append hn
  | record hr =>
      rename_i h r
      obtain ⟨s, hs, _, rfl⟩ := record_eq_ok_iff.1 hr
      intro k i
      refine (hf k i).trans ?_
      by_cases he : i = h
      · subst he
        simp [hs, slot?_settled_self hs]
      · rw [slot?_settled_of_ne he]
  | countPass => exact hf

theorem Filed.slot_of_handleOf? (hf : c.Filed) (hk : c.handleOf? t = some h) :
    ∃ s, c.slot? h = some s ∧ s.token.key = t.key := (hf _ h).1 hk

theorem Filed.handleOf?_of_slot {s : Slot} (hf : c.Filed) (hs : c.slot? h = some s) :
    c.handleOf? s.token = some h := (hf _ h).2 ⟨s, hs, rfl⟩

/-- The certificate of a handle leads back to the handle. -/
theorem Filed.handleOf?_of_entryAt? {e : Entry} (hf : c.Filed) (he : c.entryAt? h = some e) :
    c.handleOf? (.certificate e.certificate) = some h := by
  obtain ⟨s, hs, ht, -⟩ := slot_of_entryAt? he
  rw [← ht, hf.handleOf?_of_slot hs]

/-- A certificate has one handle. -/
theorem Filed.handle_unique {i : Handle} {e e' : Entry} (hf : c.Filed) (he : c.entryAt? h = some e)
    (he' : c.entryAt? i = some e') (hsame : e.certificate = e'.certificate) : h = i := by
  have hk := hf.handleOf?_of_entryAt? he
  rw [hsame, hf.handleOf?_of_entryAt? he'] at hk
  exact (Option.some.inj hk).symm

theorem Filed.resolutionOf?_of_entryAt? {e : Entry} (hf : c.Filed) (he : c.entryAt? h = some e) :
    c.resolutionOf? (.certificate e.certificate) = c.resolutionAt? h := by
  rw [resolutionOf?, hf.handleOf?_of_entryAt? he, Option.bind_some]

end Context
end SignatureTrust
