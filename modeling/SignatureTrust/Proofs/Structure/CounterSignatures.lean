import Mathlib.Data.List.Lex
import SignatureTrust.Structure.Examination

/-!
# `Proofs.Structure.CounterSignatures` — is every counter-signature linked to what it stands in?

A counter-signature is an unsigned property and a signature again, with counter-signatures of its
own. What it has to refer to is the value of the signature that it stands in **directly**, never
that of one further out. The check walks the tree, and what it walks is said here without it: a
counter-signature stands at a path, the positions that lead to it, in a parent
(`Signature.StandsAt`). In the order of their paths, what is inside a counter-signature comes right
after it and before whatever stands behind it, so this is the order of the document.

> **The check names the counter-signatures that do not countersign their parent, each once and in
> this order** (`unlinked_counterSignatures_reported_in_order`).

The proof enumerates all of them first (`Signature.places`). The check is that enumeration without
those that are linked.
-/

set_option autoImplicit false

namespace SignatureTrust

/-- A counter-signature refers to the signature value of its parent by its identifier, and as a
counter-signature if it says as what. -/
def SignatureCore.Countersigns (counter parent : SignatureCore) : Prop :=
  ∃ id, parent.value.id = some id ∧
    ∃ r ∈ counter.references, r.uri = "#" ++ id ∧
      (r.type = none ∨ r.type = some DataReference.countersignedType)

/-- A counter-signature stands in a signature, directly in a parent. Its path is, from the outside
in, the positions among the unsigned properties of what leads to it and then its own. -/
inductive Signature.StandsAt : Signature → List Nat → SignatureCore → SignatureCore → Prop
  | here {s t : Signature} {canonical : Octets} {i : Nat}
      (there : s.unsigned[i]? = some (.counterSignature t canonical)) :
      StandsAt s [i] s.toSignatureCore t.toSignatureCore
  | inside {s t : Signature} {canonical : Octets}
      {i : Nat} {path : List Nat} {parent counter : SignatureCore}
      (there : s.unsigned[i]? = some (.counterSignature t canonical))
      (deeper : StandsAt t path parent counter) :
      StandsAt s (i :: path) parent counter

/-- A counter-signature with its path and its parent. -/
structure CounterSigning where
  path : List Nat
  parent : SignatureCore
  counter : SignatureCore

namespace CounterSigning

/-- The same, seen from one signature further out. -/
def under (i : Nat) (p : CounterSigning) : CounterSigning := { p with path := i :: p.path }

/-- The failure that names a counter-signature. -/
def failure (p : CounterSigning) : Structure.Failure where
  check := .counterSignatureReferences
  message := match p.parent.value.id with
    | none => "parent SignatureValue has no Id"
    | some id => "no Reference to parent SignatureValue '" ++ id ++ "'"
  location := some (match p.counter.id with
    | none => "CounterSignature"
    | some id => "CounterSignature '" ++ id ++ "'")

end CounterSigning

/-! ## Where counter-signatures stand -/

namespace Signature

mutual

/-- All counter-signatures in a signature, each before those inside it. -/
def places : Signature → List CounterSigning
  | ⟨core, unsigned⟩ => placesFrom core 0 unsigned

/-- Those in the unsigned properties from a position on. -/
def placesFrom (core : SignatureCore) (i : Nat) : List UnsignedProperty → List CounterSigning
  | [] => []
  | .counterSignature t _ :: rest =>
      ⟨[i], core, t.toSignatureCore⟩ :: t.places.map (.under i) ++ placesFrom core (i + 1) rest
  | _ :: rest => placesFrom core (i + 1) rest

end

variable {s t : Signature} {core : SignatureCore} {i : Nat} {ps : List UnsignedProperty}
  {p : CounterSigning}

/-- A counter-signature at a position, and what is inside it. -/
def placesAt (core : SignatureCore) (i : Nat) (p : UnsignedProperty) : List CounterSigning :=
  match p.counterSignature? with
  | some t => ⟨[i], core, t.toSignatureCore⟩ :: t.places.map (.under i)
  | none => []

theorem placesFrom_cons (p : UnsignedProperty) :
    placesFrom core i (p :: ps) = placesAt core i p ++ placesFrom core (i + 1) ps := by
  cases p <;> rfl

theorem placesFrom_eq_flatMap :
    placesFrom core i ps = (ps.zipIdx i).flatMap fun (p, k) => placesAt core k p := by
  induction ps generalizing i with
  | nil => rfl
  | cons p ps ih => rw [placesFrom_cons, ih, List.zipIdx_cons, List.flatMap_cons]

theorem mem_placesAt_iff {q : UnsignedProperty} :
    p ∈ placesAt core i q ↔ ∃ t canonical, q = .counterSignature t canonical ∧
      (p = ⟨[i], core, t.toSignatureCore⟩ ∨ ∃ inner ∈ t.places, inner.under i = p) := by
  cases q <;> simp [placesAt, UnsignedProperty.counterSignature?]

theorem mem_places_iff :
    p ∈ s.places ↔ ∃ i t canonical, s.unsigned[i]? = some (.counterSignature t canonical) ∧
      (p = ⟨[i], s.toSignatureCore, t.toSignatureCore⟩ ∨
        ∃ inner ∈ t.places, inner.under i = p) := by
  obtain ⟨core, unsigned⟩ := s
  rw [places, placesFrom_eq_flatMap, List.mem_flatMap]
  constructor
  · rintro ⟨⟨q, i⟩, hq, hp⟩
    obtain ⟨t, canonical, rfl, hthere⟩ := mem_placesAt_iff.1 hp
    exact ⟨i, t, canonical, List.mem_zipIdx_iff_getElem?.1 hq, hthere⟩
  · rintro ⟨i, t, canonical, hq, hthere⟩
    exact ⟨(_, i), List.mem_zipIdx_iff_getElem?.2 hq,
      mem_placesAt_iff.2 ⟨t, canonical, rfl, hthere⟩⟩

theorem standsAt_of_mem_places (h : p ∈ s.places) : s.StandsAt p.path p.parent p.counter := by
  obtain ⟨path, parent, counter⟩ := p
  -- along the path: what is inside a counter-signature has a shorter one there
  induction path generalizing s with
  | nil =>
      obtain ⟨_, _, _, _, heq | ⟨_, _, heq⟩⟩ := mem_places_iff.1 h <;> cases heq
  | cons i path ih =>
      obtain ⟨_, t, _, hthere, heq | ⟨inner, hinner, heq⟩⟩ := mem_places_iff.1 h
      · cases heq
        exact .here hthere
      · cases heq
        exact .inside hthere (ih hinner)

theorem StandsAt.mem_places {path : List Nat} {parent counter : SignatureCore}
    (h : s.StandsAt path parent counter) :
    ⟨path, parent, counter⟩ ∈ s.places := by
  induction h with
  | here hthere => exact mem_places_iff.2 ⟨_, _, _, hthere, .inl rfl⟩
  | inside hthere _ ih => exact mem_places_iff.2 ⟨_, _, _, hthere, .inr ⟨_, ih, rfl⟩⟩

/-- The enumeration is of the counter-signatures that stand in the signature. -/
theorem mem_places_iff_standsAt : p ∈ s.places ↔ s.StandsAt p.path p.parent p.counter :=
  ⟨standsAt_of_mem_places, StandsAt.mem_places⟩

/-! ## The order of the document -/

theorem path_of_mem_placesAt {q : UnsignedProperty} (h : p ∈ placesAt core i q) :
    ∃ path, p.path = i :: path := by
  obtain ⟨t, _, _, rfl | ⟨inner, _, rfl⟩⟩ := mem_placesAt_iff.1 h
  · exact ⟨[], rfl⟩
  · exact ⟨inner.path, rfl⟩

theorem path_of_mem_placesFrom (h : p ∈ placesFrom core i ps) :
    ∃ k path, i ≤ k ∧ p.path = k :: path := by
  rw [placesFrom_eq_flatMap] at h
  obtain ⟨⟨q, k⟩, hq, hp⟩ := List.mem_flatMap.1 h
  obtain ⟨path, hpath⟩ := path_of_mem_placesAt hp
  exact ⟨k, path, List.le_snd_of_mem_zipIdx hq, hpath⟩

theorem path_ne_nil_of_mem_places (h : p ∈ s.places) : p.path ≠ [] := by
  obtain ⟨core, unsigned⟩ := s
  obtain ⟨k, path, -, hpath⟩ := path_of_mem_placesFrom h
  rw [hpath]
  exact List.cons_ne_nil k path

/-- Whatever is at a position comes before whatever is at a later one. -/
theorem path_lt_of_mem {q : UnsignedProperty} {r : CounterSigning} (hp : p ∈ placesAt core i q)
    (hr : r ∈ placesFrom core (i + 1) ps) : p.path < r.path := by
  obtain ⟨path, hpath⟩ := path_of_mem_placesAt hp
  obtain ⟨k, later, hk, hlater⟩ := path_of_mem_placesFrom hr
  rw [hpath, hlater, List.cons_lt_cons_iff]
  exact .inl hk

theorem pairwise_placesAt (canonical : Octets) (h : t.places.Pairwise (·.path < ·.path)) :
    (placesAt core i (.counterSignature t canonical)).Pairwise (·.path < ·.path) := by
  apply List.pairwise_cons.2
  constructor
  · intro q hq
    obtain ⟨inner, hinner, rfl⟩ := List.mem_map.1 hq
    obtain ⟨k, path, hpath⟩ := List.exists_cons_of_ne_nil (path_ne_nil_of_mem_places hinner)
    show [i] < i :: inner.path
    rw [hpath, List.cons_lt_cons_iff]
    exact .inr ⟨rfl, List.nil_lt_cons k path⟩
  · apply List.pairwise_map.2
    apply h.imp
    intro q r hqr
    exact List.cons_lt_cons_iff.2 (.inr ⟨rfl, hqr⟩)

mutual

/-- Each counter-signature is enumerated before those inside it, and these before what stands behind
it. -/
theorem pairwise_places : ∀ s : Signature, s.places.Pairwise (·.path < ·.path)
  | ⟨core, unsigned⟩ => pairwise_placesFrom core 0 unsigned

theorem pairwise_placesFrom (core : SignatureCore) :
    ∀ (i : Nat) (ps : List UnsignedProperty), (placesFrom core i ps).Pairwise (·.path < ·.path)
  | _, [] => .nil
  | i, .counterSignature t canonical :: ps =>
      have hthere : (placesAt core i (.counterSignature t canonical)).Pairwise
          (·.path < ·.path) :=
        pairwise_placesAt canonical (pairwise_places t)
      List.pairwise_append.2 ⟨hthere, pairwise_placesFrom core (i + 1) ps,
        fun _ hp _ hr => path_lt_of_mem (q := .counterSignature t canonical) hp hr⟩
  | i, .signatureTimestamp _ :: ps | i, .certificateRefs _ :: ps | i, .revocationRefs _ :: ps
  | i, .sigAndRefsTimestamp _ :: ps | i, .refsOnlyTimestamp _ :: ps | i, .certificateValues _ :: ps
  | i, .revocationValues _ :: ps | i, .archiveTimestamp _ :: ps =>
      pairwise_placesFrom core (i + 1) ps

end

end Signature

namespace Structure

variable {s : Signature} {parent counter : SignatureCore} {p : CounterSigning}

/-! ## The check -/

theorem target?_eq_some_iff {r : DataReference} {id : String} :
    r.target? = some id ↔ r.uri = "#" ++ id := by
  have huri : r.uri = "#" ++ id ↔ r.uri.toList = '#' :: id.toList := by
    rw [← String.toList_inj, String.toList_append]
    rfl
  rw [huri]
  unfold DataReference.target?
  split
  · next rest hrest =>
      rw [hrest, Option.some_inj, List.cons_inj_right]
      exact ⟨fun h => by rw [← h, String.toList_ofList],
        fun h => by rw [h, String.ofList_toList]⟩
  · next hnone => exact iff_of_false nofun (hnone id.toList)

theorem any_countersigns_iff {id : String} :
    counter.references.any (countersigns id) = true ↔
      ∃ r ∈ counter.references, r.uri = "#" ++ id ∧
        (r.type = none ∨ r.type = some DataReference.countersignedType) := by
  rw [List.any_eq_true]
  apply exists_congr
  intro r
  apply and_congr_right
  intro _
  rw [← target?_eq_some_iff]
  unfold countersigns
  cases r.type <;> simp

/-- A counter-signature fails just if it does not countersign its parent. -/
theorem counterSignatureFailure?_eq_none_iff :
    counterSignatureFailure? parent.value counter = none ↔ counter.Countersigns parent := by
  unfold counterSignatureFailure? SignatureCore.Countersigns
  cases parent.value.id with
  | none => simp
  | some id => simp [← any_countersigns_iff]

theorem eq_failure_of_counterSignatureFailure? {f : Failure}
    (h : counterSignatureFailure? p.parent.value p.counter = some f) : f = p.failure := by
  unfold counterSignatureFailure? at h
  unfold CounterSigning.failure
  cases hid : p.parent.value.id with
  | none =>
      rw [hid] at h
      cases h
      cases p.counter.id <;> rfl
  | some id =>
      rw [hid] at h
      obtain ⟨-, h⟩ := Option.ite_none_left_eq_some.1 h
      cases h
      cases p.counter.id <;> rfl

mutual

/-- The check is the enumeration, and keeps what fails. -/
theorem counterSignatureFailures_eq : ∀ s : Signature, counterSignatureFailures s =
    s.places.flatMap fun p => (counterSignatureFailure? p.parent.value p.counter).toList
  | ⟨core, unsigned⟩ => counterSignatureFailuresIn_eq core 0 unsigned

theorem counterSignatureFailuresIn_eq (core : SignatureCore) :
    ∀ (i : Nat) (ps : List UnsignedProperty), counterSignatureFailuresIn core.value ps =
      (Signature.placesFrom core i ps).flatMap fun p =>
        (counterSignatureFailure? p.parent.value p.counter).toList
  | _, [] => rfl
  | i, .counterSignature ⟨inner, unsigned⟩ canonical :: ps => by
      rw [counterSignatureFailuresIn, counterSignatureFailures_eq ⟨inner, unsigned⟩,
        counterSignatureFailuresIn_eq core (i + 1) ps, Signature.placesFrom, List.flatMap_append,
        List.flatMap_cons, List.flatMap_map]
      rfl
  | i, .signatureTimestamp _ :: ps | i, .certificateRefs _ :: ps | i, .revocationRefs _ :: ps
  | i, .sigAndRefsTimestamp _ :: ps | i, .refsOnlyTimestamp _ :: ps | i, .certificateValues _ :: ps
  | i, .revocationValues _ :: ps | i, .archiveTimestamp _ :: ps =>
      counterSignatureFailuresIn_eq core (i + 1) ps

end

/-- **The check names the counter-signatures that do not countersign what they stand in, each once
and in the order of the document.** These are, at any depth, those whose parent's value has no
identifier, or that have no reference to it as a counter-signature's. -/
theorem unlinked_counterSignatures_reported_in_order (crypto : Crypto) (s : Signature) :
    ∃ unlinked : List CounterSigning,
      Check.counterSignatureReferences.failures crypto s = unlinked.map CounterSigning.failure ∧
        unlinked.Pairwise (·.path < ·.path) ∧
        ∀ p, p ∈ unlinked ↔
          s.StandsAt p.path p.parent p.counter ∧ ¬ p.counter.Countersigns p.parent := by
  refine ⟨s.places.filter fun p => (counterSignatureFailure? p.parent.value p.counter).isSome,
    ?_, ?_, ?_⟩
  · change counterSignatureFailures s = _
    rw [counterSignatureFailures_eq, ← List.filterMap_eq_flatMap_toList,
      ← List.filterMap_eq_map, List.filterMap_filter]
    apply List.filterMap_congr
    intro p _
    cases hfailure : counterSignatureFailure? p.parent.value p.counter with
    | none => rfl
    | some f => rw [eq_failure_of_counterSignatureFailure? hfailure]; rfl
  · exact (Signature.pairwise_places s).filter _
  · intro p
    rw [List.mem_filter, Signature.mem_places_iff_standsAt, Option.isSome_iff_ne_none, ne_eq,
      counterSignatureFailure?_eq_none_iff]

end Structure
end SignatureTrust
