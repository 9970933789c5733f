import SignatureTrust.Signature.Coverage

/-!
# `Proofs.Signature.Coverage` — what stands under an archive timestamp

What an archive timestamp is over is one run of octets without separators, so two signatures may
have the same run and different parts. It is a run of parts all the same (`archiveData_eq_flatMap`):
every reference, what the signer made, and every unsigned property that stands before, **each once
and in order**. Hence

> whoever changes exactly one part changes the run (`archiveData_ne_of_differsOnlyIn`), and what
> stands after the timestamp adds nothing to it (`archiveData_of_take_eq`).

A part is told by where it stands. One that is not there adds nothing, so to remove it is to change
its octets, unless it had none.
-/

set_option autoImplicit false

namespace SignatureTrust

/-- Where a part of what an archive timestamp is over stands. -/
inductive ArchivePart where
  | reference (position : Nat)
  | signedInfo
  | signatureValue
  | keyInfo
  | unsigned (position : Nat)
deriving DecidableEq, Repr

/-- An element that an archive timestamp is over: its identifier, and what it adds to the octets. -/
structure CoveredElement where
  id : Option String
  octets : Octets
deriving DecidableEq, Repr

namespace Signature

variable {s s' : Signature} {position : Nat} {t : TimestampElement}

/-- The elements that an archive timestamp at a position is over. -/
def coveredElements (s : Signature) (position : Nat) : List CoveredElement :=
  s.references.map (fun r => ⟨r.id, r.data⟩) ++
    [⟨s.signedInfo.id, s.signedInfo.canonical⟩, ⟨s.value.id, s.value.canonical⟩] ++
    s.keyInfo.toList.map (fun k => ⟨k.id, k.canonical⟩) ++
    (s.unsigned.take position).map fun p => ⟨p.id, p.canonical⟩

/-- **The octets under an archive timestamp are those of the elements it is over, each once and in
order.** -/
theorem archiveData_eq_flatMap (s : Signature) (position : Nat) :
    s.archiveData position = (s.coveredElements position).flatMap (·.octets) := by
  unfold archiveData coveredElements
  cases s.keyInfo <;> simp [List.flatMap_map, -List.map_take]

/-! ## Part by part -/

/-- What a part adds to the octets under an archive timestamp at a position; nothing, where there is
no such part. -/
def archivedOctets (s : Signature) (position : Nat) : ArchivePart → Octets
  | .reference i => (s.references.map (·.data)).getD i []
  | .signedInfo => s.signedInfo.canonical
  | .signatureValue => s.value.canonical
  | .keyInfo => (s.keyInfo.map (·.canonical)).getD []
  | .unsigned i => ((s.unsigned.take position).map (·.canonical)).getD i []

/-- Of what an archive timestamp at a position is over, another signature has exactly one part
otherwise. -/
structure DiffersOnlyIn (s s' : Signature) (position : Nat) (part : ArchivePart) : Prop where
  differs : s.archivedOctets position part ≠ s'.archivedOctets position part
  same : ∀ other, other ≠ part →
    s.archivedOctets position other = s'.archivedOctets position other

theorem flatten_eq_getD_append (xs : List Octets) :
    xs.flatten = xs.getD 0 [] ++ xs.tail.flatten := by
  cases xs <;> rfl

theorem getD_tail (xs : List Octets) (i : Nat) : xs.tail.getD i [] = xs.getD (i + 1) [] := by
  cases xs <;> rfl

theorem flatten_congr {xs ys : List Octets} (h : ∀ i, xs.getD i [] = ys.getD i []) :
    xs.flatten = ys.flatten := by
  induction xs generalizing ys with
  | nil =>
      refine (List.flatten_eq_nil_iff.2 fun y hy => ?_).symm
      obtain ⟨i, hi, rfl⟩ := List.mem_iff_getElem.1 hy
      simpa [hi] using (h i).symm
  | cons x xs ih =>
      have htail : xs.flatten = ys.tail.flatten := ih fun i => by
        rw [getD_tail]
        exact h (i + 1)
      have hhead : x = ys.getD 0 [] := h 0
      rw [List.flatten_cons, htail, hhead, ← flatten_eq_getD_append]

/-- Lists that differ in one place have different concatenations: what is before that place is the
same, and what is after. -/
theorem flatten_ne {xs ys : List Octets} {i : Nat} (hi : xs.getD i [] ≠ ys.getD i [])
    (hother : ∀ j, j ≠ i → xs.getD j [] = ys.getD j []) : xs.flatten ≠ ys.flatten := by
  induction i generalizing xs ys with
  | zero =>
      have htail : xs.tail.flatten = ys.tail.flatten := flatten_congr fun j => by
        rw [getD_tail, getD_tail]
        exact hother (j + 1) (Nat.succ_ne_zero j)
      rw [flatten_eq_getD_append xs, flatten_eq_getD_append ys, htail]
      exact fun h => hi (List.append_cancel_right h)
  | succ i ih =>
      have hhead : xs.getD 0 [] = ys.getD 0 [] := hother 0 (Nat.succ_ne_zero i).symm
      rw [← getD_tail, ← getD_tail] at hi
      have htail : xs.tail.flatten ≠ ys.tail.flatten := ih hi fun j hj => by
        rw [getD_tail, getD_tail]
        exact hother (j + 1) fun h => hj (Nat.succ.inj h)
      rw [flatten_eq_getD_append xs, flatten_eq_getD_append ys, hhead]
      exact fun h => htail (List.append_cancel_left h)

theorem archiveData_eq_parts (s : Signature) (position : Nat) :
    s.archiveData position = (s.references.map (·.data)).flatten ++
      s.archivedOctets position .signedInfo ++
      s.archivedOctets position .signatureValue ++ s.archivedOctets position .keyInfo ++
      ((s.unsigned.take position).map (·.canonical)).flatten := by
  unfold archiveData
  cases h : s.keyInfo <;> simp [archivedOctets, h, List.flatMap_def, -List.map_take]

namespace DiffersOnlyIn

variable {part : ArchivePart}

theorem references_eq (h : s.DiffersOnlyIn s' position part)
    (hpart : ∀ i, part ≠ .reference i) :
    (s.references.map (·.data)).flatten = (s'.references.map (·.data)).flatten :=
  flatten_congr fun i => h.same (.reference i) (hpart i).symm

theorem unsigned_eq (h : s.DiffersOnlyIn s' position part) (hpart : ∀ i, part ≠ .unsigned i) :
    ((s.unsigned.take position).map (·.canonical)).flatten =
      ((s'.unsigned.take position).map (·.canonical)).flatten :=
  flatten_congr fun i => h.same (.unsigned i) (hpart i).symm

end DiffersOnlyIn

/-- **A change of one part changes what an archive timestamp is over.** -/
theorem archiveData_ne_of_differsOnlyIn {part : ArchivePart}
    (h : s.DiffersOnlyIn s' position part) :
    s.archiveData position ≠ s'.archiveData position := by
  have hdiffers := h.differs
  rw [archiveData_eq_parts, archiveData_eq_parts]
  cases part with
  | reference i =>
      have hreferences := flatten_ne hdiffers fun j hj => h.same (.reference j) (by simpa using hj)
      rw [h.same .signedInfo nofun, h.same .signatureValue nofun, h.same .keyInfo nofun,
        h.unsigned_eq nofun]
      simpa using hreferences
  | signedInfo =>
      rw [h.references_eq nofun, h.same .signatureValue nofun, h.same .keyInfo nofun,
        h.unsigned_eq nofun]
      simpa using hdiffers
  | signatureValue =>
      rw [h.references_eq nofun, h.same .signedInfo nofun, h.same .keyInfo nofun,
        h.unsigned_eq nofun]
      simpa using hdiffers
  | keyInfo =>
      rw [h.references_eq nofun, h.same .signedInfo nofun, h.same .signatureValue nofun,
        h.unsigned_eq nofun]
      simpa using hdiffers
  | unsigned i =>
      have hunsigned := flatten_ne hdiffers fun j hj => h.same (.unsigned j) (by simpa using hj)
      rw [h.references_eq nofun, h.same .signedInfo nofun, h.same .signatureValue nofun,
        h.same .keyInfo nofun]
      simpa [-List.map_take] using hunsigned

/-! ## What stands after -/

theorem archiveTimestamp?_eq_some_iff {p : UnsignedProperty} :
    p.archiveTimestamp? = some t ↔ p = .archiveTimestamp t := by
  cases p <;> simp [UnsignedProperty.archiveTimestamp?]

theorem mem_archiveTimestamps_iff :
    (position, t) ∈ s.archiveTimestamps ↔
      s.unsigned[position]? = some (.archiveTimestamp t) := by
  rw [archiveTimestamps, List.mem_filterMap]
  constructor
  · rintro ⟨⟨p, i⟩, hmem, hfound⟩
    obtain ⟨u, hu, heq⟩ := Option.map_eq_some_iff.1 hfound
    obtain ⟨rfl, rfl⟩ := Prod.mk.inj heq
    rw [archiveTimestamp?_eq_some_iff.1 hu] at hmem
    exact List.mem_zipIdx_iff_getElem?.1 hmem
  · intro h
    exact ⟨(.archiveTimestamp t, position), List.mem_zipIdx_iff_getElem?.2 h, rfl⟩

/-- What stands after a position adds nothing to what an archive timestamp there is over. -/
theorem archiveData_of_take_eq (hcore : s'.toSignatureCore = s.toSignatureCore)
    (htake : s'.unsigned.take position = s.unsigned.take position) :
    s'.archiveData position = s.archiveData position := by
  unfold archiveData
  rw [hcore, htake]

end Signature

namespace Specimen

/-- Octets are their own digest, and every signature is right. -/
def plain : Crypto where
  digest _ octets := octets
  verifies _ _ := true

/-- A timestamp whose imprint is the octets it is over. -/
def stampOver (octets : Octets) (includes : List String) : TimestampElement where
  id := none
  includes := includes
  token := {
    encoding := [0]
    generatedAt := ⟨0⟩
    imprint := ⟨DigestAlgorithm.sha256.oid, octets⟩
    signerIssuer := ⟨""⟩
    signerSerial := ⟨[]⟩
    signed := ⟨[], .other "", []⟩
    certificates := [] }

/-- A signature over nothing, of which only the value has an identifier. -/
def withUnsigned (unsigned : List UnsignedProperty) : Signature where
  id := none
  signedInfo := ⟨none, "", [1]⟩
  references := []
  value := ⟨some "value", [2], [2]⟩
  keyInfo := none
  signedProperties := none
  unsignedId := none
  unsigned := unsigned

end Specimen
end SignatureTrust
