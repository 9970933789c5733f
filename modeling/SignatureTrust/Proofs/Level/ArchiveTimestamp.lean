import SignatureTrust.Level.Assessment
import SignatureTrust.Proofs.Signature.Coverage
import SignatureTrust.Proofs.Verdict

/-!
# `Proofs.Level.ArchiveTimestamp` — an archive timestamp tells what was changed before it

An imprint is right for the octets it was made over and, if digests do not collide, for no others.
Whether it tells that a *signature* was changed is then a question of what is under the timestamp
(`Proofs.Signature.Coverage`):

> **whoever changes exactly one part before an archive timestamp makes it invalid, and whoever
> changes what stands after it leaves it as it is** (`archive_imprint_tells_changes`).

The first holds of every timestamp verifier that digests alike, since the imprint is looked at
before the signer. Level A is then invalid too. The second holds of one and the same verifier: what
stands after a timestamp may be evidence about its signer.
-/

set_option autoImplicit false

namespace SignatureTrust

variable {s s' : Signature} {position : Nat} {t : TimestampElement} {d : DigestAlgorithm}
  {covered : Octets}

/-- The imprint is the digest of some octets, with an algorithm that is known. -/
structure Imprint.IsOf (i : Imprint) (crypto : Crypto) (d : DigestAlgorithm) (covered : Octets) :
    Prop where
  supported : DigestAlgorithm.ofOid? i.algorithm = some d
  digest : crypto.digest d covered = i.digest

theorem TimestampVerifier.verify_of_digest_ne (v : TimestampVerifier) (label : String)
    (supported : DigestAlgorithm.ofOid? t.token.imprint.algorithm = some d)
    (h : v.crypto.digest d covered ≠ t.token.imprint.digest) :
    (v.verify label t covered).indication = .invalid ∧
      (v.verify label t covered).reason = some .imprintMismatch := by
  have hne : (v.crypto.digest d covered != t.token.imprint.digest) = true := by simpa using h
  unfold verify
  simp [supported, hne, Verdict.invalid]

namespace Assessment

/-- What level A says of an archive timestamp at a position. -/
def archiveVerdict (a : Assessment) (position : Nat) (t : TimestampElement) : Verdict :=
  a.timestamps.verify "ArchiveTimeStamp" t (a.signature.archiveData position)

theorem archive_eq_combine (a : Assessment) (h : (position, t) ∈ a.signature.archiveTimestamps) :
    a.archive = .combine "archive timestamps"
      (a.signature.archiveTimestamps.map fun (position, t) => a.archiveVerdict position t) := by
  unfold archive
  exact if_neg (by simpa using List.ne_nil_of_mem h)

theorem archiveVerdict_mem_details (a : Assessment)
    (h : (position, t) ∈ a.signature.archiveTimestamps) :
    a.archiveVerdict position t ∈ a.archive.details := by
  rw [a.archive_eq_combine h, Verdict.details_combine]
  exact List.mem_map.2 ⟨(position, t), h, rfl⟩

theorem isInvalid_archive (a : Assessment) (h : (position, t) ∈ a.signature.archiveTimestamps)
    (hinvalid : (a.archiveVerdict position t).indication = .invalid) :
    a.archive.isInvalid = true := by
  rw [a.archive_eq_combine h, Verdict.isInvalid_combine_iff]
  refine ⟨a.archiveVerdict position t, List.mem_map.2 ⟨(position, t), h, rfl⟩, ?_⟩
  exact Verdict.isInvalid_iff.2 hinvalid

/-- Over other octets, and with a digest that tells them from those of the imprint, an archive
timestamp is invalid. -/
theorem archiveVerdict_of_ne (a : Assessment)
    (imprint : t.token.imprint.IsOf a.timestamps.crypto d covered)
    (hne : a.signature.archiveData position ≠ covered)
    (tells : a.timestamps.crypto.digest d (a.signature.archiveData position) =
      a.timestamps.crypto.digest d covered → a.signature.archiveData position = covered) :
    (a.archiveVerdict position t).indication = .invalid ∧
      (a.archiveVerdict position t).reason = some .imprintMismatch := by
  apply a.timestamps.verify_of_digest_ne _ imprint.supported
  intro hdigest
  exact hne (tells (hdigest.trans imprint.digest.symm))

end Assessment

namespace Signature

/-- What stands up to a position, the position included, decides what archive timestamp is there. -/
theorem mem_archiveTimestamps_of_take_eq
    (htake : s'.unsigned.take (position + 1) = s.unsigned.take (position + 1))
    (h : (position, t) ∈ s.archiveTimestamps) : (position, t) ∈ s'.archiveTimestamps := by
  rw [mem_archiveTimestamps_iff] at h ⊢
  rw [← List.getElem?_take_of_lt (Nat.lt_succ_self position), htake,
    List.getElem?_take_of_lt (Nat.lt_succ_self position), h]

theorem archiveData_of_take_succ_eq (hcore : s'.toSignatureCore = s.toSignatureCore)
    (htake : s'.unsigned.take (position + 1) = s.unsigned.take (position + 1)) :
    s'.archiveData position = s.archiveData position := by
  apply archiveData_of_take_eq hcore
  have hshorter := congrArg (List.take position) htake
  rwa [List.take_take, List.take_take, Nat.min_eq_left (Nat.le_succ position)] at hshorter

/-- **An archive timestamp tells what was changed before it, and nothing else.** Where another
signature has exactly one part of what it is over otherwise, the octets under it are others. If its
imprint was right, with an algorithm that is known and a digest that tells these octets apart, it is
invalid there for the mismatch, and with it level A. Whatever is changed, added or removed behind it
leaves the octets under it and what is said of it as they are. -/
theorem archive_imprint_tells_changes (crypto : Crypto) (s : Signature) (position : Nat)
    (t : TimestampElement) (there : (position, t) ∈ s.archiveTimestamps) :
    (∀ s' part, s.DiffersOnlyIn s' position part →
      s'.archiveData position ≠ s.archiveData position ∧
        ∀ d, t.token.imprint.IsOf crypto d (s.archiveData position) →
          (crypto.digest d (s'.archiveData position) = crypto.digest d (s.archiveData position) →
            s'.archiveData position = s.archiveData position) →
          ∀ a : Assessment, a.signature = s' → a.timestamps.crypto = crypto →
            (a.archiveVerdict position t).indication = .invalid ∧
              (a.archiveVerdict position t).reason = some .imprintMismatch ∧
              ((position, t) ∈ s'.archiveTimestamps →
                a.archiveVerdict position t ∈ a.archive.details ∧
                  a.archive.isInvalid = true)) ∧
      ∀ s', s'.toSignatureCore = s.toSignatureCore →
        s'.unsigned.take (position + 1) = s.unsigned.take (position + 1) →
        (position, t) ∈ s'.archiveTimestamps ∧
          s'.archiveData position = s.archiveData position ∧
          ∀ a a' : Assessment, a.signature = s → a'.signature = s' →
            a'.timestamps = a.timestamps →
            a'.archiveVerdict position t = a.archiveVerdict position t := by
  constructor
  · intro s' part hdiffers
    have hne : s'.archiveData position ≠ s.archiveData position :=
      (archiveData_ne_of_differsOnlyIn hdiffers).symm
    refine ⟨hne, ?_⟩
    rintro d imprint tells a rfl rfl
    obtain ⟨hinvalid, hreason⟩ := a.archiveVerdict_of_ne imprint hne tells
    refine ⟨hinvalid, hreason, fun hthere => ?_⟩
    exact ⟨a.archiveVerdict_mem_details hthere, a.isInvalid_archive hthere hinvalid⟩
  · intro s' hcore htake
    have hdata : s'.archiveData position = s.archiveData position :=
      archiveData_of_take_succ_eq hcore htake
    refine ⟨mem_archiveTimestamps_of_take_eq htake there, hdata, ?_⟩
    rintro a a' rfl rfl htimestamps
    rw [Assessment.archiveVerdict, Assessment.archiveVerdict, hdata, htimestamps]

end Signature

namespace Specimen

open Signature (DiffersOnlyIn)

/-- Certificates stand before the archive timestamp; their octets are of no account to anything
else. -/
def sealedValues (octets : Octets) (after : List UnsignedProperty) : Signature :=
  withUnsigned (.certificateValues ⟨none, [], octets⟩ ::
    .archiveTimestamp (stampOver [1, 2, 3] []) :: after)

/-- Level A of a signature, with timestamps that are judged by their imprints. -/
def assessed (s : Signature) : Assessment := ⟨s, none, plain, ⟨plain, ⟨0⟩, none⟩⟩

theorem differsOnlyIn_sealedValues :
    (sealedValues [3] []).DiffersOnlyIn (sealedValues [4] []) 1 (.unsigned 0) where
  differs := by decide
  same other hother := by
    cases other with
    | reference | signedInfo | signatureValue | keyInfo => rfl
    | unsigned i =>
        cases i with
        | zero => exact absurd rfl hother
        | succ i => rfl

/-- Other octets of the certificates make the timestamp invalid, and what is added behind it does
not. -/
theorem sealedValues_tell_changes :
    (1, stampOver [1, 2, 3] []) ∈ (sealedValues [3] []).archiveTimestamps ∧
      (assessed (sealedValues [3] [])).archive.isValid = true ∧
        (assessed (sealedValues [4] [])).archive.isInvalid = true ∧
      (assessed (sealedValues [3] [.revocationValues ⟨none, [], [], [9]⟩])).archiveVerdict 1
        (stampOver [1, 2, 3] []) =
        (assessed (sealedValues [3] [])).archiveVerdict 1 (stampOver [1, 2, 3] []) := by
  have hthere (octets : Octets) : (1, stampOver [1, 2, 3] []) ∈
      (sealedValues octets []).archiveTimestamps :=
    Signature.mem_archiveTimestamps_iff.2 rfl
  obtain ⟨hchanged, hbehind⟩ := Signature.archive_imprint_tells_changes plain
    (sealedValues [3] []) 1 (stampOver [1, 2, 3] []) (hthere [3])
  have himprint : (stampOver [1, 2, 3] []).token.imprint.IsOf plain .sha256
      ((sealedValues [3] []).archiveData 1) :=
    ⟨by decide +kernel, rfl⟩
  obtain ⟨-, hinvalid⟩ := hchanged _ _ differsOnlyIn_sealedValues
  obtain ⟨-, -, hlevel⟩ := hinvalid .sha256 himprint id (assessed (sealedValues [4] [])) rfl rfl
  obtain ⟨-, -, hsame⟩ :=
    hbehind (sealedValues [3] [.revocationValues ⟨none, [], [], [9]⟩]) rfl rfl
  have hvalid : (assessed (sealedValues [3] [])).archive.isValid = true := by decide +kernel
  exact ⟨hthere [3], hvalid, (hlevel (hthere [4])).2, hsame _ _ rfl rfl rfl⟩

end Specimen

end SignatureTrust
