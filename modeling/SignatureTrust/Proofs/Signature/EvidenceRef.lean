import SignatureTrust.Crypto.Rsa
import SignatureTrust.Proofs.Serial
import SignatureTrust.Signature.EvidenceRef

/-!
# `Proofs.Signature.EvidenceRef` — what a reference designates

A reference is a digest and perhaps more. Whether it matches is a question of three different texts
and two encodings: an algorithm is named by a URI, a digest is taken over an encoding, a serial is
written in decimal. What it comes to is said here without them, once for each kind of reference
(`CertificateRef.isMatch_iff`, `CrlRef.isMatch_iff`, `OcspRef.isMatch_iff`).

> **A reference that was made for an object designates it, and with a digest that tells encodings
> apart nothing that is encoded otherwise** (`references_designate_their_own`).

Nothing else a reference says can make up for the digest. That the issuer and serial are those of
the certificate is a question of its own, and takes a serial without leading zeros: decimal text has
no others.
-/

set_option autoImplicit false

namespace SignatureTrust

/-- The digest is that of the data, by an algorithm that is known. -/
def DigestValue.Fits (v : DigestValue) (crypto : Crypto) (data : Octets) : Prop :=
  ∃ d, v.algorithm? = some d ∧ crypto.digest d data = v.value

/-- What a reference says of a list, its digest first, is so. -/
structure CrlRef.Designates (r : CrlRef) (crypto : Crypto) (l : Crl) : Prop where
  digest : r.digest.Fits crypto l.encoding
  issuer : ∀ n, r.issuer = some n → n.same l.issuer = true
  issuedAt : ∀ t, r.issuedAt = some t → t = l.thisUpdate
  number : ∀ n, r.number = some n → l.number = some n

/-- A reference has the digest of a response, or it has none and what it says of the response is
so. -/
inductive OcspRef.Designates (r : OcspRef) (crypto : Crypto) (o : OcspResponse) : Prop
  | byDigest {method : String} {value : Octets}
      (named : r.method = some method) (given : r.digest = some value)
      (digest : DigestValue.Fits ⟨method, value⟩ crypto o.encoding)
  | byResponder (incomplete : r.method = none ∨ r.digest = none)
      (producedAt : r.producedAt = o.producedAt)
      (responder : ∀ id, r.responder = some id → id.same o.responder = true)

variable {crypto : Crypto} {d : DigestAlgorithm} {data : Octets}

theorem DigestValue.isOf_iff {v : DigestValue} :
    v.isOf crypto data = true ↔ v.Fits crypto data := by
  unfold isOf Fits
  cases v.algorithm? with
  | none => simp
  | some d => simp

theorem givenImplies_iff {α : Type} {given : Option α} {test : α → Bool} :
    givenImplies given test = true ↔ ∀ a, given = some a → test a = true := by
  cases given <;> simp [givenImplies]

theorem CertificateRef.isMatch_iff {r : CertificateRef} {c : Certificate} :
    r.isMatch crypto c = true ↔ r.digest.Fits crypto c.encoding := DigestValue.isOf_iff

theorem CrlRef.isMatch_iff {r : CrlRef} {l : Crl} :
    r.isMatch crypto l = true ↔ r.Designates crypto l := by
  simp only [isMatch, Bool.and_eq_true, DigestValue.isOf_iff, givenImplies_iff, decide_eq_true_eq]
  exact ⟨fun ⟨⟨⟨hdigest, hissuer⟩, hissuedAt⟩, hnumber⟩ =>
      ⟨hdigest, hissuer, hissuedAt, hnumber⟩,
    fun h => ⟨⟨⟨h.digest, h.issuer⟩, h.issuedAt⟩, h.number⟩⟩

theorem OcspRef.isMatch_of_digest {r : OcspRef} {o : OcspResponse} {method : String}
    {value : Octets} (hmethod : r.method = some method) (hvalue : r.digest = some value) :
    r.isMatch crypto o = true ↔ DigestValue.Fits ⟨method, value⟩ crypto o.encoding := by
  unfold isMatch digest?
  rw [hmethod, hvalue]
  exact DigestValue.isOf_iff

theorem OcspRef.isMatch_of_incomplete {r : OcspRef} {o : OcspResponse}
    (h : r.method = none ∨ r.digest = none) :
    r.isMatch crypto o = true ↔
      r.producedAt = o.producedAt ∧ ∀ id, r.responder = some id →
        id.same o.responder = true := by
  have hnone : r.digest? = none := by
    unfold digest?
    rcases h with h | h
    · rw [h]; rfl
    · rw [h]; cases r.method <;> rfl
  unfold isMatch
  rw [hnone]
  simp only [Bool.and_eq_true, decide_eq_true_eq, givenImplies_iff]

theorem OcspRef.isMatch_iff {r : OcspRef} {o : OcspResponse} :
    r.isMatch crypto o = true ↔ r.Designates crypto o := by
  constructor
  · intro h
    cases hmethod : r.method with
    | none =>
        obtain ⟨hat, hresponder⟩ := (isMatch_of_incomplete (.inl hmethod)).1 h
        exact .byResponder (.inl hmethod) hat hresponder
    | some method =>
        cases hvalue : r.digest with
        | none =>
            obtain ⟨hat, hresponder⟩ := (isMatch_of_incomplete (.inr hvalue)).1 h
            exact .byResponder (.inr hvalue) hat hresponder
        | some value => exact .byDigest hmethod hvalue ((isMatch_of_digest hmethod hvalue).1 h)
  · intro h
    cases h with
    | byDigest hmethod hvalue hdigest => exact (isMatch_of_digest hmethod hvalue).2 hdigest
    | byResponder hincomplete hat hresponder =>
        exact (isMatch_of_incomplete hincomplete).2 ⟨hat, hresponder⟩

/-! ## References that were made for an object -/

@[simp] theorem DigestAlgorithm.ofUri?_uri (d : DigestAlgorithm) : ofUri? d.uri = some d := by
  cases d <;> decide +kernel

/-- The algorithm has different digests for different octets, as far as these two go. -/
def DigestAlgorithm.TellsApart (d : DigestAlgorithm) (a b : Octets) : Prop :=
  d.digest a = d.digest b → a = b

/-- The digest that was made of some data is that of other data just if these are the same. -/
theorem DigestValue.fits_of_iff {other : Octets}
    (digests : crypto.digest = DigestAlgorithm.digest) (apart : d.TellsApart other data) :
    (DigestValue.of d data).Fits crypto other ↔ other = data := by
  have hsame : (DigestValue.of d data).Fits crypto other ↔ d.digest other = d.digest data := by
    simp [Fits, algorithm?, DigestValue.of, digests]
  rw [hsame]
  exact ⟨apart, congrArg d.digest⟩

theorem CertificateRef.isMatch_of_iff {c other : Certificate}
    (digests : crypto.digest = DigestAlgorithm.digest)
    (apart : d.TellsApart other.encoding c.encoding) :
    (CertificateRef.of c d).isMatch crypto other = true ↔ other.encoding = c.encoding := by
  rw [isMatch_iff]
  exact DigestValue.fits_of_iff digests apart

/-- A serial is written in decimal, which has no leading zeros. -/
theorem CertificateRef.hasIssuerAndSerialOf_of_iff {c : Certificate} :
    (CertificateRef.of c d).hasIssuerAndSerialOf c = true ↔ c.serial.Built := by
  rw [Serial.built_iff_shortest, ← Serial.ofDecimal?_toDecimal_iff, hasIssuerAndSerialOf,
    Bool.and_eq_true, beq_iff_eq]
  exact and_iff_right (Name.same_refl c.issuer)

theorem CrlRef.isMatch_of_iff {l other : Crl} (digests : crypto.digest = DigestAlgorithm.digest)
    (apart : d.TellsApart other.encoding l.encoding) :
    (CrlRef.of l d).isMatch crypto other = true ↔
      other.encoding = l.encoding ∧ l.issuer.same other.issuer = true ∧
        l.thisUpdate = other.thisUpdate ∧
        ∀ n, l.number = some n → other.number = some n := by
  rw [isMatch_iff]
  have hdigest : (CrlRef.of l d).digest.Fits crypto other.encoding ↔
      other.encoding = l.encoding :=
    DigestValue.fits_of_iff digests apart
  constructor
  · intro h
    exact ⟨hdigest.1 h.digest, h.issuer _ rfl, h.issuedAt _ rfl, h.number⟩
  · rintro ⟨hencoding, hissuer, hissuedAt, hnumber⟩
    refine ⟨hdigest.2 hencoding, ?_, ?_, hnumber⟩
    · rintro _ ⟨rfl⟩
      exact hissuer
    · rintro _ ⟨rfl⟩
      exact hissuedAt

theorem OcspRef.isMatch_of_iff {r other : OcspResponse}
    (digests : crypto.digest = DigestAlgorithm.digest)
    (apart : d.TellsApart other.encoding r.encoding) :
    (OcspRef.of r d).isMatch crypto other = true ↔ other.encoding = r.encoding := by
  rw [isMatch_of_digest rfl rfl]
  exact DigestValue.fits_of_iff digests apart

/-- **A reference that was made for an object designates it, and nothing that is encoded
otherwise.** With the digests of the standard it matches the object that it was made for; a
reference to a certificate has its issuer and serial too, if the serial was made from octets, a
number or decimal text. As far as the digest tells two encodings apart, it matches another object
only if that has the same encoding, and a list only if what else the reference says is so as
well. -/
theorem references_designate_their_own (crypto : Crypto)
    (digests : crypto.digest = DigestAlgorithm.digest) (d : DigestAlgorithm) :
    (∀ c : Certificate, (CertificateRef.of c d).isMatch crypto c = true ∧
      ((CertificateRef.of c d).hasIssuerAndSerialOf c = true ↔ c.serial.Built) ∧
      ∀ other : Certificate, d.TellsApart other.encoding c.encoding →
        ((CertificateRef.of c d).isMatch crypto other = true ↔ other.encoding = c.encoding)) ∧
    (∀ l : Crl, (CrlRef.of l d).isMatch crypto l = true ∧
      ∀ other : Crl, d.TellsApart other.encoding l.encoding →
        ((CrlRef.of l d).isMatch crypto other = true ↔
          other.encoding = l.encoding ∧ l.issuer.same other.issuer = true ∧
            l.thisUpdate = other.thisUpdate ∧
            ∀ n, l.number = some n → other.number = some n)) ∧
    ∀ r : OcspResponse, (OcspRef.of r d).isMatch crypto r = true ∧
      ∀ other : OcspResponse, d.TellsApart other.encoding r.encoding →
        ((OcspRef.of r d).isMatch crypto other = true ↔ other.encoding = r.encoding) := by
  refine ⟨fun c => ⟨?_, ?_, ?_⟩, fun l => ⟨?_, ?_⟩, fun r => ⟨?_, ?_⟩⟩
  · exact (CertificateRef.isMatch_of_iff digests fun _ => rfl).2 rfl
  · exact CertificateRef.hasIssuerAndSerialOf_of_iff
  · exact fun other => CertificateRef.isMatch_of_iff digests
  · exact (CrlRef.isMatch_of_iff digests fun _ => rfl).2 ⟨rfl, Name.same_refl _, rfl,
      fun _ h => h⟩
  · exact fun other => CrlRef.isMatch_of_iff digests
  · exact (OcspRef.isMatch_of_iff digests fun _ => rfl).2 rfl
  · exact fun other => OcspRef.isMatch_of_iff digests

namespace Specimen

/-- A certificate with an encoding and a serial of nine octets. -/
def longSerial (encoding : Octets) : Certificate where
  encoding := encoding
  subject := ⟨"CN=Leaf"⟩
  issuer := ⟨"CN=Root"⟩
  serial := .ofOctets [0, 1, 0, 0, 0, 0, 0, 0, 0, 10]
  notBefore := ⟨0⟩
  notAfter := ⟨10⟩
  publicKey := []
  signed := ⟨[], .other "", []⟩
  qcStatements := []

/-- A reference to one of two certificates with the same issuer and serial. The digests tell
which. -/
theorem longSerial_reference :
    Crypto.rsa.digest = DigestAlgorithm.digest ∧
      (CertificateRef.of (longSerial [1]) .sha256).isMatch .rsa (longSerial [1]) = true ∧
      (CertificateRef.of (longSerial [1]) .sha256).hasIssuerAndSerialOf (longSerial [1]) = true ∧
      (CertificateRef.of (longSerial [1]) .sha256).isMatch .rsa (longSerial [2]) = false := by
  obtain ⟨hcertificates, -, -⟩ := references_designate_their_own .rsa rfl .sha256
  obtain ⟨hown, hserial, hother⟩ := hcertificates (longSerial [1])
  have apart : DigestAlgorithm.sha256.TellsApart (longSerial [2]).encoding
      (longSerial [1]).encoding := by
    intro hsame
    have hdiffer : DigestAlgorithm.sha256.digest [2] ≠ DigestAlgorithm.sha256.digest [1] := by
      decide +kernel
    exact absurd hsame hdiffer
  refine ⟨rfl, hown, hserial.2 (.octets _), ?_⟩
  rw [Bool.eq_false_iff, ne_eq, hother (longSerial [2]) apart]
  decide

end Specimen
end SignatureTrust
