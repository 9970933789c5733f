import Mathlib.Data.List.Forall2
import SignatureTrust.Proofs.Discovery.Growth
import SignatureTrust.Validator

/-!
# `Proofs.Signature.Evidence` — what the digest over the evidence of a signature tells

The evidence that a signature brings is digested as one run of octets: the encodings of its
certificates, of its lists and of its responses, with nothing between them. So the digest tells the
octets, if it tells anything, and **the octets do not tell where one encoding ends and the next
begins**, nor which of them are certificates.

They do where encodings are delimited by themselves: none is empty, and none begins with another
(`Delimited.sameEncodings`). Nothing in a reader asks that. An encoding with octets after its end is
read like one without.
-/

set_option autoImplicit false

namespace SignatureTrust

namespace Token

variable {a b : Token}

theorem sameEncoding_iff :
    a.sameEncoding b = true ↔ a.kind = b.kind ∧ a.encoding = b.encoding := by
  cases a <;> cases b <;> simp [sameEncoding, kind, encoding]

theorem sameEncoding_symm (h : a.sameEncoding b = true) : b.sameEncoding a = true :=
  sameEncoding_iff.2 ⟨(sameEncoding_iff.1 h).1.symm, (sameEncoding_iff.1 h).2.symm⟩

end Token

namespace Signature

/-- What a signature brings, in the order in which it is digested. -/
def evidence (s : Signature) : List Token :=
  s.embeddedCertificates.map .certificate ++ s.embeddedCrls.map .crl ++ s.embeddedOcsps.map .ocsp

def evidenceOctets (s : Signature) : Octets := s.evidence.flatMap Token.encoding

variable {s s' : Signature}

theorem evidenceDigest_eq (s : Signature) :
    s.evidenceDigest = DigestAlgorithm.sha256.digest s.evidenceOctets := by
  simp [evidenceDigest, evidenceOctets, evidence, List.flatMap_map, Token.encoding]

/-! ## The evidence makes the sources -/

theorem embeddedCertificates_eq_filterMap (s : Signature) :
    s.embeddedCertificates = s.evidence.filterMap Token.certificate? := by
  simp [evidence, List.filterMap_map, Function.comp_def, Token.certificate?]

theorem embeddedCrls_eq_filterMap (s : Signature) :
    s.embeddedCrls = s.evidence.filterMap Token.crl? := by
  simp [evidence, List.filterMap_map, Function.comp_def, Token.crl?]

theorem embeddedOcsps_eq_filterMap (s : Signature) :
    s.embeddedOcsps = s.evidence.filterMap Token.ocsp? := by
  simp [evidence, List.filterMap_map, Function.comp_def, Token.ocsp?]

theorem sources_congr (v : Settings) (h : s.evidence = s'.evidence) :
    v.sources s = v.sources s' := by
  unfold Settings.sources
  rw [embeddedCertificates_eq_filterMap s, embeddedCrls_eq_filterMap s,
    embeddedOcsps_eq_filterMap s, h, ← embeddedCertificates_eq_filterMap,
    ← embeddedCrls_eq_filterMap, ← embeddedOcsps_eq_filterMap]

theorem mem_evidence_of_signingCertificate? {crypto : Crypto} {x : Certificate}
    (h : s.signingCertificate? crypto = some x) : .certificate x ∈ s.evidence := by
  obtain ⟨_, -, hfind⟩ := Option.bind_eq_some_iff.1 h
  have hx : x ∈ s.embeddedCertificates := List.mem_of_find?_eq_some hfind
  simp [evidence, hx]

end Signature

/-! ## Where encodings end -/

/-- Piece by piece the same kind and the same encoding. -/
def SameEncodings (as bs : List Token) : Prop :=
  List.Forall₂ (fun a b => a.sameEncoding b = true) as bs

theorem SameEncodings.eq {as bs : List Token} (h : SameEncodings as bs)
    (objects : ∀ a ∈ as, ∀ b ∈ bs, a.sameEncoding b = true → a = b) : as = bs := by
  induction h with
  | nil => rfl
  | @cons a b as bs hab _ ih =>
      obtain rfl := objects a List.mem_cons_self b List.mem_cons_self hab
      rw [ih fun x hx y hy => objects x (List.mem_cons_of_mem a hx) y (List.mem_cons_of_mem a hy)]

/-- Encodings that are not empty, and of which none begins with another. -/
structure Delimited (known : Token → Prop) : Prop where
  nonempty : ∀ {a : Token}, known a → a.encoding ≠ []
  apart : ∀ {a b : Token}, known a → known b → a.encoding <+: b.encoding →
    a.sameEncoding b = true

/-- **Octets that are delimited by themselves are read in one way.** -/
theorem Delimited.sameEncodings {known : Token → Prop} (hd : Delimited known)
    {as bs : List Token} (has : ∀ a ∈ as, known a) (hbs : ∀ b ∈ bs, known b)
    (h : as.flatMap Token.encoding = bs.flatMap Token.encoding) :
    SameEncodings as bs := by
  induction as generalizing bs with
  | nil =>
      cases bs with
      | nil => exact .nil
      | cons b bs =>
          have hb : b.encoding = [] := (List.append_eq_nil_iff.1 h.symm).1
          exact absurd hb (hd.nonempty (hbs b List.mem_cons_self))
  | cons a as ih =>
      obtain ⟨ha, has⟩ := List.forall_mem_cons.1 has
      cases bs with
      | nil => exact absurd (List.append_eq_nil_iff.1 h).1 (hd.nonempty ha)
      | cons b bs =>
          obtain ⟨hb, hbs⟩ := List.forall_mem_cons.1 hbs
          rw [List.flatMap_cons, List.flatMap_cons] at h
          -- both encodings begin the same octets, so one of them begins the other
          have hab : a.sameEncoding b = true := by
            have hprefix := List.prefix_append b.encoding (bs.flatMap Token.encoding)
            rw [← h] at hprefix
            rcases List.prefix_or_prefix_of_prefix (List.prefix_append a.encoding _) hprefix with
              hpre | hpre
            · exact hd.apart ha hb hpre
            · exact Token.sameEncoding_symm (hd.apart hb ha hpre)
          rw [(Token.sameEncoding_iff.1 hab).2] at h
          exact .cons hab (ih has hbs (List.append_cancel_left h))

end SignatureTrust
