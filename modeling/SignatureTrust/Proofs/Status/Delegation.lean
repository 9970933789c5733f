import SignatureTrust.Proofs.Discovery.IssuerLinks
import SignatureTrust.Proofs.Source.Revocation
import SignatureTrust.Proofs.Status.Justification

/-!
# `Proofs.Status.Delegation` — which responders speak for an issuer

An issuer stands behind a response when it signed the response itself, or when a **delegate** did: a
certificate that came with the response, that the response designates, and that the issuer signed.
To designate is to have the right name or the right key, and anybody can give a certificate the
right name. So several certificates of one response may be designated, and the search takes the
first of them before it is asked who signed that one:

> what is accepted has the issuer behind it; what has the issuer behind it is accepted **unless its
> delegate is shadowed**, by a certificate in front of it that is designated and no delegate.

With a shadow the order of the certificates decides. It does not where the issuer signed itself, and
it does not where all that are designated are delegates, or none is.
-/

set_option autoImplicit false

namespace SignatureTrust.Status

/-! ## Who stands behind a response -/

/-- The issuer is designated by a response and signed it. -/
structure Signs (crypto : Crypto) (issuer : Certificate) (r : OcspResponse) : Prop where
  designated : r.responder.designates issuer = true
  signed : crypto.verifies issuer r.signed = true

/-- A responder is designated by a response, was signed by the issuer, and signed the response. -/
structure Delegate (crypto : Crypto) (issuer : Certificate) (r : OcspResponse)
    (responder : Certificate) : Prop where
  designated : r.responder.designates responder = true
  certified : (Token.certificate responder).isSignedBy crypto issuer = true
  signed : crypto.verifies responder r.signed = true

/-- The issuer stands behind a response. -/
inductive Backed (crypto : Crypto) (issuer : Certificate) (r : OcspResponse) : Prop
  | byIssuer (signs : Signs crypto issuer r)
  | byDelegate {responder : Certificate} (along : responder ∈ r.certificates)
      (delegate : Delegate crypto issuer r responder)

/-- A delegate came along, and the first certificate that is designated is none. -/
structure Shadowed (crypto : Crypto) (issuer : Certificate) (r : OcspResponse) : Prop where
  notByIssuer : ¬ Signs crypto issuer r
  shadow : ∃ x, r.responderCertificate? = some x ∧ ¬ Delegate crypto issuer r x
  behind : ∃ x ∈ r.certificates, Delegate crypto issuer r x

variable {crypto : Crypto} {issuer x : Certificate} {r : OcspResponse} {date : Instant}
  {order : List Certificate}

/-- What the response says of its responder and its signature does not depend on what came along. -/
theorem delegate_reordered_iff :
    Delegate crypto issuer { r with certificates := order } x ↔ Delegate crypto issuer r x :=
  ⟨fun h => ⟨h.designated, h.certified, h.signed⟩,
    fun h => ⟨h.designated, h.certified, h.signed⟩⟩

/-! ## The search for the responder -/

/-- Accepted is what the issuer signed, and what the first designated certificate signed if it is a
delegate. -/
theorem isAuthorized_iff_first : isAuthorized crypto issuer r = true ↔
    Signs crypto issuer r ∨ ∃ x, r.responderCertificate? = some x ∧
      Delegate crypto issuer r x := by
  have hsigns : (Token.ocsp r).isSignedBy crypto issuer = true ↔ Signs crypto issuer r :=
    Bool.and_eq_true_iff.trans ⟨fun ⟨designated, signed⟩ => ⟨designated, signed⟩,
      fun h => ⟨h.designated, h.signed⟩⟩
  rw [isAuthorized_iff, hsigns]
  refine or_congr_right (exists_congr fun x => and_congr_right fun _ => ?_)
  constructor
  · rintro ⟨certified, hsigned⟩
    obtain ⟨designated, signed⟩ := Bool.and_eq_true_iff.1 hsigned
    exact ⟨designated, certified, signed⟩
  · exact fun h => ⟨h.certified, Bool.and_eq_true_iff.2 ⟨h.designated, h.signed⟩⟩

theorem mem_of_responderCertificate? (h : r.responderCertificate? = some x) :
    x ∈ r.certificates ∧ r.responder.designates x = true :=
  ⟨List.mem_of_find?_eq_some h, List.find?_some h⟩

/-- Where something is designated, a first one is. -/
theorem exists_responderCertificate? (hx : x ∈ r.certificates)
    (designated : r.responder.designates x = true) :
    ∃ first, r.responderCertificate? = some first :=
  Option.isSome_iff_exists.1 (List.find?_isSome.2 ⟨x, hx, designated⟩)

theorem responderCertificate?_cons (designated : r.responder.designates x = true) :
    { r with certificates := x :: order }.responderCertificate? = some x :=
  List.find?_cons_of_pos designated

/-- What is accepted has the issuer behind it. -/
theorem backed_of_isAuthorized (h : isAuthorized crypto issuer r = true) :
    Backed crypto issuer r := by
  rcases isAuthorized_iff_first.1 h with signs | ⟨x, hfirst, delegate⟩
  · exact .byIssuer signs
  · exact .byDelegate (mem_of_responderCertificate? hfirst).1 delegate

/-- What has the issuer behind it is accepted, or its delegate is shadowed; never both. -/
theorem isAuthorized_iff_not_shadowed (h : Backed crypto issuer r) :
    isAuthorized crypto issuer r = true ↔ ¬ Shadowed crypto issuer r := by
  rw [isAuthorized_iff_first]
  constructor
  · rintro (signs | ⟨x, hfirst, delegate⟩) shadowed
    · exact shadowed.notByIssuer signs
    · obtain ⟨y, hfirst', hno⟩ := shadowed.shadow
      obtain rfl := Option.some.inj (hfirst'.symm.trans hfirst)
      exact hno delegate
  · intro hclear
    cases h with
    | byIssuer signs => exact .inl signs
    | @byDelegate responder along delegate =>
        obtain ⟨first, hfirst⟩ := exists_responderCertificate? along delegate.designated
        by_cases signs : Signs crypto issuer r
        · exact .inl signs
        · by_cases hdelegate : Delegate crypto issuer r first
          · exact .inr ⟨first, hfirst, hdelegate⟩
          · exact absurd ⟨signs, ⟨first, hfirst, hdelegate⟩, responder, along,
              delegate⟩ hclear

/-! ## The order of the certificates -/

/-- The order decides nothing: the issuer signed itself, or all that are designated are delegates,
or none is. -/
def OrderFree (crypto : Crypto) (issuer : Certificate) (r : OcspResponse) : Prop :=
  Signs crypto issuer r ∨ (∀ x ∈ r.certificates, r.responder.designates x = true →
    Delegate crypto issuer r x) ∨
    ∀ x ∈ r.certificates, ¬ Delegate crypto issuer r x

theorem OrderFree.isAuthorized_iff (h : OrderFree crypto issuer r)
    (horder : order.Perm r.certificates) :
    isAuthorized crypto issuer { r with certificates := order } = true ↔
      Backed crypto issuer r := by
  rw [isAuthorized_iff_first]
  constructor
  · rintro (signs | ⟨x, hfirst, delegate⟩)
    · exact .byIssuer ⟨signs.designated, signs.signed⟩
    · have along : x ∈ r.certificates := horder.mem_iff.1 (mem_of_responderCertificate? hfirst).1
      exact .byDelegate along (delegate_reordered_iff.1 delegate)
  · intro backed
    cases backed with
    | byIssuer signs => exact .inl ⟨signs.designated, signs.signed⟩
    | @byDelegate responder along delegate =>
        rcases h with signs | hall | hnone
        · exact .inl ⟨signs.designated, signs.signed⟩
        · -- whichever comes first in the new order is a delegate too
          obtain ⟨first, hfirst⟩ := exists_responderCertificate?
            (r := { r with certificates := order }) (horder.mem_iff.2 along) delegate.designated
          obtain ⟨hmem, designated⟩ := mem_of_responderCertificate? hfirst
          exact .inr ⟨first, hfirst,
            delegate_reordered_iff.2 (hall first (horder.mem_iff.1 hmem) designated)⟩
        · exact absurd delegate (hnone responder along)

/-- In front, a delegate is accepted, and what is designated and no delegate keeps all others
out. -/
theorem isAuthorized_cons_iff (hsigns : ¬ Signs crypto issuer r)
    (designated : r.responder.designates x = true) :
    isAuthorized crypto issuer { r with certificates := x :: order } = true ↔
      Delegate crypto issuer r x := by
  have hsigns' : ¬ Signs crypto issuer { r with certificates := x :: order } :=
    fun h => hsigns ⟨h.designated, h.signed⟩
  rw [isAuthorized_iff_first, or_iff_right hsigns', responderCertificate?_cons designated]
  simp [delegate_reordered_iff]

/-- **The order of the certificates never matters exactly when it decides nothing.** -/
theorem forall_perm_isAuthorized_iff :
    (∀ order : List Certificate, order.Perm r.certificates →
      isAuthorized crypto issuer { r with certificates := order } =
        isAuthorized crypto issuer r) ↔
      OrderFree crypto issuer r := by
  constructor
  · intro hsame
    by_cases signs : Signs crypto issuer r
    · exact .inl signs
    · refine .inr (Classical.or_iff_not_imp_right.2 fun hsome x hx designated => ?_)
      obtain ⟨y, hy, delegate⟩ : ∃ y ∈ r.certificates, Delegate crypto issuer r y := by
        simpa using hsome
      -- put `y` in front, and then `x`: the response is accepted with the one, so it is with the
      -- other
      have haccepted : isAuthorized crypto issuer
          { r with certificates := y :: r.certificates.erase y } = true :=
        (isAuthorized_cons_iff signs delegate.designated).2 delegate
      rw [hsame _ (List.perm_cons_erase hy).symm,
        ← hsame _ (List.perm_cons_erase hx).symm] at haccepted
      exact (isAuthorized_cons_iff signs designated).1 haccepted
  · intro hfree order horder
    rw [Bool.eq_iff_iff, hfree.isAuthorized_iff horder]
    exact (hfree.isAuthorized_iff (List.Perm.refl _)).symm

/-! ## The answer -/

/-- A source that has one response answers when the response is accepted and has an answer given by
the date. -/
theorem byOcsp?_singleton_isSome_iff :
    (byOcsp? crypto (.ofList [r]) x issuer date).isSome = true ↔
      isAuthorized crypto issuer r = true ∧ ∃ single, r.find? x.serial = some single ∧
        single.thisUpdate ≤ date := by
  rw [Option.isSome_iff_exists, byOcsp?]
  constructor
  · rintro ⟨s, hs⟩
    obtain ⟨r', hgiven, hread⟩ := Option.bind_eq_some_iff.1 hs
    have hsame : r' = r := List.mem_singleton.1 (OcspSource.mem_of_getAt_ofList hgiven)
    exact genuine_of_ofResponse? (hsame ▸ hread)
  · rintro ⟨haccepted, single, hsingle, hdate⟩
    have hasked : OcspSource.concerns x issuer
        (fun single => decide (single.thisUpdate ≤ date)) r = true := by
      simp [OcspSource.concerns, speaksFor_of_isAuthorized haccepted, hsingle, hdate]
    have hgiven : (OcspSource.ofList [r]).getAt x issuer date = some r := by
      simp [OcspSource.ofList, hasked, EvidenceSource.newest?, EvidenceSource.newer]
    rw [hgiven]
    simp [ofResponse?, haccepted, hsingle, Instant.not_lt.2 hdate]

/-- **A response is accepted exactly where the issuer stands behind it, unless its delegate is
shadowed**; the order of the certificates that came along never matters exactly where it decides
nothing. A source that has this response answers when it is accepted and has an answer. -/
theorem authorized_iff_backed_unless_shadowed (crypto : Crypto) (issuer : Certificate)
    (r : OcspResponse) :
    (isAuthorized crypto issuer r = true ↔ Backed crypto issuer r ∧
      ¬ Shadowed crypto issuer r) ∧
    ((isAuthorized crypto issuer r = true ↔ Backed crypto issuer r) ↔
      ¬ Shadowed crypto issuer r) ∧
    ((∀ order : List Certificate, order.Perm r.certificates →
      isAuthorized crypto issuer { r with certificates := order } =
        isAuthorized crypto issuer r) ↔
        OrderFree crypto issuer r) ∧
    ∀ x date, (byOcsp? crypto (.ofList [r]) x issuer date).isSome = true ↔
      isAuthorized crypto issuer r = true ∧ ∃ single, r.find? x.serial = some single ∧
        single.thisUpdate ≤ date := by
  have haccepted : isAuthorized crypto issuer r = true ↔
      Backed crypto issuer r ∧ ¬ Shadowed crypto issuer r :=
    ⟨fun h => ⟨backed_of_isAuthorized h,
      (isAuthorized_iff_not_shadowed (backed_of_isAuthorized h)).1 h⟩,
      fun ⟨backed, hclear⟩ => (isAuthorized_iff_not_shadowed backed).2 hclear⟩
  refine ⟨haccepted, ?_, forall_perm_isAuthorized_iff,
    fun x date => byOcsp?_singleton_isSome_iff⟩
  rw [haccepted, and_iff_left_iff_imp]
  constructor
  · intro hclear shadowed
    obtain ⟨x, along, delegate⟩ := shadowed.behind
    exact hclear (.byDelegate along delegate) shadowed
  · exact fun hclear _ => hclear

end SignatureTrust.Status

namespace SignatureTrust.Specimen

open Status

/-- The root's responder. -/
def responder : Certificate := certificate "CN=OCSP" "CN=Root" 3 2 0

/-- Somebody's certificate with the same name, which the root did not sign. -/
def impostor : Certificate := certificate "CN=OCSP" "CN=Root" 4 9 9

/-- The responder says that the leaf is good, and certificates come along. -/
def delegated (certificates : List Certificate) : OcspResponse where
  encoding := [7]
  responder := .name ⟨"CN=OCSP"⟩
  producedAt := ⟨1⟩
  responses := [⟨leaf.serial, .good, ⟨1⟩, none⟩]
  signed := signedWith 2
  certificates := certificates

/-- **Behind an impostor the responder is not found**, though it signed the response; in front of
it, it is. -/
theorem responder_not_found_behind_impostor :
    Backed crypto root (delegated [impostor, responder]) ∧
      isAuthorized crypto root (delegated [impostor, responder]) = false ∧
      byOcsp? crypto (.ofList [delegated [impostor, responder]]) leaf root ⟨5⟩ = none ∧
      [responder, impostor].Perm [impostor, responder] ∧
      isAuthorized crypto root (delegated [responder, impostor]) = true ∧
      (byOcsp? crypto (.ofList [delegated [responder, impostor]]) leaf root ⟨5⟩).map
        (·.validity) = some .valid := by
  have delegate : Delegate crypto root (delegated [impostor, responder]) responder :=
    ⟨by decide +kernel, by decide +kernel, by decide +kernel⟩
  have hnone : (byOcsp? crypto (.ofList [delegated [impostor, responder]]) leaf root
      ⟨5⟩).isNone = true := by
    decide +kernel
  refine ⟨.byDelegate (by decide) delegate, by decide +kernel,
    Option.isNone_iff_eq_none.1 hnone, ?_,
    by decide +kernel, by decide +kernel⟩
  exact .swap impostor responder []

end SignatureTrust.Specimen
