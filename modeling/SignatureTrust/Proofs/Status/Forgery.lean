import SignatureTrust.Proofs.Discovery.IssuerLinks
import SignatureTrust.Proofs.Source.Insertion

/-!
# `Proofs.Status.Forgery` — what forged evidence can do to a status

A source picks one piece of evidence by name and date, and only then is it asked who signed it. So
forged evidence is never believed, but it can be **picked**, and then there is no answer from that
source:

> forged evidence never makes an answer; it leaves the status as it was exactly where it does not
> come out newest in front of the evidence that the status rests on (`check?_inserted_eq_iff`).

What it takes away is the harm. Without the answer of a genuine response the question goes on to a
list, which may be older than the revocation (`Forged`).
-/

set_option autoImplicit false

namespace SignatureTrust.Status

open EvidenceSource

variable {crypto : Crypto} {x issuer : Certificate} {date : Instant} {s : Status}
variable {responses responses' : List OcspResponse} {crls crls' : List Crl}

/-- The status of a certificate from evidence in memory. -/
def checkWithin? (crypto : Crypto) (responses : List OcspResponse) (crls : List Crl)
    (x issuer : Certificate) (date : Instant) : Option Status :=
  check? crypto (some (.ofList responses)) (some (.ofList crls)) x issuer date

theorem checkWithin?_eq_orElse : checkWithin? crypto responses crls x issuer date =
    orElse (((OcspSource.ofList responses).getAt x issuer date).bind
      (ofResponse? crypto x issuer date))
      (((CrlSource.ofList crls).getAt x issuer date).bind (ofCrl? crypto x issuer date)) := rfl

/-- Of what the source of its kind looks at, in these lists, this piece of evidence is the
newest. -/
inductive IsNewest (responses : List OcspResponse) (crls : List Crl) (x issuer : Certificate)
    (date : Instant) :
    RevocationEvidence → Prop
  | response {r : OcspResponse} (leads : Leads (·.producedAt) (responses.filter
      (OcspSource.concerns x issuer fun single => decide (single.thisUpdate ≤ date))) r) :
      IsNewest _ _ _ _ _ (.ocsp r)
  | list {l : Crl} (leads : Leads (·.thisUpdate) (crls.filter fun crl =>
      CrlSource.concerns issuer crl && decide (crl.thisUpdate ≤ date)) l) :
      IsNewest _ _ _ _ _ (.crl l)

theorem isNewest_ocsp_iff {r : OcspResponse} :
    IsNewest responses crls x issuer date (.ocsp r) ↔
      (OcspSource.ofList responses).getAt x issuer date = some r := by
  refine Iff.trans ?_ newest?_eq_some_iff.symm
  constructor
  · intro h
    cases h with
    | response leads => exact leads
  · exact .response

theorem isNewest_crl_iff {l : Crl} :
    IsNewest responses crls x issuer date (.crl l) ↔
      (CrlSource.ofList crls).getAt x issuer date = some l := by
  refine Iff.trans ?_ newest?_eq_some_iff.symm
  constructor
  · intro h
    cases h with
    | list leads => exact leads
  · exact .list

/-! ## One source -/

theorem ofResponse?_of_not_authorized {r : OcspResponse}
    (h : isAuthorized crypto issuer r = false) :
    ofResponse? crypto x issuer date r = none := by
  simp [ofResponse?, h]

theorem ofCrl?_of_not_signed {l : Crl} (h : (Token.crl l).isSignedBy crypto issuer = false) :
    ofCrl? crypto x issuer date l = none := by
  simp [ofCrl?, h]

theorem byOcsp?_eq_bind {source : OcspSource} :
    byOcsp? crypto source x issuer date =
        (source.getAt x issuer date).bind (ofResponse? crypto x issuer date) :=
  rfl

theorem byCrl?_eq_bind {source : CrlSource} :
    byCrl? crypto source x issuer date =
        (source.getAt x issuer date).bind (ofCrl? crypto x issuer date) :=
  rfl

theorem byOcsp?_inserted
    (h : Inserted (fun r => isAuthorized crypto issuer r = false) responses responses') :
    byOcsp? crypto (.ofList responses') x issuer date =
      byOcsp? crypto (.ofList responses) x issuer date ∨
      byOcsp? crypto (.ofList responses') x issuer date = none := by
  simp only [byOcsp?_eq_bind]
  rcases (h.filter _).newest?_cases with hn | ⟨r, hr, hn⟩
  · exact .inl (congrArg (Option.bind · (ofResponse? crypto x issuer date)) hn)
  · have hgiven : (OcspSource.ofList responses').getAt x issuer date = some r := hn
    rw [hgiven, Option.bind_some]
    exact .inr (ofResponse?_of_not_authorized hr)

theorem byCrl?_inserted
    (h : Inserted (fun l => (Token.crl l).isSignedBy crypto issuer = false) crls crls') :
    byCrl? crypto (.ofList crls') x issuer date = byCrl? crypto (.ofList crls) x issuer date ∨
      byCrl? crypto (.ofList crls') x issuer date = none := by
  simp only [byCrl?_eq_bind]
  rcases (h.filter _).newest?_cases with hn | ⟨l, hl, hn⟩
  · exact .inl (congrArg (Option.bind · (ofCrl? crypto x issuer date)) hn)
  · have hgiven : (CrlSource.ofList crls').getAt x issuer date = some l := hn
    rw [hgiven, Option.bind_some]
    exact .inr (ofCrl?_of_not_signed hl)

/-! ## Evidence and answer -/

/-- An answer rests on the newest of what its source looked at. -/
theorem isNewest_of_checkWithin? {evidence : RevocationEvidence}
    (h : checkWithin? crypto responses crls x issuer date = some s)
    (he : s.evidence = some evidence) :
    IsNewest responses crls x issuer date evidence := by
  obtain ⟨evidence', he', answered⟩ := answered_of_check? h
  obtain rfl := Option.some.inj (he'.symm.trans he)
  cases answered with
  | byResponse asked given _ =>
      obtain rfl := Option.some.inj asked
      exact isNewest_ocsp_iff.2 given
  | byList asked given _ =>
      obtain rfl := Option.some.inj asked
      exact isNewest_crl_iff.2 given

/-- Where its evidence is the newest, the answer of a response stays. -/
theorem byOcsp?_of_isNewest (h : byOcsp? crypto (.ofList responses) x issuer date = some s)
    (hnewest : ∀ evidence, s.evidence = some evidence →
      IsNewest responses' crls' x issuer date evidence) :
    byOcsp? crypto (.ofList responses') x issuer date = some s := by
  obtain ⟨r, -, hr⟩ := Option.bind_eq_some_iff.1 h
  have hgiven := isNewest_ocsp_iff.1 (hnewest _ (isAbout_of_ofResponse? hr).2)
  exact Option.bind_eq_some_iff.2 ⟨r, hgiven, hr⟩

theorem byCrl?_of_isNewest (h : byCrl? crypto (.ofList crls) x issuer date = some s)
    (hnewest : ∀ evidence, s.evidence = some evidence →
      IsNewest responses' crls' x issuer date evidence) :
    byCrl? crypto (.ofList crls') x issuer date = some s := by
  obtain ⟨l, -, hl⟩ := Option.bind_eq_some_iff.1 h
  have hgiven := isNewest_crl_iff.1 (hnewest _ (isAbout_of_ofCrl? hl).2)
  exact Option.bind_eq_some_iff.2 ⟨l, hgiven, hl⟩

/-! ## Both sources -/

theorem checkWithin?_of_isNewest
    (hocsp : Inserted (fun r => isAuthorized crypto issuer r = false) responses responses')
    (hcrl : Inserted (fun l => (Token.crl l).isSignedBy crypto issuer = false) crls crls')
    (hnewest : ∀ s evidence, checkWithin? crypto responses crls x issuer date = some s →
      s.evidence = some evidence → IsNewest responses' crls' x issuer date evidence) :
    checkWithin? crypto responses' crls' x issuer date =
      checkWithin? crypto responses crls x issuer date := by
  refine orElse_congr (byOcsp?_inserted hocsp) (byCrl?_inserted hcrl) ?_ ?_
  · intro s hs hfirst
    exact (byOcsp?_of_isNewest hfirst fun evidence => hnewest s evidence hs).trans hfirst.symm
  · intro s hs hfallback
    exact (byCrl?_of_isNewest hfallback fun evidence => hnewest s evidence hs).trans hfallback.symm

/-- Every answer from the longer lists is an answer of one of the shorter ones. -/
theorem answer_of_checkWithin?_inserted
    (hocsp : Inserted (fun r => isAuthorized crypto issuer r = false) responses responses')
    (hcrl : Inserted (fun l => (Token.crl l).isSignedBy crypto issuer = false) crls crls')
    (h : checkWithin? crypto responses' crls' x issuer date = some s) :
    byOcsp? crypto (.ofList responses) x issuer date = some s ∨
      byCrl? crypto (.ofList crls) x issuer date = some s := by
  rcases orElse_eq_some h with hs | hs
  · left
    rcases (byOcsp?_inserted hocsp : _ ∨
      byOcsp? crypto (.ofList responses') x issuer date = none) with heq | hnone
    · exact heq.symm.trans hs
    · cases hnone.symm.trans hs
  · right
    rcases (byCrl?_inserted hcrl : _ ∨ byCrl? crypto (.ofList crls') x issuer date = none) with
      heq | hnone
    · exact heq.symm.trans hs
    · cases hnone.symm.trans hs

/-- **Forged evidence leaves a status as it was exactly where the evidence behind the status is
still the newest**, and never makes an answer of its own. Where there was no answer there is
none. -/
theorem check?_inserted_eq_iff (crypto : Crypto) (x issuer : Certificate) (date : Instant)
    {responses responses' : List OcspResponse} {crls crls' : List Crl}
    (hocsp : Inserted (fun r => isAuthorized crypto issuer r = false) responses responses')
    (hcrl : Inserted (fun l => (Token.crl l).isSignedBy crypto issuer = false) crls crls') :
    (checkWithin? crypto responses' crls' x issuer date =
      checkWithin? crypto responses crls x issuer date ↔
      ∀ s evidence, checkWithin? crypto responses crls x issuer date = some s →
        s.evidence = some evidence →
        IsNewest responses' crls' x issuer date evidence) ∧
    ∀ s, checkWithin? crypto responses' crls' x issuer date = some s →
      byOcsp? crypto (.ofList responses) x issuer date = some s ∨
        byCrl? crypto (.ofList crls) x issuer date = some s := by
  refine ⟨⟨?_, checkWithin?_of_isNewest hocsp hcrl⟩,
    fun s => answer_of_checkWithin?_inserted hocsp hcrl⟩
  intro heq s evidence hs he
  exact isNewest_of_checkWithin? (heq.trans hs) he

end SignatureTrust.Status

namespace SignatureTrust.Forged

open Specimen Status

/-- A response about the leaf in the root's name. -/
def response (encoding : Octets) (answer : OcspAnswer) (producedAt : Int) (signer : UInt8) :
    OcspResponse where
  encoding := encoding
  responder := .name ⟨"CN=Root"⟩
  producedAt := ⟨producedAt⟩
  responses := [⟨leaf.serial, answer, ⟨producedAt⟩, none⟩]
  signed := signedWith signer
  certificates := []

/-- The root says that the leaf was revoked at 1. -/
def genuine : OcspResponse := response [2] (.revoked ⟨1⟩) 2 0

/-- Somebody says later that the leaf is good. -/
def later : OcspResponse := response [3] .good 3 9

def earlier : OcspResponse := response [4] .good 1 9

/-- A list in the root's name, without the root's signature. -/
def list :
    Crl := { Specimen.list with encoding := [5], thisUpdate := ⟨4⟩, signed := signedWith 9 }

/-- A forged response that is older than the genuine one, and a forged list, change nothing. -/
theorem earlier_changes_nothing :
    Inserted (fun r => isAuthorized crypto root r = false) [genuine] [genuine, earlier] ∧
      Inserted (fun l => (Token.crl l).isSignedBy crypto root = false)
        [Specimen.list] [list, Specimen.list] ∧
      (checkWithin? crypto [genuine] [Specimen.list] leaf root ⟨5⟩).map
        (·.validity) = some .revoked ∧
      checkWithin? crypto [genuine, earlier] [list, Specimen.list] leaf root ⟨5⟩ =
        checkWithin? crypto [genuine] [Specimen.list] leaf root ⟨5⟩ := by
  have hocsp :
      Inserted (fun r => isAuthorized crypto root r = false) [genuine] [genuine, earlier] :=
    .keep genuine (.put (by decide +kernel) .nil)
  have hcrl : Inserted (fun l => (Token.crl l).isSignedBy crypto root = false) [Specimen.list]
      [list, Specimen.list] :=
    .put (by decide +kernel) (.keep Specimen.list .nil)
  refine ⟨hocsp, hcrl, by decide +kernel,
    (check?_inserted_eq_iff crypto leaf root ⟨5⟩ hocsp hcrl).1.2 ?_⟩
  intro s evidence hs he
  -- the status rests on the genuine response
  have hrests : ((checkWithin? crypto [genuine] [Specimen.list] leaf root ⟨5⟩).bind
      (·.evidence)).map (·.token) = some (.ocsp genuine) := by decide +kernel
  rw [hs, Option.bind_some, he, Option.map_some, Option.some.injEq] at hrests
  cases evidence with
  | crl _ => cases hrests
  | ocsp r =>
      obtain rfl := Token.ocsp.inj hrests
      exact isNewest_ocsp_iff.2 (by decide +kernel)

/-- **A forged response that is newer than the genuine one hides a revocation**: the older list is
asked instead. -/
theorem later_hides_revocation :
    isAuthorized crypto root later = false ∧
      (checkWithin? crypto [genuine] [Specimen.list] leaf root ⟨5⟩).map
        (·.validity) = some .revoked ∧
      (checkWithin? crypto [genuine, later] [Specimen.list] leaf root ⟨5⟩).map
        (·.validity) = some .valid := by
  decide +kernel

end SignatureTrust.Forged
