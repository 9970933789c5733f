import SignatureTrust.Proofs.Discovery.Issuer
import SignatureTrust.Proofs.Discovery.IssuerLinks

/-!
# `Proofs.Discovery.ServicePeriod` — which of a service's periods counts

A trusted list is built call by call, and a service with a history has several periods for one
certificate. A store keeps one entry for each encoding, so only one of them can count, and which one
is decided by the order of the calls:

> a certificate is offered at a date **exactly when the first period given for it covers the date**
> (`offers_iff_first_covers`).

A period that is to count beside others needs a list of its own: lists that are asked in turn drop
nothing (`mem_inTurn_ofTrusted_iff`).
-/

set_option autoImplicit false

namespace SignatureTrust

/-- A date is in a service's period, both ends included. -/
structure Service.Covers (v : Service) (date : Instant) : Prop where
  begun : v.start ≤ date
  notOver : ∀ {stop : Instant}, v.stop = some stop → date ≤ stop

theorem Service.isActiveAt_iff {v : Service} {date : Instant} :
    v.isActiveAt date = true ↔ v.Covers date := by
  cases hstop : v.stop with
  | none =>
      have hcovers : v.Covers date ↔ v.start ≤ date :=
        ⟨Covers.begun, fun h => ⟨h, by simp [hstop]⟩⟩
      simp [hcovers, isActiveAt, Instant.within, hstop]
  | some stop =>
      have hcovers : v.Covers date ↔ v.start ≤ date ∧ date ≤ stop := by
        constructor
        · exact fun h => ⟨h.begun, h.notOver hstop⟩
        · rintro ⟨begun, notOver⟩
          exact ⟨begun, fun hs => Option.some.inj (hstop.symm.trans hs) ▸ notOver⟩
      simp [hcovers, isActiveAt, Instant.within, hstop]

/-! ## What a store keeps of the calls -/

namespace CertificateStore

/-- The store that calls of `addTrusted` make, one after another. -/
def ofTrusted (p : Provenance) (calls : List (Certificate × Service)) : CertificateStore :=
  calls.foldl (fun s call => s.addTrusted call.1 call.2) (empty p)

variable {p : Provenance} {e : Entry} {calls : List (Certificate × Service)}

theorem ofTrusted_eq :
    ofTrusted p calls = ofEntries p (calls.map fun call => .trusted call.1 call.2) := by
  rw [ofTrusted, ofEntries, List.foldl_map]
  rfl

/-- Of the calls for an encoding the first is kept. -/
theorem mem_ofTrusted_iff : e ∈ (ofTrusted p calls).entries ↔
    ∃ x v, e = .trusted x v ∧
      calls.find? (fun call => call.1.sameEncoding x) = some (x, v) := by
  rw [ofTrusted_eq, mem_ofEntries_iff, List.find?_map, Option.map_eq_some_iff]
  constructor
  · rintro ⟨⟨x, v⟩, hfirst, rfl⟩
    exact ⟨x, v, rfl, hfirst⟩
  · rintro ⟨x, v, rfl, hfirst⟩
    exact ⟨(x, v), hfirst, rfl⟩

/-- Lists that have one call each keep every call. -/
theorem mem_inTurn_ofTrusted_iff {name : Name} :
    e ∈ CertificateSource.inTurn (calls.map fun call => (ofTrusted p [call]).bySubject) name ↔
      ∃ x v, e = .trusted x v ∧ (x, v) ∈ calls ∧ x.subject.same name = true := by
  simp only [CertificateSource.inTurn, List.mem_flatMap, List.mem_map]
  constructor
  · rintro ⟨_, ⟨call, hcall, rfl⟩, he⟩
    obtain ⟨hmem, hsubject⟩ := mem_bySubject_iff.1 he
    obtain ⟨x, v, rfl, hfirst⟩ := mem_ofTrusted_iff.1 hmem
    obtain rfl := List.mem_singleton.1 (List.mem_of_find?_eq_some hfirst)
    exact ⟨x, v, rfl, hcall, hsubject⟩
  · rintro ⟨x, v, rfl, hcall, hsubject⟩
    have hmem : Entry.trusted x v ∈ (ofTrusted p [(x, v)]).entries :=
      mem_ofTrusted_iff.2 ⟨x, v, rfl, by simp [Certificate.sameEncoding]⟩
    exact ⟨_, ⟨(x, v), hcall, rfl⟩, mem_bySubject_iff.2 ⟨hmem, hsubject⟩⟩

end CertificateStore

/-! ## What a trusted list offers -/

namespace Sources

/-- The issuers of a token that the trusted list has. -/
def trustedIssuers (sources : Sources) (config : Config) (date : Instant) (t : Token) :
    List Entry :=
  match sources.trustedList, t.signerName? with
  | some list, some name => (list name).filter (sources.accepts config date t)
  | _, _ => []

/-- The trusted list has a certificate among the issuers of a token. -/
def Offers (sources : Sources) (config : Config) (date : Instant) (t : Token)
    (x : Certificate) : Prop :=
  ∃ e ∈ sources.trustedIssuers config date t, e.certificate = x

variable {sources : Sources} {config : Config} {date : Instant} {t : Token} {x : Certificate}
  {list : CertificateSource}

/-- They come first among the issuers that the search finds. -/
theorem trustedIssuers_prefix (sources : Sources) (config : Config) (date : Instant) (t : Token) :
    sources.trustedIssuers config date t <+: sources.issuers config date t := by
  unfold trustedIssuers issuers candidates
  cases sources.trustedList with
  | none => exact List.nil_prefix
  | some list =>
      cases t.signerName? with
      | none => exact List.nil_prefix
      | some name =>
          simp only [List.append_assoc, List.filter_append]
          exact List.prefix_append _ _

theorem offers_iff {name : Name} (hlist : sources.trustedList = some list)
    (hname : t.signerName? = some name) :
    sources.Offers config date t x ↔
      ∃ e ∈ list name, e.certificate = x ∧ sources.accepts config date t e = true := by
  simp only [Offers, trustedIssuers, hlist, hname, List.mem_filter]
  exact exists_congr fun e => ⟨fun ⟨⟨hm, ha⟩, hx⟩ => ⟨hm, hx, ha⟩,
    fun ⟨hm, hx, ha⟩ => ⟨⟨hm, ha⟩, hx⟩⟩

/-- A certificate with a service passes the tests when it is valid and signed the token, and the
service counts. -/
theorem accepts_trusted_iff {v : Service} (hwindow : config.checkServiceWindow = true)
    (hvalid : x.isValidAt date = true) (hsigned : t.isSignedBy sources.crypto x = true) :
    sources.accepts config date t (.trusted x v) = true ↔ v.Covers date := by
  rw [accepts_iff, ← Service.isActiveAt_iff]
  simp [Entry.trusted, Entry.serviceActiveAt, hwindow, hvalid, hsigned]

/-- **The first period given for a certificate is the one that counts.** Where services are looked
at, a trusted list made call by call offers a certificate that was valid and signed the token
exactly when its first call was for a period that covers the date; no later call for the same
encoding matters. What the list offers comes first among the issuers. -/
theorem offers_iff_first_covers {p : Provenance} {calls : List (Certificate × Service)}
    (hlist : sources.trustedList = some (CertificateStore.ofTrusted p calls).bySubject)
    (hwindow : config.checkServiceWindow = true) (hvalid : x.isValidAt date = true)
    (hsigned : t.isSignedBy sources.crypto x = true) (hasks : t.AsksFor x) :
    (sources.Offers config date t x ↔
      ∃ v, calls.find? (fun call => call.1.sameEncoding x) = some (x, v) ∧ v.Covers date) ∧
    sources.trustedIssuers config date t <+: sources.issuers config date t := by
  refine ⟨?_, trustedIssuers_prefix sources config date t⟩
  obtain ⟨name, hname, hsubject⟩ := hasks
  rw [offers_iff hlist hname]
  constructor
  · rintro ⟨e, he, hx, haccepts⟩
    obtain ⟨y, v, rfl, hfirst⟩ :=
      CertificateStore.mem_ofTrusted_iff.1 (CertificateStore.mem_bySubject_iff.1 he).1
    obtain rfl : y = x := hx
    exact ⟨v, hfirst, (accepts_trusted_iff hwindow hvalid hsigned).1 haccepts⟩
  · rintro ⟨v, hfirst, hcovers⟩
    have hmem : Entry.trusted x v ∈ (CertificateStore.ofTrusted p calls).entries :=
      CertificateStore.mem_ofTrusted_iff.2 ⟨x, v, rfl, hfirst⟩
    exact ⟨_, CertificateStore.mem_bySubject_iff.2 ⟨hmem, hsubject⟩, rfl,
      (accepts_trusted_iff hwindow hvalid hsigned).2 hcovers⟩

end Sources

namespace Specimen

/-- The root's service was supervised until 1 and is again since 4. -/
def history : List (Certificate × Service) :=
  [(root, ⟨"CA/QC", ⟨0⟩, some ⟨1⟩, []⟩), (root, ⟨"CA/QC", ⟨4⟩, none, []⟩)]

def listing (calls : List (Certificate × Service)) : Sources where
  crypto := crypto
  trustedList := some (CertificateStore.ofTrusted .trustedList calls).bySubject

theorem leaf_asksFor_root : (Token.certificate leaf).AsksFor root := ⟨_, rfl, by decide +kernel⟩

/-- In the first period the root is offered. -/
theorem root_offered_in_first : (Token.certificate leaf).isSignedBy crypto root = true ∧
    (listing history).Offers {} ⟨1⟩ (.certificate leaf) root := by
  have hsigned : (Token.certificate leaf).isSignedBy crypto root = true := by decide +kernel
  refine ⟨hsigned,
    (Sources.offers_iff_first_covers rfl rfl rfl hsigned leaf_asksFor_root).1.2 ?_⟩
  exact ⟨_, rfl, Service.isActiveAt_iff.1 rfl⟩

/-- In the second it is not, though it would be if that period had been given first. -/
theorem root_not_offered_in_second :
    ({} : Config).checkServiceWindow = true ∧ root.isValidAt ⟨5⟩ = true ∧
      (Token.certificate leaf).isSignedBy crypto root = true ∧
      (∃ v, (root, v) ∈ history ∧ v.Covers ⟨5⟩) ∧
        ¬ (listing history).Offers {} ⟨5⟩ (.certificate leaf) root ∧
      (listing history.reverse).Offers {} ⟨5⟩ (.certificate leaf) root := by
  have hsecond : ∃ v, (root, v) ∈ history ∧ v.Covers ⟨5⟩ :=
    ⟨_, List.mem_cons_of_mem _ List.mem_cons_self, Service.isActiveAt_iff.1 rfl⟩
  refine ⟨rfl, rfl, by decide +kernel, hsecond, ?_, ?_⟩
  · rintro ⟨e, he, -⟩
    have hnone : (listing history).trustedIssuers {} ⟨5⟩ (.certificate leaf) = [] := by
      decide +kernel
    rw [hnone] at he
    cases he
  · have hsome : Entry.trusted root ⟨"CA/QC", ⟨4⟩, none, []⟩ ∈
        (listing history.reverse).trustedIssuers {} ⟨5⟩ (.certificate leaf) := by decide +kernel
    exact ⟨_, hsome, rfl⟩

end Specimen
end SignatureTrust
