import SignatureTrust.Proofs.Discovery.ServicePeriod

/-!
# `Proofs.Discovery.IssuerChoice` — which of the possible issuers is taken

What may have signed a token is put in one row: what the trusted list has, what came with the token,
what the source outside has. Of that row the entries that **suit** are kept (`Sources.Suits`: they
have the name asked for, are valid, are under supervision if that counts, and made the signature).
The search takes one of what is left, and which one is said here by position (`IssuerPolicy.Takes`),
without the loops that look for it:

> the search takes an entry **exactly when the policy takes it out of the entries that suit**, and
> takes none exactly when none suits.

One certificate may come more than once, with another provenance each time. From different sources
every copy counts. Among the certificates that come with one token a second copy is like the first,
and then it changes nothing, whatever the policy (`select_repeated`); so it does not matter that the
token's own store drops it.
-/

set_option autoImplicit false

namespace SignatureTrust

/-! ## The policies, by position -/

namespace IssuerPolicy

/-- What a policy takes out of a row. -/
def Takes : IssuerPolicy → List Entry → Entry → Prop
  | .firstMatch, row, e => ∃ rest, row = e :: rest
  | .latestNotBefore, row, e => ∃ before after, row = before ++ e :: after ∧
      (∀ a ∈ before, a.certificate.notBefore < e.certificate.notBefore) ∧
      ∀ a ∈ after, a.certificate.notBefore ≤ e.certificate.notBefore
  | .preferTrustedList, row, e =>
      (∃ before after, row = before ++ e :: after ∧ (∀ a ∈ before, a.isTrusted = false) ∧
        e.isTrusted = true) ∨
      ((∀ a ∈ row, a.isTrusted = false) ∧ ∃ rest, row = e :: rest)

variable {policy : IssuerPolicy} {row xs ys : List Entry} {e f : Entry} {p : Entry → Bool}

/-- Of those whose validity starts last the first is found. -/
theorem takes_latest (best : Entry) (rest : List Entry) :
    Takes .latestNotBefore (best :: rest) (latest best rest) := by
  induction rest generalizing best with
  | nil => exact ⟨[], [], rfl, by simp, by simp⟩
  | cons a rest ih =>
      simp only [latest]
      split
      case isTrue later =>
          obtain ⟨before, after, hrow, earlier, notLater⟩ := ih a
          have hbest : best.certificate.notBefore < (latest a rest).certificate.notBefore := by
            cases before with
            | nil =>
                obtain ⟨same, -⟩ := List.cons.inj hrow
                exact same ▸ later
            | cons b before =>
                obtain ⟨rfl, -⟩ := List.cons.inj hrow
                exact Int.lt_trans later (earlier a List.mem_cons_self)
          exact ⟨best :: before, after, by rw [hrow, List.cons_append],
            List.forall_mem_cons.2 ⟨hbest, earlier⟩, notLater⟩
      case isFalse notLater =>
          have ha : a.certificate.notBefore ≤ best.certificate.notBefore :=
            Instant.not_lt.1 notLater
          obtain ⟨before, after, hrow, earlier, hafter⟩ := ih best
          cases before with
          | nil =>
              obtain ⟨same, rfl⟩ := List.cons.inj hrow
              refine ⟨[], a :: rest, by rw [← same]; rfl, by simp,
                List.forall_mem_cons.2 ⟨same ▸ ha, hafter⟩⟩
          | cons b before =>
              obtain ⟨rfl, hrest⟩ := List.cons.inj hrow
              obtain ⟨hbest, hbefore⟩ := List.forall_mem_cons.1 earlier
              refine ⟨best :: a :: before, after, congrArg (best :: a :: ·) hrest, ?_, hafter⟩
              exact List.forall_mem_cons.2 ⟨hbest,
                List.forall_mem_cons.2 ⟨Int.lt_of_le_of_lt ha hbest, hbefore⟩⟩

/-- Only one entry is the first of those whose validity starts last. -/
theorem takes_latest_unique (he : Takes .latestNotBefore row e)
    (hf : Takes .latestNotBefore row f) : e = f := by
  obtain ⟨before, after, rfl, earlier, notLater⟩ := he
  obtain ⟨before', after', hrow, earlier', notLater'⟩ := hf
  rcases List.append_eq_append_iff.1 hrow with ⟨between, rfl, hrest⟩ | ⟨between, rfl, hrest⟩
  · cases between with
    | nil => exact (List.cons.inj hrest).1
    | cons b between =>
        -- `e` comes before `f`, so it starts earlier; but nothing after `e` starts later than it
        obtain ⟨rfl, rfl⟩ := List.cons.inj hrest
        exact absurd (earlier' e (by simp)) (Instant.not_lt.2 (notLater f (by simp)))
  · cases between with
    | nil => exact (List.cons.inj hrest).1.symm
    | cons b between =>
        obtain ⟨rfl, rfl⟩ := List.cons.inj hrest
        exact absurd (earlier f (by simp)) (Instant.not_lt.2 (notLater' e (by simp)))

/-- The first that is trusted is found, and the first of all if none is. -/
theorem getD_find?_isTrusted_eq_iff {first : Entry} {rest : List Entry} :
    ((first :: rest).find? (·.isTrusted)).getD first = e ↔
      Takes .preferTrustedList (first :: rest) e := by
  simp only [Takes]
  cases found : (first :: rest).find? (·.isTrusted) with
  | none =>
      have untrusted : ∀ a ∈ first :: rest, a.isTrusted = false := fun a ha => by
        simpa using List.find?_eq_none.1 found a ha
      constructor
      · rintro rfl
        exact .inr ⟨untrusted, rest, rfl⟩
      · rintro (⟨before, after, hrow, -, trusted⟩ | ⟨-, _, hrow⟩)
        · have he : e ∈ first :: rest := hrow ▸ List.mem_append_right before List.mem_cons_self
          rw [untrusted e he] at trusted
          cases trusted
        · exact (List.cons.inj hrow).1
  | some a =>
      obtain ⟨ha, before, after, hrow, hbefore⟩ := List.find?_eq_some_iff_append.1 found
      have untrusted : ∀ b ∈ before, b.isTrusted = false :=
        fun b hb => by simpa using hbefore b hb
      constructor
      · rintro rfl
        exact .inl ⟨before, after, hrow, untrusted, ha⟩
      · rintro (⟨before', after', hrow', untrusted', trusted⟩ | ⟨noneTrusted, -⟩)
        · have found' : (first :: rest).find? (·.isTrusted) = some e :=
            List.find?_eq_some_iff_append.2 ⟨trusted, before', after', hrow',
              fun b hb => by simp [untrusted' b hb]⟩
          exact Option.some.inj (found.symm.trans found')
        · rw [noneTrusted a (List.mem_of_find?_eq_some found)] at ha
          cases ha

/-- **A policy selects what it takes by position.** -/
theorem select_eq_some_iff : policy.select row = some e ↔ policy.Takes row e := by
  cases row with
  | nil => cases policy <;> simp [select, Takes]
  | cons a rest =>
      cases policy with
      | firstMatch => simp [select, Takes]
      | latestNotBefore =>
          simp only [select, Option.some.injEq]
          exact ⟨fun h => h ▸ takes_latest a rest, takes_latest_unique (takes_latest a rest)⟩
      | preferTrustedList =>
          simp only [select, Option.some.injEq]
          exact getD_find?_isTrusted_eq_iff

/-! ## What comes again -/

theorem latest_append (best : Entry) : latest best (xs ++ ys) = latest (latest best xs) ys := by
  induction xs generalizing best with
  | nil => rfl
  | cons a xs ih =>
      simp only [List.cons_append, latest]
      split
      · exact ih a
      · exact ih best

/-- Nothing in a row starts later than the latest of it. -/
theorem notBefore_le_latest {best : Entry} (he : e ∈ best :: xs) :
    e.certificate.notBefore ≤ (latest best xs).certificate.notBefore := by
  obtain ⟨before, after, hrow, earlier, notLater⟩ := takes_latest best xs
  rw [hrow] at he
  rcases List.mem_append.1 he with he | he
  · exact Instant.le_of_lt (earlier e he)
  · rcases List.mem_cons.1 he with rfl | he
    · exact Instant.le_refl _
    · exact notLater e he

/-- An entry that came before may come again. -/
theorem select_repeated (he : e ∈ xs) :
    policy.select (xs ++ e :: ys) = policy.select (xs ++ ys) := by
  cases xs with
  | nil => cases he
  | cons a xs =>
      cases policy with
      | firstMatch => rfl
      | latestNotBefore =>
          simp only [List.cons_append, select, Option.some.injEq, latest_append]
          rw [latest, if_neg (Instant.not_lt.2 (notBefore_le_latest he))]
      | preferTrustedList =>
          have hfind : (a :: xs ++ e :: ys).find? (·.isTrusted) =
              (a :: xs ++ ys).find? (·.isTrusted) := by
            rw [List.find?_append, List.find?_append]
            cases htrusted : e.isTrusted with
            | false => rw [List.find?_cons_of_neg (a := e) (by simp [htrusted])]
            | true =>
                have hsome : ((a :: xs).find? (·.isTrusted)).isSome = true :=
                  List.find?_isSome.2 ⟨e, he, htrusted⟩
                obtain ⟨b, hb⟩ := Option.isSome_iff_exists.1 hsome
                rw [hb]
                rfl
          simp only [List.cons_append, select] at hfind ⊢
          rw [hfind]

theorem select_filter_repeated (he : e ∈ xs) :
    policy.select ((xs ++ e :: ys).filter p) = policy.select ((xs ++ ys).filter p) := by
  rw [List.filter_append, List.filter_append, List.filter_cons]
  split
  case isTrue hp => exact select_repeated (List.mem_filter.2 ⟨he, hp⟩)
  case isFalse => rfl

/-- **A store in a row may be replaced by what was put into it**, if one encoding has one
certificate. -/
theorem select_foldl_addCertificate {before after : List Entry} {all bag : List Certificate}
    {s : CertificateStore} (hone : ∀ a ∈ all, ∀ b ∈ all, a.encoding = b.encoding → a = b)
    (hbag : ∀ x ∈ bag, x ∈ all)
    (hs : ∀ e ∈ s.entries, ∃ y ∈ all, e = .plain y s.provenance) :
    policy.select ((before ++ (bag.foldl .addCertificate s).entries ++ after).filter p) =
      policy.select ((before ++ (s.entries ++ bag.map fun x => Entry.plain x s.provenance) ++
        after).filter p) := by
  induction bag generalizing s with
  | nil => simp
  | cons x bag ih =>
      obtain ⟨hx, hrest⟩ := List.forall_mem_cons.1 hbag
      rw [List.foldl_cons]
      cases hholds : s.holds x with
      | true =>
          -- what is there with the encoding of `x` is `x`, so `x` is what comes again
          have hkept : s.addCertificate x = s := if_pos hholds
          obtain ⟨e, he, hsame⟩ := List.any_eq_true.1 hholds
          obtain ⟨y, hy, rfl⟩ := hs e he
          obtain rfl : y = x := hone y hy x hx (Certificate.sameEncoding_iff.1 hsame)
          let later := (bag.map fun x => Entry.plain x s.provenance) ++ after
          have hagain : policy.select ((before ++ s.entries ++ .plain y s.provenance ::
              later).filter p) = policy.select ((before ++ s.entries ++ later).filter p) :=
            select_filter_repeated (List.mem_append_right before he)
          rw [hkept, ih hrest hs]
          simpa [later] using hagain.symm
      | false =>
          have hentries : (s.addCertificate x).entries = s.entries ++ [.plain x s.provenance] := by
            simp [CertificateStore.addCertificate, CertificateStore.add, Entry.plain, hholds]
          have hadded : ∀ e ∈ (s.addCertificate x).entries, ∃ y ∈ all, e =
              .plain y (s.addCertificate x).provenance := by
            rw [hentries, CertificateStore.provenance_addCertificate]
            intro e he
            rcases List.mem_append.1 he with he | he
            · exact hs e he
            · exact ⟨x, hx, List.mem_singleton.1 he⟩
          rw [ih hrest hadded, hentries, CertificateStore.provenance_addCertificate]
          simp

end IssuerPolicy

/-! ## The row, and who suits -/

/-- What an optional source holds: it answers a name with those of the entries that have it as their
subject. A source that is not there holds nothing. -/
def CertificateSource.Holds (source : Option CertificateSource) (entries : List Entry) : Prop :=
  ∀ name, (match source with
    | some source => source name
    | none => []) = entries.filter fun e => e.certificate.subject.same name

namespace CertificateSource

theorem holds_none : Holds none [] := fun _ => rfl

/-- Sources in turn hold what they hold, in turn. -/
theorem holds_inTurn {stores : List CertificateStore} :
    Holds (some (inTurn (stores.map (·.bySubject)))) (stores.flatMap (·.entries)) := by
  intro name
  simp [inTurn, List.flatMap_map, List.filter_flatMap, CertificateStore.bySubject]

end CertificateSource

/-- Only a service from a trusted list can speak against an entry. -/
theorem Entry.serviceActiveAt_iff {e : Entry} {date : Instant} :
    e.serviceActiveAt date = true ↔
      (e.provenance = .trustedList → ∀ v ∈ e.service, v.Covers date) := by
  obtain ⟨x, provenance, service⟩ := e
  cases provenance <;> cases service <;> simp [serviceActiveAt, Service.isActiveAt_iff]

namespace Sources

variable {sources : Sources} {config : Config} {date : Instant} {t : Token} {e : Entry}
variable {trusted external row : List Entry}

/-- An entry may be the issuer of a token at a date. -/
structure Suits (sources : Sources) (config : Config) (date : Instant) (t : Token) (e : Entry) :
    Prop where
  named : t.AsksFor e.certificate
  begun : e.certificate.notBefore ≤ date
  notOver : date ≤ e.certificate.notAfter
  supervised : config.checkServiceWindow = true → e.provenance = .trustedList →
    ∀ v ∈ e.service, v.Covers date
  signed : t.isSignedBy sources.crypto e.certificate = true

theorem suits_iff : sources.Suits config date t e ↔
    t.AsksFor e.certificate ∧ sources.accepts config date t e = true := by
  rw [accepts_iff, Entry.serviceActiveAt_iff, Certificate.isValidAt_iff]
  exact ⟨fun h => ⟨h.named, ⟨h.begun, h.notOver⟩, h.supervised, h.signed⟩,
    fun ⟨named, ⟨begun, notOver⟩, supervised, signed⟩ =>
    ⟨named, begun, notOver, supervised, signed⟩⟩

instance : DecidablePred (sources.Suits config date t) := fun e =>
  have hasks : (t.signerName?.any fun name => e.certificate.subject.same name) = true ↔
      t.AsksFor e.certificate :=
    Option.any_eq_true ..
  decidable_of_iff' _ (suits_iff.trans (and_congr_left fun _ => hasks.symm))

/-- Those of a row that suit. -/
def suitable (sources : Sources) (config : Config) (date : Instant) (t : Token) (row : List Entry) :
    List Entry :=
  row.filter fun e => decide (sources.Suits config date t e)

/-- What is answered to a name and then tested is what suits. -/
theorem filter_accepts_eq_suitable {name : Name} (hname : t.signerName? = some name) :
    (row.filter fun e => e.certificate.subject.same name).filter (sources.accepts config date t) =
      sources.suitable config date t row := by
  rw [List.filter_filter, suitable]
  refine List.filter_congr fun e _ => ?_
  have hasks : t.AsksFor e.certificate ↔ e.certificate.subject.same name = true := by
    simp [Token.AsksFor, hname]
  rw [Bool.eq_iff_iff, Bool.and_eq_true, decide_eq_true_iff, suits_iff, hasks]
  exact And.comm

/-- Nothing suits a token that names nobody. -/
theorem suitable_eq_nil_of_nameless (hname : t.signerName? = none) :
    sources.suitable config date t row = [] := by
  refine List.filter_eq_nil_iff.2 fun e _ hsuits => ?_
  obtain ⟨name, hsome, -⟩ := (of_decide_eq_true hsuits).named
  rw [hname] at hsome
  cases hsome

/-- **The issuers of a token are the entries that suit it**, of what the sources hold and what came
with it. -/
theorem issuers_eq_suitable (htrusted : CertificateSource.Holds sources.trustedList trusted)
    (hexternal : CertificateSource.Holds sources.external external) :
    sources.issuers config date t =
      sources.suitable config date t (trusted ++ t.embedded.entries ++ external) := by
  unfold issuers
  cases hname : t.signerName? with
  | none => exact (suitable_eq_nil_of_nameless hname).symm
  | some name =>
      have hrow : sources.candidates t name = (trusted ++ t.embedded.entries ++ external).filter
          fun e => e.certificate.subject.same name := by
        rw [List.filter_append, List.filter_append, ← htrusted name, ← hexternal name]
        rfl
      rw [← filter_accepts_eq_suitable hname, ← hrow]

/-- The certificates that come with a token may stand in the row as they came. -/
theorem issuer?_eq_select_bag (htrusted : CertificateSource.Holds sources.trustedList trusted)
    (hexternal : CertificateSource.Holds sources.external external)
    (hone : ∀ a ∈ t.bag, ∀ b ∈ t.bag, a.encoding = b.encoding → a = b) :
    sources.issuer? config date t = config.issuerPolicy.select
      (sources.suitable config date t
        (trusted ++ (t.bag.map fun x => .plain x .embedded) ++ external)) := by
  have hstore : t.embedded = t.bag.foldl .addCertificate (.empty .embedded) := by cases t <;> rfl
  rw [issuer?, issuers_eq_suitable htrusted hexternal, suitable, hstore, suitable]
  exact IssuerPolicy.select_foldl_addCertificate hone (fun _ h => h) (by rintro e ⟨⟩)

end Sources

namespace Context

variable {sources : Sources} {config : Config} {c : Context} {h : Handle} {s : Slot}

/-- A token that waits is recorded as having no issuer when none is found, and only then. -/
theorem process_records_issuerNotFound_iff (hs : c.slot? h = some s)
    (hwaits : s.resolution = none) :
    ∃ c' r, c.process sources config h s.token = .ok c' ∧ c'.resolutionAt? h = some r ∧
      ((∃ i, r = .unresolved i .issuerNotFound) ↔
        sources.issuer? config c.date s.token = none) := by
  obtain ⟨c', hrun, hreaches, s', r, hs', hr, hground⟩ :=
    process_reaches sources config hs hwaits
  have hdate : c'.date = c.date := hreaches.grows.date
  refine ⟨c', r, hrun, by simp [resolutionAt?, hs', hr], ?_⟩
  rw [← hdate]
  generalize s.token = t at hground ⊢
  cases hground with
  | noIssuer search => simp [search]
  | noStatus search _ _ | status search _ _ _ _ | signer _ search _ => simp [search]

end Context

section Choice

variable {sources : Sources} {config : Config} {date : Instant} {t : Token}
  {trusted external : List Entry}

open Sources

/-- **The issuer of a token is what the policy takes out of the entries that suit it**, and there is
none exactly when the token names nobody or nobody suits; only then is it recorded that none was
found. What came with the token may stand in the row as it came, with every copy. -/
theorem issuer_is_taken_from_suitable
    (htrusted : CertificateSource.Holds sources.trustedList trusted)
    (hexternal : CertificateSource.Holds sources.external external) :
    let row := trusted ++ t.embedded.entries ++ external
    (∀ e, sources.issuer? config date t = some e ↔
      config.issuerPolicy.Takes (sources.suitable config date t row) e) ∧
    (sources.issuer? config date t = none ↔
      t.signerName? = none ∨ sources.suitable config date t row = []) ∧
    (∀ (c : Context) (h : Handle) (s : Slot), c.slot? h = some s → s.token = t →
      s.resolution = none → c.date = date →
      ∃ c' r, c.process sources config h t = .ok c' ∧ c'.resolutionAt? h = some r ∧
        ((∃ i, r = .unresolved i .issuerNotFound) ↔
          t.signerName? = none ∨ sources.suitable config date t row = [])) ∧
    ((∀ a ∈ t.bag, ∀ b ∈ t.bag, a.encoding = b.encoding → a = b) →
      ∀ e, sources.issuer? config date t = some e ↔ config.issuerPolicy.Takes
        (sources.suitable config date t
            (trusted ++ (t.bag.map fun x => .plain x .embedded) ++ external)) e) := by
  intro row
  have hissuers : sources.issuers config date t = sources.suitable config date t row :=
    issuers_eq_suitable htrusted hexternal
  have hnone : sources.issuer? config date t = none ↔
      t.signerName? = none ∨ sources.suitable config date t row = [] := by
    rw [issuer?_eq_none_iff, hissuers]
    exact ⟨.inr, fun h => h.elim suitable_eq_nil_of_nameless id⟩
  refine ⟨fun e => ?_, hnone, ?_, fun hone e => ?_⟩
  · rw [issuer?, hissuers, IssuerPolicy.select_eq_some_iff]
  · rintro c h s hs rfl hwaits rfl
    obtain ⟨c', r, hrun, hr, hrecord⟩ := Context.process_records_issuerNotFound_iff hs hwaits
    exact ⟨c', r, hrun, hr, hrecord.trans hnone⟩
  · rw [issuer?_eq_select_bag htrusted hexternal hone, IssuerPolicy.select_eq_some_iff]

end Choice

namespace Specimen

open CertificateSource

/-- The service behind the root. -/
def rootService : Service := ⟨"CA/QC", ⟨0⟩, none, []⟩

/-- The root twice, first as it was found and then from a trusted list. -/
def copies : List CertificateStore :=
  [.ofEntries .other [.plain root .other], .ofEntries .trustedList [.trusted root rootService]]

def offering : Sources where
  crypto := crypto
  external := some (inTurn (copies.map (·.bySubject)))

/-- Both copies suit the leaf. The first is taken, unless trusted lists are preferred. -/
theorem copy_taken_by_policy :
    Holds offering.trustedList [] ∧ Holds offering.external (copies.flatMap (·.entries)) ∧
      offering.issuer? {} ⟨5⟩ (.certificate leaf) = some (.plain root .other) ∧
      offering.issuer? { issuerPolicy := .preferTrustedList } ⟨5⟩ (.certificate leaf) =
        some (.trusted root rootService) := by
  have htrusted : Holds offering.trustedList [] := holds_none
  have hexternal : Holds offering.external (copies.flatMap (·.entries)) := holds_inTurn
  refine ⟨htrusted, hexternal, ?_, ?_⟩
  · refine ((issuer_is_taken_from_suitable htrusted hexternal).1 _).2
      ⟨[.trusted root rootService], ?_⟩
    decide +kernel
  · refine ((issuer_is_taken_from_suitable htrusted hexternal).1 _).2
      (.inl ⟨[.plain root .other], [], ?_, ?_, rfl⟩)
    · decide +kernel
    · simp [Entry.plain, Entry.isTrusted]

end Specimen
end SignatureTrust
