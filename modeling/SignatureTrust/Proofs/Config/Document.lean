import SignatureTrust.Config.Document
import SignatureTrust.Proofs.Json
import SignatureTrust.Proofs.Structure.MaskText

/-!
# `Proofs.Config.Document` — what a document says of a configuration

A document need not say everything, and may say things that are not about a configuration. Reading
it goes from member to member and changes the defaults on the way, so the order could matter, and it
does not:

> **each setting is as the member of its name says, and otherwise as by default**
> (`exists_ofMembers?`).

The argument is that of a store: a member that is read sets its own setting (`value_set_self`) and
no other (`value_set_of_ne`), and no setting is set twice. That what is written is read back is the
case in which every setting has a member.
-/

set_option autoImplicit false

namespace SignatureTrust.Config

open Structure (Mask)

/-! ## Settings and their values -/

def Setting.Value : Setting → Type
  | .issuerPolicy => IssuerPolicy
  | .structuralChecks => Mask
  | .maxPasses => Nat
  | .stopOnFirstFailure | .checkServiceWindow | .verifyTimestampSigners
      | .validateCounterSignatures => Bool

def value (c : Config) : (s : Setting) → s.Value
  | .issuerPolicy => c.issuerPolicy
  | .structuralChecks => c.structuralChecks
  | .stopOnFirstFailure => c.stopOnFirstFailure
  | .checkServiceWindow => c.checkServiceWindow
  | .maxPasses => c.maxPasses
  | .verifyTimestampSigners => c.verifyTimestampSigners
  | .validateCounterSignatures => c.validateCounterSignatures

def set (c : Config) : (s : Setting) → s.Value → Config
  | .issuerPolicy, v => { c with issuerPolicy := v }
  | .structuralChecks, v => { c with structuralChecks := v }
  | .stopOnFirstFailure, v => { c with stopOnFirstFailure := v }
  | .checkServiceWindow, v => { c with checkServiceWindow := v }
  | .maxPasses, v => { c with maxPasses := v }
  | .verifyTimestampSigners, v => { c with verifyTimestampSigners := v }
  | .validateCounterSignatures, v => { c with validateCounterSignatures := v }

variable {c d : Config} {s t : Setting}

@[simp] theorem value_set_self (c : Config) (s : Setting) (v : s.Value) :
    (c.set s v).value s = v := by
  cases s <;> rfl

theorem value_set_of_ne (c : Config) {s t : Setting} (v : s.Value) (h : t ≠ s) :
    (c.set s v).value t = c.value t := by
  cases s <;> cases t <;> first | rfl | exact absurd rfl h

/-- A configuration is its settings. -/
theorem ext_value (h : ∀ s, c.value s = d.value s) : c = d := by
  obtain ⟨policy, checks, stop, window, passes, signers, counters⟩ := c
  obtain ⟨policy', checks', stop', window', passes', signers', counters'⟩ := d
  obtain rfl : policy = policy' := h .issuerPolicy
  obtain rfl : checks = checks' := h .structuralChecks
  obtain rfl : stop = stop' := h .stopOnFirstFailure
  obtain rfl : window = window' := h .checkServiceWindow
  obtain rfl : passes = passes' := h .maxPasses
  obtain rfl : signers = signers' := h .verifyTimestampSigners
  obtain rfl : counters = counters' := h .validateCounterSignatures
  rfl

/-! ## The value of a member -/

/-- Ways to write the value that a configuration has at a setting: the library's own, a policy as
the only member of an object, and a mask in any pieces that come to it. -/
inductive Spells (c : Config) : Setting → Json → Prop
  | own (s : Setting) : Spells c s (c.valueJson s)
  | policyMember : Spells c .issuerPolicy (.object [(some c.issuerPolicy.tag, .null)])
  | pieces (pieces : List Mask.Piece) (h : Mask.unionOf pieces = c.structuralChecks) :
      Spells c .structuralChecks (.ofText (Mask.textOf pieces))

def value? : (s : Setting) → Json → Option s.Value
  | .issuerPolicy, j => policy? j
  | .structuralChecks, j => Mask.ofJson? j
  | .maxPasses, j => bound? j
  | .stopOnFirstFailure, j => j.bool?
  | .checkServiceWindow, j => j.bool?
  | .verifyTimestampSigners, j => j.bool?
  | .validateCounterSignatures, j => j.bool?

theorem withSetting?_eq (c : Config) (s : Setting) (j : Json) :
    c.withSetting? s j = (value? s j).map (c.set s) := by
  cases s <;> rfl

theorem find?_tag (p : IssuerPolicy) :
    (IssuerPolicy.all.find? fun q => q.tag == p.tag) = some p := by
  cases p <;> rfl

theorem bound?_ofNat {n : Nat} (h : n < 1 <<< 64) : bound? (.ofNat n) = some n := if_pos h

theorem value?_of_spells {j : Json} (h : Spells c s j) (hword : c.maxPasses < 1 <<< 64) :
    value? s j = some (c.value s) := by
  cases h with
  | own s =>
      cases s with
      | issuerPolicy => exact find?_tag c.issuerPolicy
      | structuralChecks => exact Mask.ofText?_toText c.structuralChecks
      | maxPasses => exact bound?_ofNat hword
      | stopOnFirstFailure | checkServiceWindow | verifyTimestampSigners
          | validateCounterSignatures => rfl
  | policyMember => exact find?_tag c.issuerPolicy
  | pieces pieces hunion => exact (Mask.ofText?_textOf pieces).trans (congrArg some hunion)

/-! ## Members -/

theorem ofMember?_member (s : Setting) : Setting.ofMember? s.member = some s := by
  cases s <;> rfl

theorem ofMember?_eq_some_iff {name : String} :
    Setting.ofMember? name = some s ↔ s.member = name := by
  constructor
  · intro h
    have hname : (s.member == name) = true :=
      List.find?_some (p := fun t : Setting => t.member == name) h
    exact eq_of_beq hname
  · rintro rfl
    exact ofMember?_member s

theorem member_injective (h : some s.member = some t.member) : s = t := by
  have hs : Setting.ofMember? t.member = some s := ofMember?_eq_some_iff.2 (Option.some.inj h)
  rw [ofMember?_member] at hs
  exact (Option.some.inj hs).symm

/-- The names of members; one that denotes no text is `none`. -/
def names (members : List (Option String × Json)) : List (Option String) := members.map Prod.fst

/-- Members that are settings, each given once and with the value of the configuration, among
members that are not. -/
structure Describes (c : Config) (members : List (Option String × Json)) : Prop where
  texts : none ∉ names members
  once : ∀ s : Setting, (names members).count (some s.member) ≤ 1
  spelled : ∀ (s : Setting) (j : Json), (some s.member, j) ∈ members → Spells c s j

variable {members : List (Option String × Json)} {given : List Setting} {name : String} {j : Json}

theorem Describes.tail {m : Option String × Json} (h : Describes c (m :: members)) :
    Describes c members where
  texts := fun hnone => h.texts (List.mem_cons_of_mem _ hnone)
  once := fun s => List.count_le_count_cons.trans (h.once s)
  spelled := fun s j hj => h.spelled s j (List.mem_cons_of_mem m hj)

theorem Describes.not_mem_tail (h : Describes c ((some s.member, j) :: members)) :
    some s.member ∉ names members := by
  intro hmem
  have honce : (names members).count (some s.member) + 1 ≤ 1 := by
    have hcount := h.once s
    rwa [names, List.map_cons, List.count_cons_self] at hcount
  have hpos : 0 < (names members).count (some s.member) := List.count_pos_iff.2 hmem
  omega

theorem ofMembers?_cons_of_none (h : Setting.ofMember? name = none) :
    ofMembers? d given ((some name, j) :: members) = ofMembers? d given members := by
  rw [ofMembers?, h]

theorem ofMembers?_cons_of_spells (h : Spells c s j) (hword : c.maxPasses < 1 <<< 64)
    (hs : s ∉ given) :
    ofMembers? d given ((some s.member, j) :: members) =
      ofMembers? (d.set s (c.value s)) (s :: given) members := by
  have hread : d.withSetting? s j = some (d.set s (c.value s)) := by
    rw [withSetting?_eq, value?_of_spells h hword]
    rfl
  have hfresh : ¬ given.contains s = true := by simpa using hs
  rw [ofMembers?, ofMember?_member]
  dsimp only
  rw [if_neg hfresh, hread]
  rfl

theorem mem_names_cons {m : Option String × Json} :
    some s.member ∈ names (m :: members) ↔
        some s.member = m.1 ∨ some s.member ∈ names members :=
  List.mem_cons

/-- What a member sets stays when no later one has its name, and it sets nothing else. -/
theorem value_set_given (d : Config) (t : Setting) (hlast : some s.member ∉ names members) :
    (if some t.member ∈ names members then c else d.set s (c.value s)).value t =
      (if some t.member ∈ names ((some s.member, j) :: members) then c else d).value t := by
  simp only [mem_names_cons]
  by_cases hts : t = s
  · rw [hts, if_neg hlast, value_set_self, if_pos (.inl rfl)]
  · have hne : some t.member ≠ some s.member := fun heq => hts (member_injective heq)
    simp only [hne, false_or]
    split
    · rfl
    · exact value_set_of_ne d _ hts

/-- **Each setting is as the member of its name says, and otherwise as it was.** -/
theorem exists_ofMembers? (d : Config) (hword : c.maxPasses < 1 <<< 64) (h : Describes c members)
    (given : List Setting) (hgiven : ∀ s ∈ given, some s.member ∉ names members) :
    ∃ e, ofMembers? d given members = some e ∧
      ∀ s, e.value s = (if some s.member ∈ names members then c else d).value s := by
  -- general in the configuration so far, since each member that is a setting changes it
  induction members generalizing d given with
  | nil => exact ⟨d, rfl, fun s => rfl⟩
  | cons m members ih =>
      obtain ⟨name, j⟩ := m
      have hlater : ∀ s ∈ given, some s.member ∉ names members := fun s hs hmem =>
        hgiven s hs (mem_names_cons.2 (.inr hmem))
      cases name with
      | none => exact absurd List.mem_cons_self h.texts
      | some name =>
          cases hname : Setting.ofMember? name with
          | none =>
              obtain ⟨e, he, hvalue⟩ := ih d h.tail given hlater
              refine ⟨e, (ofMembers?_cons_of_none hname).trans he, fun s => ?_⟩
              have hne : some s.member ≠ some name := by
                intro heq
                rw [ofMember?_eq_some_iff.2 (Option.some.inj heq)] at hname
                cases hname
              simp only [mem_names_cons, hne, false_or, hvalue s]
          | some s =>
              obtain rfl := ofMember?_eq_some_iff.1 hname
              have hs : s ∉ given := fun hs => hgiven s hs (mem_names_cons.2 (.inl rfl))
              have hspells : Spells c s j := h.spelled s j List.mem_cons_self
              obtain ⟨e, he, hvalue⟩ := ih (d.set s (c.value s)) h.tail (s :: given)
                (List.forall_mem_cons.2 ⟨h.not_mem_tail, hlater⟩)
              exact ⟨e, (ofMembers?_cons_of_spells hspells hword hs).trans he,
                fun t => (hvalue t).trans (value_set_given d t h.not_mem_tail)⟩

/-! ## Documents -/

theorem isLiteral_valueJson (c : Config) (s : Setting) : (c.valueJson s).IsLiteral := by
  cases s with
  | maxPasses => exact List.forall_mem_nil _
  | issuerPolicy | structuralChecks => trivial
  | stopOnFirstFailure | checkServiceWindow | verifyTimestampSigners | validateCounterSignatures =>
      trivial

/-- The members of the library's own document. -/
def ownMembers (c : Config) : List (Option String × Json) :=
  Setting.all.map fun s => (some s.member, c.valueJson s)

theorem read?_toJson (c : Config) : Json.read? c.toJson.compact = some (.object c.ownMembers) := by
  have htree : c.toJson = .object c.ownMembers := rfl
  have hliteral : ∀ m ∈ c.ownMembers, m.2.IsLiteral :=
    List.forall_mem_map.2 fun s _ => c.isLiteral_valueJson s
  have htreeLiteral : Json.IsLiteral (.object c.ownMembers) := Json.haveLiteral_of_forall hliteral
  rw [htree, Json.read?_compact htreeLiteral]

theorem names_ownMembers (c : Config) :
    names c.ownMembers = Setting.all.map fun s => some s.member := List.map_map

theorem mem_names_ownMembers (c : Config) (s : Setting) : some s.member ∈ names c.ownMembers := by
  rw [names_ownMembers]
  refine List.mem_map.2 ⟨s, ?_, rfl⟩
  cases s <;> decide

theorem describes_ownMembers (c : Config) : Describes c c.ownMembers where
  texts := by
    rw [names_ownMembers, List.mem_map]
    rintro ⟨_, -, hnone⟩
    cases hnone
  once := fun s => by
    have hall : Setting.all.Nodup := by decide
    rw [names_ownMembers]
    exact List.nodup_iff_count.1
      (List.pairwise_map.2 (hall.imp fun hne heq => hne (member_injective heq))) _
  spelled := fun s j h => by
    obtain ⟨t, -, ht⟩ := List.mem_map.1 h
    obtain ⟨hname, rfl⟩ := Prod.mk.inj ht
    obtain rfl := member_injective hname
    exact .own t

theorem exists_read (hpasses : 1 ≤ c.maxPasses) (hword : c.maxPasses < 1 <<< 64) {text : String}
    (htext : Json.read? text = some (.object members)) (h : Describes c members) :
    ∃ d, read text = .ok d ∧ ∀ s, d.value s =
      (if some s.member ∈ names members then c else {}).value s := by
  obtain ⟨d, hd, hvalue⟩ := exists_ofMembers? {} hword h [] (List.forall_mem_nil _)
  refine ⟨d, ?_, hvalue⟩
  have hbound : d.maxPasses ≠ 0 := by
    have hmax : d.maxPasses = _ := hvalue .maxPasses
    rw [hmax]
    split
    · exact Nat.pos_iff_ne_zero.1 hpasses
    · exact Nat.succ_ne_zero 63
  have hdocument : ofDocument? (.object members) = some d := hd
  simp only [read, htext, ofJson, hdocument, if_neg hbound]

/-- **A configuration survives its document, whole or in part.** It is read back from what is
written of it; and a document that has some of its settings, each once and in any order, among
members that are not settings, gives these settings and leaves the others at their defaults. -/
theorem document_keeps_settings (c : Config) (hpasses : 1 ≤ c.maxPasses)
    (hword : c.maxPasses < 1 <<< 64) :
    read c.toJson.compact = .ok c ∧
      ∀ (text : String) (members : List (Option String × Json)),
        Json.read? text = some (.object members) → Describes c members →
          ∃ d, read text = .ok d ∧
            ∀ s, d.value s = (if some s.member ∈ names members then c else {}).value s := by
  refine ⟨?_, fun text members htext h => exists_read hpasses hword htext h⟩
  obtain ⟨d, hd, hvalue⟩ := exists_read hpasses hword c.read?_toJson c.describes_ownMembers
  have hall : d = c := ext_value fun s => by rw [hvalue s, if_pos (c.mem_names_ownMembers s)]
  rw [hd, hall]

/-- A bound and a mask that has a bit without a check, around a member that is no setting. -/
def boundAndChecks : List (Option String × Json) :=
  [(some "max_passes", .ofNat 7),
    (some "note", .array [.null, .object [(some "max_passes", .ofNat 0)]]),
    (some "structural_checks", .ofText "0x80000000 | SIGNER_ROLE")]

/-- The flag of the configuration has no member, so it is as by default. -/
theorem bound_and_checks_kept :
    let c : Config :=
      { structuralChecks := ⟨0x80000040⟩, maxPasses := 7, stopOnFirstFailure := true }
    1 ≤ c.maxPasses ∧ c.maxPasses < 1 <<< 64 ∧ Describes c boundAndChecks ∧
      read c.toJson.compact = .ok c ∧
      read (Json.object boundAndChecks).compact = .ok { c with stopOnFirstFailure := false } := by
  intro c
  have hdescribes : Describes c boundAndChecks := {
    texts := by decide
    once := fun s => by cases s <;> decide
    spelled := fun s j h => by
      simp only [boundAndChecks, List.mem_cons, Prod.mk.injEq, List.not_mem_nil, or_false] at h
      obtain ⟨hs, rfl⟩ | ⟨hs, rfl⟩ | ⟨hs, rfl⟩ := h
      · obtain rfl : s = .maxPasses := member_injective hs
        exact .own .maxPasses
      · cases s <;> contradiction
      · obtain rfl : s = .structuralChecks := member_injective hs
        exact .pieces [.number 0x80000000, .name .signerRole] rfl }
  have hword : c.maxPasses < 1 <<< 64 := by decide
  have hliteral : Json.IsLiteral (.object boundAndChecks) :=
    ⟨List.forall_mem_nil _, ⟨trivial, ⟨List.forall_mem_nil _, trivial⟩, trivial⟩, trivial,
      trivial⟩
  obtain ⟨hwhole, hpart⟩ := document_keeps_settings c (by decide) hword
  obtain ⟨d, hd, hvalue⟩ := hpart _ boundAndChecks (Json.read?_compact hliteral) hdescribes
  have hsame : d = { c with stopOnFirstFailure := false } :=
    ext_value fun s => (hvalue s).trans (by cases s <;> rfl)
  exact ⟨by decide, hword, hdescribes, hwhole, hsame ▸ hd⟩

end SignatureTrust.Config
