import Mathlib.Data.List.Chain
import Mathlib.Data.List.Nodup
import Mathlib.Data.List.Perm.Subperm
import SignatureTrust.Proofs.Discovery.TrustPath

/-!
# `Proofs.Discovery.ChainShape` — where the chain goes, and when it goes round

Every token has at most one issuer on record, so from the start there is one way up, and the chain
follows it for one step more than there are tokens. No step is lost by that bound: **everything
above the start is in the chain** (`Discovered.mem_climb_iff`). The issuer of the last certificate
is in it too, if there is one on record.

The way up ends, or it goes round. Only a certificate that is its own issuer is looked for;
certificates that issued each other are not, and then the walk goes on until it has taken all its
steps:

> no token comes twice **exactly when no certificate of the chain is above itself**
> (`Context.Circles`). Where one is, the chain has one entry more than there are tokens.

The start is the target, and the target's issuer on record where the target is no certificate.
-/

set_option autoImplicit false

namespace SignatureTrust.Context

open Relation

variable {sources : Sources} {config : Config} {t : Token} {date : Instant} {c : Context}
variable {h j last : Handle} {hs : List Handle} {start : Option Handle} {n : Nat}

/-- The issuer on record for the token at a handle. -/
def recordedAt? (c : Context) (h : Handle) : Option Handle := (c.resolutionAt? h).bind (·.issuer?)

/-- A token is right below another one, which is on record as its issuer. -/
structure Below (c : Context) (h j : Handle) : Prop where
  recorded : c.recordedAt? h = some j
  other : j ≠ h

/-- From the start the way up comes to a certificate that is above itself. -/
def Circles (c : Context) : Prop :=
  ∃ start h, c.chainStart? = some start ∧ ReflTransGen c.Below start h ∧ TransGen c.Below h h

theorem next?_eq_some_iff : c.next? h = some j ↔ c.Below h j := by
  have hnext : c.next? h = (c.recordedAt? h).bind fun i => if i = h then none else some i := by
    unfold next? recordedAt?
    cases (c.resolutionAt? h).bind (·.issuer?) <;> rfl
  rw [hnext, Option.bind_eq_some_iff]
  constructor
  · rintro ⟨i, hi, hkeep⟩
    obtain ⟨hne, heq⟩ := Option.ite_none_left_eq_some.1 hkeep
    obtain rfl := Option.some.inj heq
    exact ⟨hi, hne⟩
  · exact fun ⟨recorded, other⟩ => ⟨j, recorded, if_neg other⟩

/-- Right above is one token at most. -/
theorem Below.unique {k : Handle} (hj : c.Below h j) (hk : c.Below h k) : j = k :=
  Option.some.inj (hj.recorded.symm.trans hk.recorded)

/-! ## Ways up

A way is a list of handles, each right below the next.
-/

/-- What is above a token that is not the last of a way is on the way. -/
theorem mem_tail_of_below (hway : hs.IsChain c.Below) (hh : h ∈ hs.dropLast) (hj : c.Below h j) :
    j ∈ hs.tail := by
  induction hs with
  | nil => cases hh
  | cons a hs ih =>
      cases hs with
      | nil => cases hh
      | cons b hs =>
          obtain ⟨hab, hway⟩ := List.isChain_cons_cons.1 hway
          rw [List.dropLast_cons_cons] at hh
          rcases List.mem_cons.1 hh with rfl | hh
          · rw [hj.unique hab]
            exact List.mem_cons_self
          · exact List.mem_of_mem_tail (ih hway hh)

theorem mem_dropLast_or_last (hh : h ∈ hs) : h ∈ hs.dropLast ∨ hs.getLast? = some h := by
  have hne : hs ≠ [] := List.ne_nil_of_mem hh
  rw [← List.dropLast_append_getLast hne, List.mem_append] at hh
  refine hh.imp_right fun hlast => ?_
  rw [List.mem_singleton.1 hlast, List.getLast?_eq_some_getLast hne]

/-- The way up from the last token of a way stays on the way, if its first step does. -/
theorem mem_of_reaches (hway : hs.IsChain c.Below)
    (hlast : ∀ last ∈ hs.getLast?, ∀ j, c.Below last j → j ∈ hs) (hh : h ∈ hs)
    (hup : ReflTransGen c.Below h j) : j ∈ hs := by
  induction hup with
  | refl => exact hh
  | @tail i k _ hik hi =>
      rcases mem_dropLast_or_last hi with hi | hi
      · exact List.mem_of_mem_tail (mem_tail_of_below hway hi hik)
      · exact hlast i hi k hik

/-- On a way that ends nobody is above itself. -/
theorem not_above_itself (hway : hs.IsChain c.Below)
    (hend : ∀ last ∈ hs.getLast?, ∀ j, ¬ c.Below last j) (hh : h ∈ hs) :
    ¬ TransGen c.Below h h := by
  induction hs generalizing h with
  | nil => cases hh
  | cons a hs ih =>
      cases hs with
      | nil =>
          obtain rfl := List.mem_singleton.1 hh
          intro hround
          obtain ⟨j, hj, -⟩ := TransGen.head'_iff.1 hround
          exact hend h rfl j hj
      | cons b hs =>
          obtain ⟨hab, hrest⟩ := List.isChain_cons_cons.1 hway
          have hend' : ∀ last ∈ (b :: hs).getLast?, ∀ j, ¬ c.Below last j := by
            intro last hlast
            exact hend last (by simpa [List.getLast?_cons_cons] using hlast)
          rcases List.mem_cons.1 hh with rfl | hh
          · -- the way up from the first comes back by the second,
            -- so the first is further up as well
            intro hround
            obtain ⟨j, hj, hback⟩ := TransGen.head'_iff.1 hround
            obtain rfl := hj.unique hab
            have hmem : h ∈ j :: hs :=
              mem_of_reaches hrest (fun last hlast k hk =>
                absurd hk (hend' last hlast k)) List.mem_cons_self hback
            exact ih hrest hend' hmem hround
          · exact ih hrest hend' hh

/-- Where nobody is above itself, no token comes twice. -/
theorem nodup_of_none_above_itself (hway : hs.IsChain c.Below)
    (hnone : ∀ h ∈ hs, ¬ TransGen c.Below h h) : hs.Nodup := by
  have habove : hs.Pairwise (TransGen c.Below) := (hway.imp fun _ _ => TransGen.single).pairwise
  refine habove.imp_of_mem fun {a b} ha _ hab heq => ?_
  exact hnone a ha (heq ▸ hab)

theorem exists_return (htwice : ¬ hs.Nodup) :
    ∃ before x between after, hs = before ++ x :: (between ++ x :: after) := by
  induction hs with
  | nil => exact absurd List.nodup_nil htwice
  | cons a hs ih =>
      by_cases ha : a ∈ hs
      · obtain ⟨between, after, rfl⟩ := List.append_of_mem ha
        exact ⟨[], a, between, after, rfl⟩
      · obtain ⟨before, x, between, after, rfl⟩ :=
          ih fun hnodup => htwice (List.nodup_cons.2 ⟨ha, hnodup⟩)
        exact ⟨a :: before, x, between, after, rfl⟩

/-- A way on which a token comes twice is closed: what is above its last token is on it. -/
theorem mem_of_below_last (hway : hs.IsChain c.Below) (htwice : ¬ hs.Nodup)
    (hlast : hs.getLast? = some last) (hj : c.Below last j) : j ∈ hs := by
  obtain ⟨before, x, between, after, rfl⟩ := exists_return htwice
  obtain ⟨-, hround⟩ := List.isChain_split.1 hway
  obtain ⟨hloop, hrest⟩ := List.isChain_cons_split.1 hround
  -- from `x` on there is nothing but the loop
  let loop := (x :: between) ++ [x]
  have hstays : ∀ k, c.Below x k → k ∈ loop := fun k hk =>
    List.mem_of_mem_tail
      (mem_tail_of_below hloop (by rw [List.dropLast_concat]; exact List.mem_cons_self) hk)
  have hend : ∀ last ∈ loop.getLast?, ∀ k, c.Below last k → k ∈ loop := by
    intro last hlast
    obtain rfl : x = last := Option.some.inj ((List.getLast?_concat ..).symm.trans hlast)
    exact hstays
  have hreach : ReflTransGen c.Below x last := by
    refine List.relationReflTransGen_of_exists_isChain_cons after hrest (Option.some.inj ?_)
    rw [← hlast, ← List.getLast?_eq_some_getLast, List.getLast?_append_cons,
      ← List.cons_append, List.getLast?_append_cons]
  have hinside : j ∈ loop := mem_of_reaches hloop hend List.mem_cons_self (hreach.tail hj)
  simp only [loop, List.cons_append, List.mem_cons, List.mem_append, List.not_mem_nil,
    or_false] at hinside ⊢
  tauto

/-! ## The handles of the chain -/

/-- At most `steps` handles from a start upwards. -/
def climb (c : Context) : Nat → Option Handle → List Handle
  | 0, _ => []
  | _, none => []
  | steps + 1, some h => h :: c.climb steps (c.next? h)

theorem climb_none : c.climb n none = [] := by cases n <;> rfl

theorem head?_climb : (c.climb (n + 1) start).head? = start := by cases start <;> rfl

theorem isChain_climb : (c.climb n start).IsChain c.Below := by
  induction n generalizing start with
  | zero => exact .nil
  | succ n ih =>
      cases start with
      | none => exact .nil
      | some h =>
          rw [climb, List.isChain_cons]
          refine ⟨?_, ih⟩
          intro j hj
          cases n with
          | zero => cases hj
          | succ n => exact next?_eq_some_iff.1 (head?_climb.symm.trans hj)

/-- A walk that stopped before its bound has nobody above its last. -/
theorem end_of_length_climb_lt (hshort : (c.climb n start).length < n) :
    ∀ last ∈ (c.climb n start).getLast?, ∀ j, ¬ c.Below last j := by
  induction n generalizing start with
  | zero => cases hshort
  | succ n ih =>
      cases start with
      | none => rintro last ⟨⟩
      | some h =>
          cases hnext : c.next? h with
          | none =>
              rw [climb, hnext, climb_none]
              rintro last hlast j hj
              obtain rfl : h = last := by simpa using hlast
              rw [next?_eq_some_iff.2 hj] at hnext
              cases hnext
          | some j =>
              rw [climb, hnext] at hshort ⊢
              have hshort' : (c.climb n (some j)).length < n := Nat.lt_of_succ_lt_succ hshort
              cases n with
              | zero => cases hshort'
              | succ n => simpa [climb, List.getLast?_cons_cons] using ih hshort'

theorem length_climb_le : (c.climb n start).length ≤ n := by
  induction n generalizing start with
  | zero => exact Nat.le_refl 0
  | succ n ih =>
      cases start with
      | none => exact Nat.zero_le _
      | some h => exact Nat.succ_le_succ ih

/-- There are no more handles than tokens. -/
theorem length_le_size (hnodup : hs.Nodup) (hthere : ∀ h ∈ hs, ∃ e, c.entryAt? h = some e) :
    hs.length ≤ c.size := by
  have hindices : (hs.map Handle.index).Nodup :=
    List.Nodup.map (fun _ _ => congrArg Handle.mk) hnodup
  have hinside : hs.map Handle.index ⊆ List.range c.size := by
    intro i hi
    obtain ⟨h, hh, rfl⟩ := List.mem_map.1 hi
    obtain ⟨e, he⟩ := hthere h hh
    obtain ⟨s, hs, -⟩ := slot_of_entryAt? he
    exact List.mem_range.2 (List.getElem?_eq_some_iff.1 hs).1
  simpa using (hindices.subperm hinside).length_le

/-- What a walk comes to is above its start. -/
theorem reaches_of_mem_climb (hj : j ∈ c.climb n (some h)) : ReflTransGen c.Below h j := by
  induction n generalizing h with
  | zero => cases hj
  | succ n ih =>
      rcases List.mem_cons.1 hj with rfl | hj
      · exact .refl
      · cases hnext : c.next? h with
        | none => rw [hnext, climb_none] at hj; cases hj
        | some k => exact .head (next?_eq_some_iff.1 hnext) (ih (hnext ▸ hj))

/-- The chain is read off the handles, where every one of them is a certificate's. -/
theorem map_entryAt?_climb (hstart : ∀ h ∈ start, ∃ e, c.entryAt? h = some e)
    (hissuers : ∀ {h j}, c.Below h j → ∃ e, c.entryAt? j = some e) :
    (c.climb n start).map c.entryAt? = (c.chainFrom n start).map some := by
  induction n generalizing start with
  | zero => rfl
  | succ n ih =>
      cases start with
      | none => rfl
      | some h =>
          obtain ⟨e, he⟩ := hstart h rfl
          rw [chainFrom_succ he, climb, List.map_cons, List.map_cons, he]
          exact congrArg (some e :: ·) (ih fun j hj => hissuers (next?_eq_some_iff.1 hj))

theorem exists_entryAt?_of_mem_climb (hstart : ∀ h ∈ start, ∃ e, c.entryAt? h = some e)
    (hissuers : ∀ {h j}, c.Below h j → ∃ e, c.entryAt? j = some e)
    (hh : h ∈ c.climb n start) :
    ∃ e, c.entryAt? h = some e := by
  have hmem : c.entryAt? h ∈ (c.chainFrom n start).map some :=
    map_entryAt?_climb hstart hissuers ▸ List.mem_map_of_mem hh
  obtain ⟨e, -, he⟩ := List.mem_map.1 hmem
  exact ⟨e, he.symm⟩

/-! ## The chain of a context made by discovery -/

namespace Discovered

variable (hd : Discovered sources config t date c)
include hd

/-- An issuer on record is a certificate of the context. -/
theorem exists_entryAt?_of_recordedAt? (hj : c.recordedAt? h = some j) :
    ∃ e, c.entryAt? j = some e := by
  obtain ⟨r, hr, hissuer⟩ := Option.bind_eq_some_iff.1 hj
  obtain ⟨s, hs, hrec⟩ := Option.bind_eq_some_iff.1 hr
  obtain ⟨_, -, filed, -⟩ := hd.found_of_link ⟨⟨h, hs⟩, hrec, hissuer⟩
  exact hd.exists_entryAt?_of_handleOf? filed

/-- The chain starts at the target, or where the target is no certificate at its issuer on
record. -/
theorem chainStart?_eq :
    c.chainStart? = if t.certificate?.isSome then some target else c.recordedAt? target := by
  obtain ⟨s, hs, ht, -, -⟩ := hd.first
  have htarget : c.targetCertificate? = t.certificate? := by
    simp [Context.targetCertificate?, targetToken?, token?, hs, ht]
  rw [chainStart?, htarget]
  cases t.certificate? <;> rfl

theorem exists_entryAt?_of_start (hstart : h ∈ c.chainStart?) : ∃ e, c.entryAt? h = some e := by
  rw [Option.mem_def, hd.chainStart?_eq] at hstart
  split at hstart
  case isTrue hcertificate =>
      obtain rfl := Option.some.inj hstart
      obtain ⟨x, hx⟩ := Option.isSome_iff_exists.1 hcertificate
      obtain ⟨s, hs, rfl, -⟩ := hd.first
      exact ⟨_, entryAt?_of_slot hs (Token.eq_of_certificate? hx)⟩
  case isFalse => exact hd.exists_entryAt?_of_recordedAt? hstart

/-- The handles of the chain are there, all of them. -/
theorem map_entryAt?_chain :
    (c.climb (c.size + 1) c.chainStart?).map c.entryAt? = c.chain.map some :=
  map_entryAt?_climb (fun _ => hd.exists_entryAt?_of_start) fun hj =>
    hd.exists_entryAt?_of_recordedAt? hj.recorded

theorem exists_entryAt?_of_mem_chain (hh : h ∈ c.climb (c.size + 1) c.chainStart?) :
    ∃ e, c.entryAt? h = some e :=
  exists_entryAt?_of_mem_climb (fun _ => hd.exists_entryAt?_of_start)
    (fun hj => hd.exists_entryAt?_of_recordedAt? hj.recorded) hh

/-- **The bound loses nothing**: who is right above the last certificate of the chain is in the
chain. -/
theorem mem_climb_of_below_last (hlast : (c.climb (c.size + 1) c.chainStart?).getLast? = some last)
    (hj : c.Below last j) : j ∈ c.climb (c.size + 1) c.chainStart? := by
  by_cases hnodup : (c.climb (c.size + 1) c.chainStart?).Nodup
  · -- without repetition the walk is shorter than its bound, so it has an end
    have hshort :=
      Nat.lt_succ_of_le (length_le_size hnodup fun _ => hd.exists_entryAt?_of_mem_chain)
    exact absurd hj (end_of_length_climb_lt hshort last hlast j)
  · exact mem_of_below_last isChain_climb hnodup hlast hj

/-- In the chain is what is above its start. -/
theorem mem_climb_iff : j ∈ c.climb (c.size + 1) c.chainStart? ↔
    ∃ h ∈ c.chainStart?, ReflTransGen c.Below h j := by
  constructor
  · intro hj
    cases hstart : c.chainStart? with
    | none => rw [hstart, climb_none] at hj; cases hj
    | some h => exact ⟨h, rfl, reaches_of_mem_climb (hstart ▸ hj)⟩
  · rintro ⟨h, hh, hup⟩
    have hfirst : h ∈ c.climb (c.size + 1) c.chainStart? :=
      List.mem_of_mem_head? (head?_climb.trans hh)
    exact mem_of_reaches isChain_climb
      (fun last hlast j => hd.mem_climb_of_below_last hlast) hfirst hup

/-- A walk that goes round takes all its steps. -/
theorem length_climb_of_circles (hround : c.Circles) :
    (c.climb (c.size + 1) c.chainStart?).length = c.size + 1 := by
  refine Nat.le_antisymm length_climb_le (Nat.not_lt.1 fun hshort => ?_)
  obtain ⟨start, h, hstart, hup, hself⟩ := hround
  have hmem := hd.mem_climb_iff.2 ⟨start, hstart, hup⟩
  exact not_above_itself isChain_climb (end_of_length_climb_lt hshort) hmem hself

theorem nodup_climb_iff : (c.climb (c.size + 1) c.chainStart?).Nodup ↔ ¬ c.Circles := by
  constructor
  · intro hnodup hround
    have hshort := length_le_size hnodup fun _ => hd.exists_entryAt?_of_mem_chain
    rw [hd.length_climb_of_circles hround] at hshort
    omega
  · intro hnone
    refine nodup_of_none_above_itself isChain_climb fun h hh hself => hnone ?_
    obtain ⟨start, hstart, hup⟩ := hd.mem_climb_iff.1 hh
    exact ⟨start, h, hstart, hup, hself⟩

/-- A certificate comes twice in the chain when its handle does. -/
theorem nodup_chain_iff :
    (c.chain.map (·.certificate)).Nodup ↔ (c.climb (c.size + 1) c.chainStart?).Nodup := by
  let certificateAt? := fun h => (c.entryAt? h).map (·.certificate)
  have hread : (c.chain.map (·.certificate)).map some =
      (c.climb (c.size + 1) c.chainStart?).map certificateAt? := by
    have hmap := congrArg (List.map (Option.map (·.certificate))) hd.map_entryAt?_chain
    simpa [certificateAt?, Function.comp_def] using hmap.symm
  rw [← List.nodup_map_iff (fun _ _ =>
    Option.some.inj : Function.Injective (some : Certificate → _)), hread]
  refine ⟨List.Nodup.of_map certificateAt?, List.Nodup.map_on fun i hi j hj hsame => ?_⟩
  obtain ⟨e, he⟩ := hd.exists_entryAt?_of_mem_chain hi
  obtain ⟨e', he'⟩ := hd.exists_entryAt?_of_mem_chain hj
  exact hd.filed.handle_unique he he' (by simpa [certificateAt?, he, he'] using hsame)

end Discovered

/-- A list of handles is the chain from a start: each is the recorded issuer of the one before it,
whoever is recorded as the issuer of the last is among them, and they are all that is above the
start. -/
structure Ascends (c : Context) (start : Option Handle) (hs : List Handle) : Prop where
  entries : hs.map c.entryAt? = c.chain.map some
  first : hs.head? = start
  linked : hs.IsChain fun h j => c.recordedAt? h = some j
  last : ∀ h ∈ hs.getLast?, ∀ j, c.recordedAt? h = some j → j ∈ hs
  all : ∀ j, j ∈ hs ↔ ∃ h ∈ start, ReflTransGen c.Below h j

theorem Discovered.ascends (hd : Discovered sources config t date c) :
    c.Ascends (if t.certificate?.isSome then some target else c.recordedAt? target)
      (c.climb (c.size + 1) c.chainStart?) := by
  rw [← hd.chainStart?_eq]
  refine ⟨hd.map_entryAt?_chain, head?_climb, isChain_climb.imp fun _ _ hj => hj.recorded, ?_,
    fun _ => hd.mem_climb_iff⟩
  intro h hlast j hj
  by_cases hself : j = h
  · exact hself ▸ List.mem_of_getLast? hlast
  · exact hd.mem_climb_of_below_last hlast ⟨hj, hself⟩

/-- **The chain goes up from the target, or from its issuer on record if it is no certificate, along
the issuers on record, until it has all that is above; no certificate comes twice exactly when none
of them is above itself.** Where one is, the chain is one longer than there are tokens. -/
theorem chain_ascends_once_iff_not_circles (t : Token) (date : Instant) (sources : Sources)
    (config : Config) :
    ∃ c, (ofTarget t date).discover sources config = .ok c ∧
      (∃ hs, c.Ascends (if t.certificate?.isSome then some target
        else c.recordedAt? target) hs) ∧
      (∀ x, t = .certificate x → c.chain.head? = some (.plain x .other)) ∧
      ((c.chain.map (·.certificate)).Nodup ↔ ¬ c.Circles) ∧
      (c.Circles → c.chain.length = c.size + 1) := by
  obtain ⟨c, hc, hd⟩ := exists_discovered t date sources config
  refine ⟨c, hc, ⟨_, hd.ascends⟩, ?_, hd.nodup_chain_iff.trans hd.nodup_climb_iff, ?_⟩
  · rintro x rfl
    obtain ⟨hchain, hfirst⟩ := hd.chain_of_certificate
    rw [hchain, chainFrom_succ hfirst, List.head?_cons]
  · intro hround
    have hlength := congrArg List.length hd.map_entryAt?_chain
    rw [List.length_map, List.length_map, hd.length_climb_of_circles hround] at hlength
    exact hlength.symm

end SignatureTrust.Context

namespace SignatureTrust.Mutual

open Context Specimen

/-- Two certificates that issued each other. -/
def lower : Certificate := certificate "CN=Lower" "CN=Upper" 1 1 2

def upper : Certificate := certificate "CN=Upper" "CN=Lower" 2 2 1

def sources : Sources where
  crypto := crypto
  external := some (CertificateStore.ofCertificates .other [lower, upper]).bySubject

/-- **The chain of the one comes back to it**, past the other, although nothing else was
gathered. -/
theorem lower_comes_twice :
    ∃ c, (ofTarget (.certificate lower) ⟨5⟩).discover sources {} = .ok c ∧ c.size = 2 ∧
      c.chain.map (·.certificate) = [lower, upper, lower] ∧
        ¬ (c.chain.map (·.certificate)).Nodup := by
  have hrun : ((ofTarget (.certificate lower) ⟨5⟩).discover sources {}).toOption.any
      (fun c => c.size = 2 ∧ c.chain.map (·.certificate) = [lower, upper, lower]) = true := by
    decide +kernel
  obtain ⟨c, hc, -, htest⟩ := exists_discovered_of_any hrun
  obtain ⟨hsize, hchain⟩ := of_decide_eq_true htest
  exact ⟨c, hc, hsize, hchain, by rw [hchain]; decide +kernel⟩

end SignatureTrust.Mutual
