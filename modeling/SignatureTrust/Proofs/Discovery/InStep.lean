import Mathlib.Data.List.Nodup
import SignatureTrust.Proofs.Discovery.Needed
import SignatureTrust.Proofs.Discovery.Requests

/-!
# `Proofs.Discovery.InStep` — the tokens, the index and what is needed

A context keeps one list of tokens and four lists beside it: an index of keys, and three collections
of what the target's trust rests on. Chains, levels and statuses each look at another of them, and
are right only if all five say the same. They do, after any requests:

> Each key is filed once and leads to the token that has it; the collections are the tokens after
> the first, by kind and in order; and **neither a key twice nor the target's key at all** is among
> what is needed (`requests_keep_inStep`).

The first half is kept change by change (`Filed`, `Gathered`, `Indexed`). The second follows from
it: a key that is filed once is not at two handles (`Filed.nodup_keys`), and a part of a list
without repetition has none.
-/

set_option autoImplicit false

namespace SignatureTrust.Context

variable {c c' : Context} {t : Token} {p : Provenance} {v : Option Service}

/-- The index holds the key of each token with its position, in order, and nothing else. -/
def Indexed (c : Context) : Prop := c.index = c.tokens.zipIdx.map fun (u, i) => (u.key, ⟨i⟩)

/-- What is needed, as tokens. -/
def neededTokens (c : Context) : List Token :=
  (c.neededEntries.map fun e => .certificate e.certificate) ++ c.neededCrls.map .crl ++
    c.neededOcsps.map .ocsp

/-- The tokens of a target's context, the index and the collections of what is needed agree. -/
structure InStep (t : Token) (c : Context) : Prop where
  -- a key leads to a handle exactly when the token there has it
  filed : c.Filed
  indexed : c.Indexed
  -- and no two tokens have one key
  keys : (c.tokens.map Token.key).Nodup
  first : c.targetToken? = some t
  gathered : c.Gathered
  entries : c.neededEntries = (c.slots.drop 1).filterMap Slot.sourced?
  -- nothing is needed twice, and the target not at all
  once : ((t :: c.neededTokens).map Token.key).Nodup

/-! ## The index -/

theorem Indexed.append (hx : c.Indexed) : (c.append t p v).Indexed := by
  have hindex : (c.append t p v).index = c.index ++ [(t.key, ⟨c.slots.length⟩)] := by
    rw [append_eq]
  rw [Indexed, hindex, hx, tokens_append, List.zipIdx_append, List.map_append]
  simp [tokens]

theorem Indexed.step (hx : c.Indexed) (hs : Step c c') : c'.Indexed := by
  cases hs with
  | insert t p v =>
      rcases insert_cases c t p v with ⟨h, _, hi⟩ | ⟨_, hi⟩
      · rw [hi]; exact hx
      · rw [hi]; exact hx.append
  | record hr =>
      obtain ⟨s, hs, _, rfl⟩ := record_eq_ok_iff.1 hr
      rw [Indexed, tokens_settled hs]
      exact hx
  | countPass => exact hx

theorem Filed.handleOfKey?_getElem (hf : c.Filed) (i : Fin (c.tokens.map Token.key).length) :
    c.handleOfKey? (c.tokens.map Token.key)[i.1] = some ⟨i.1⟩ := by
  have hi : i.1 < c.slots.length := by simpa [tokens] using i.2
  exact (hf _ ⟨i.1⟩).2 ⟨c.slots[i.1], by simp [slot?, hi], by simp [tokens]⟩

/-- A key that leads to one handle is not at two. -/
theorem Filed.nodup_keys (hf : c.Filed) : (c.tokens.map Token.key).Nodup := by
  rw [List.nodup_iff_injective_getElem]
  intro i j hsame
  have hi := hf.handleOfKey?_getElem i
  rw [show (c.tokens.map Token.key)[i.1] = (c.tokens.map Token.key)[j.1] from hsame,
    hf.handleOfKey?_getElem j] at hi
  exact Fin.ext (congrArg Handle.index (Option.some.inj hi)).symm

/-! ## The collections -/

/-- The needed handles are those of certificates, so an entry is found at each. -/
theorem Gathered.entries (hg : c.Gathered) :
    c.neededEntries = (c.slots.drop 1).filterMap Slot.sourced? := by
  have hslots : c.slots.drop 1 = (c.slots.zipIdx.drop 1).map Prod.fst := by
    rw [List.map_drop, List.zipIdx_map_fst]
  have htokens : c.tokens.zipIdx.drop 1 = (c.slots.zipIdx.drop 1).map (Prod.map Slot.token id) := by
    rw [tokens, List.zipIdx_map, List.map_drop]
  rw [neededEntries, hg.certificates, certificateHandles, List.filterMap_filterMap, htokens,
    List.filterMap_map, hslots, List.filterMap_map]
  apply List.filterMap_congr
  intro si hsi
  obtain ⟨s, i⟩ := si
  have hs : c.slot? ⟨i⟩ = some s := List.mem_zipIdx_iff_getElem?.1 (List.mem_of_mem_drop hsi)
  cases hx : s.token.certificate? <;> simp [entryAt?, hs, Slot.sourced?, hx]

/-- What comes out of a list and is put back into its old form is a part of the list. -/
theorem map_filterMap_sublist {α β : Type} {f : α → Option β}
    {g : β → α} (hfg : ∀ {x : α} {y : β}, f x = some y → g y = x) (xs : List α) :
    ((xs.filterMap f).map g).Sublist xs := by
  induction xs with
  | nil => exact .refl []
  | cons x xs ih =>
      cases hx : f x with
      | none =>
          rw [List.filterMap_cons_none hx]
          exact ih.cons x
      | some y =>
          rw [List.filterMap_cons_some hx, List.map_cons, hfg hx]
          exact ih.cons_cons x

/-- What is needed of each kind is a part of the tokens after the first. -/
theorem Gathered.sublists (hg : c.Gathered) :
    (c.neededEntries.map fun e => Token.certificate e.certificate).Sublist (c.tokens.drop 1) ∧
      (c.neededCrls.map Token.crl).Sublist (c.tokens.drop 1) ∧
        (c.neededOcsps.map Token.ocsp).Sublist (c.tokens.drop 1) := by
  refine ⟨?_, ?_, ?_⟩
  · have hcertificates : (c.neededEntries.map fun e => Token.certificate e.certificate) =
        ((c.tokens.drop 1).filterMap Token.certificate?).map .certificate := by
      rw [hg.entries, tokens, ← List.map_drop, List.filterMap_map, List.map_filterMap,
        List.map_filterMap]
      apply List.filterMap_congr
      intro s _
      cases hx : s.token.certificate? <;> simp [Slot.sourced?, hx]
    rw [hcertificates]
    exact map_filterMap_sublist (fun hx => (Token.eq_of_certificate? hx).symm) _
  · rw [hg.crls]
    exact map_filterMap_sublist (fun {u l} hl => by cases u <;> simp_all [Token.crl?]) _
  · rw [hg.ocsps]
    exact map_filterMap_sublist (fun {u r} hr => by cases u <;> simp_all [Token.ocsp?]) _

theorem Gathered.mem_after_first {u : Token} (hg : c.Gathered) (hu : u ∈ c.neededTokens) :
    u ∈ c.tokens.drop 1 := by
  obtain ⟨hcertificates, hcrls, hocsps⟩ := hg.sublists
  simp only [neededTokens, List.mem_append] at hu
  rcases hu with (hu | hu) | hu
  · exact hcertificates.subset hu
  · exact hcrls.subset hu
  · exact hocsps.subset hu

/-- Two kinds have no key in common, and within a kind nothing is there twice. -/
theorem Gathered.nodup_neededTokens (hg : c.Gathered)
    (hkeys : ((c.tokens.drop 1).map Token.key).Nodup) :
    (c.neededTokens.map Token.key).Nodup := by
  obtain ⟨hcertificates, hcrls, hocsps⟩ := hg.sublists
  have hpart : ∀ {us : List Token}, us.Sublist (c.tokens.drop 1) →
      (us.map Token.key).Nodup := fun hs =>
    hkeys.sublist (hs.map Token.key)
  rw [neededTokens, List.map_append, List.map_append, List.nodup_append, List.nodup_append]
  refine ⟨⟨hpart hcertificates, hpart hcrls, ?_⟩, hpart hocsps, ?_⟩
  · simp only [List.mem_map]
    rintro _ ⟨_, ⟨e, -, rfl⟩, rfl⟩ _ ⟨_, ⟨l, -, rfl⟩, rfl⟩ hsame
    cases hsame
  · simp only [List.mem_append, List.mem_map]
    rintro _ (⟨_, ⟨e, -, rfl⟩, rfl⟩ | ⟨_, ⟨l, -, rfl⟩, rfl⟩) _
      ⟨_, ⟨r, -, rfl⟩, rfl⟩ hsame <;> cases hsame

/-! ## Everything together -/

theorem tokens_eq_cons (hfirst : c.targetToken? = some t) : c.tokens = t :: c.tokens.drop 1 := by
  obtain ⟨s, hs, rfl⟩ := Option.map_eq_some_iff.1 hfirst
  have hhead : c.tokens[0]? = some s.token := tokens_getElem?_of_slot hs
  cases hts : c.tokens with
  | nil => simp [hts] at hhead
  | cons u us => simp_all

theorem inStep_of_first (hf : c.Filed) (hx : c.Indexed) (hg : c.Gathered)
    (hfirst : c.targetToken? = some t) :
    InStep t c where
  filed := hf
  indexed := hx
  keys := hf.nodup_keys
  first := hfirst
  gathered := hg
  entries := hg.entries
  once := by
    have hkeys := hf.nodup_keys
    rw [tokens_eq_cons hfirst, List.map_cons, List.nodup_cons] at hkeys
    obtain ⟨hnew, hrest⟩ := hkeys
    rw [List.map_cons, List.nodup_cons]
    refine ⟨?_, hg.nodup_neededTokens hrest⟩
    intro hmem
    obtain ⟨u, hu, hkey⟩ := List.mem_map.1 hmem
    exact hnew (hkey ▸ List.mem_map_of_mem (hg.mem_after_first hu))

/-- **After any requests the tokens, the index and the collections of a target's context agree.** -/
theorem requests_keep_inStep (t : Token) (date : Instant) (qs : List Request) :
    InStep t ((ofTarget t date).afterAll qs) := by
  have hstart : Step (empty date) (ofTarget t date) := .insert (empty date) t .other none
  have hindexed : (ofTarget t date).Indexed := Indexed.step (c := empty date) rfl hstart
  have hgathered : (ofTarget t date).Gathered := (gathered_empty date).step hstart
  have hfirst : (ofTarget t date).targetToken? = some t := rfl
  exact inStep_of_first (filed_afterAll (filed_ofTarget t date) qs)
    (afterAll_keeps (P := Indexed) Indexed.step hindexed qs)
    (afterAll_keeps (P := Gathered) Gathered.step hgathered qs)
    ((grows_afterAll _ qs).targetToken? hfirst)

end SignatureTrust.Context
