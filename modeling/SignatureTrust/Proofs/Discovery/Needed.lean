import SignatureTrust.Proofs.Discovery.Growth

/-!
# `Proofs.Discovery.Needed` — what the collections of needed evidence hold

A context keeps three collections beside its tokens, and levels C and XL look at nothing else. They
are filled on the way in, one branch for each kind of token, with an exception for the first. All
that says one thing (`Gathered`):

> the collections are **the tokens after the first, by kind, in order**.

Recording a resolution touches a slot but no token, so it touches no collection either; that is why
the statement is about `tokens` and not about slots.
-/

set_option autoImplicit false

namespace SignatureTrust.Context

variable {c c' : Context} {h : Handle} {s : Slot}

/-- The tokens in order. -/
def tokens (c : Context) : List Token := c.slots.map (·.token)

/-- The handles of the certificates after the first token. -/
def certificateHandles (ts : List Token) : List Handle :=
  (ts.zipIdx.drop 1).filterMap fun (t, i) => t.certificate?.map fun _ => ⟨i⟩

/-- The collections agree with the tokens. -/
structure Gathered (c : Context) : Prop where
  certificates : c.neededCertificates = certificateHandles c.tokens
  crls : c.neededCrls = (c.tokens.drop 1).filterMap Token.crl?
  ocsps : c.neededOcsps = (c.tokens.drop 1).filterMap Token.ocsp?

/-! ## Every change keeps them -/

theorem tokens_append {t : Token} {p : Provenance} {v : Option Service} :
    (c.append t p v).tokens = c.tokens ++ [t] := by
  simp [tokens, append_eq]

theorem tokens_settled {r : Resolution} (hs : c.slot? h = some s) :
    (c.settled h s r).tokens = c.tokens := by
  obtain ⟨hlt, he⟩ := List.getElem?_eq_some_iff.1 hs
  have hlt' : h.index < (c.slots.map (·.token)).length := by simpa using hlt
  have hself : (c.slots.map (·.token))[h.index] = s.token := by rw [List.getElem_map, he]
  simp only [tokens, settled, List.map_set, ← hself, List.set_getElem_self]

/-- What a list without its first element gains from one more element. -/
theorem filterMap_drop_append {α β : Type} (f : α → Option β) (xs : List α) (x : α) :
    ((xs ++ [x]).drop 1).filterMap f =
      (xs.drop 1).filterMap f ++ if xs.length = 0 then [] else (f x).toList := by
  cases xs with
  | nil => rfl
  | cons y ys => cases hx : f x <;> simp [hx]

/-- The handles of certificates are numbered along with the tokens, so they grow like the other
two. -/
theorem Gathered.append {t : Token} {p : Provenance} {v : Option Service} (hg : c.Gathered) :
    (c.append t p v).Gathered where
  certificates := by
    have hlen : c.tokens.zipIdx.length = c.slots.length := by simp [tokens]
    rw [tokens_append, certificateHandles, List.zipIdx_append, List.zipIdx_singleton,
      filterMap_drop_append, hlen, ← certificateHandles, ← hg.certificates]
    simp [append_eq, unlessFirst, tokens]
  crls := by
    rw [tokens_append, filterMap_drop_append, ← hg.crls]
    simp [append_eq, unlessFirst, tokens]
  ocsps := by
    rw [tokens_append, filterMap_drop_append, ← hg.ocsps]
    simp [append_eq, unlessFirst, tokens]

theorem Gathered.step (hg : c.Gathered) (hs : Step c c') : c'.Gathered := by
  cases hs with
  | insert t p v =>
      rcases insert_cases c t p v with ⟨h, _, hi⟩ | ⟨_, hi⟩
      · rw [hi]; exact hg
      · rw [hi]; exact hg.append
  | record hr =>
      obtain ⟨s, hs, _, rfl⟩ := record_eq_ok_iff.1 hr
      have ht := tokens_settled (r := ‹Resolution›) hs
      exact ⟨by rw [ht]; exact hg.certificates, by rw [ht]; exact hg.crls,
        by rw [ht]; exact hg.ocsps⟩
  | countPass => exact ⟨hg.certificates, hg.crls, hg.ocsps⟩

theorem gathered_empty (date : Instant) : (empty date).Gathered := ⟨rfl, rfl, rfl⟩

/-! ## Every token but the target is in one -/

theorem tokens_getElem?_of_slot (hs : c.slot? h = some s) : c.tokens[h.index]? = some s.token := by
  simp only [slot?] at hs
  simp [tokens, hs]

theorem mem_drop_tokens (hs : c.slot? h = some s) (hn : h ≠ target) :
    s.token ∈ c.tokens.drop 1 := by
  obtain ⟨i⟩ := h
  cases i with
  | zero => exact absurd rfl hn
  | succ i =>
      refine List.mem_of_getElem? (i := i) ?_
      rw [List.getElem?_drop, Nat.add_comm]
      exact tokens_getElem?_of_slot hs

theorem Gathered.mem_crls {l : Crl} (hg : c.Gathered) (hs : c.slot? h = some s) (hn : h ≠ target)
    (ht : s.token = .crl l) : l ∈ c.neededCrls := by
  rw [hg.crls]
  exact List.mem_filterMap.2 ⟨s.token, mem_drop_tokens hs hn, by rw [ht]; rfl⟩

theorem Gathered.mem_ocsps {r : OcspResponse} (hg : c.Gathered) (hs : c.slot? h = some s)
    (hn : h ≠ target) (ht : s.token = .ocsp r) : r ∈ c.neededOcsps := by
  rw [hg.ocsps]
  exact List.mem_filterMap.2 ⟨s.token, mem_drop_tokens hs hn, by rw [ht]; rfl⟩

theorem Gathered.mem_entries {e : Entry} (hg : c.Gathered) (he : c.entryAt? h = some e)
    (hn : h ≠ target) :
    e ∈ c.neededEntries := by
  refine List.mem_filterMap.2 ⟨h, ?_, he⟩
  obtain ⟨s, hs, hse⟩ := Option.bind_eq_some_iff.1 he
  obtain ⟨certificate, hc, -⟩ := Option.map_eq_some_iff.1 hse
  rw [hg.certificates, certificateHandles]
  refine List.mem_filterMap.2 ⟨(s.token, h.index), ?_, by simp [hc]⟩
  obtain ⟨i⟩ := h
  cases i with
  | zero => exact absurd rfl hn
  | succ i =>
      refine List.mem_of_getElem? (i := i) ?_
      rw [List.getElem?_drop, Nat.add_comm, List.getElem?_zipIdx, tokens_getElem?_of_slot hs]
      simp

end SignatureTrust.Context
