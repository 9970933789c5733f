import SignatureTrust.Source.Revocation

/-!
# `Proofs.Source.Revocation` — what a source of revocation evidence answers

A source in memory answers with one of its own that passes its test, and **answers whenever one
does**. Which one it is can be seen in the list: nothing before it is dated later, and everything
after it is dated earlier (`newest?_eq_some_iff`). Several sources in turn answer like the first of
them that answers at all.
-/

set_option autoImplicit false

namespace SignatureTrust

namespace EvidenceSource

variable {α : Type} {date : α → Instant} {a : α} {xs : List α}

theorem newer_isSome (best : Option α) : (newer date best a).isSome = true := by
  unfold newer
  cases best with
  | none => rfl
  | some b => dsimp only; split <;> rfl

theorem foldl_newer_isSome {best : Option α} (h : best.isSome = true) :
    (xs.foldl (newer date) best).isSome = true := by
  induction xs generalizing best with
  | nil => exact h
  | cons x xs ih =>
      rw [List.foldl_cons]
      exact ih (newer_isSome best)

theorem newest?_eq_none_iff : newest? date xs = none ↔ xs = [] := by
  cases xs with
  | nil => simp [newest?]
  | cons x xs =>
      have hs : (newest? date (x :: xs)).isSome = true := by
        rw [newest?, List.foldl_cons]
        exact foldl_newer_isSome (newer_isSome none)
      simp [← Option.isNone_iff_eq_none, Option.isNone_eq_false_iff.2 hs]

/-- Nothing before it in the list is dated later, and everything after it is dated earlier. -/
def Leads (date : α → Instant) (xs : List α) (a : α) : Prop :=
  ∃ before after, xs = before ++ a :: after ∧ (∀ b ∈ before, date b ≤ date a) ∧
    ∀ b ∈ after, date b < date a

theorem not_leads_nil : ¬ Leads date [] a := by
  rintro ⟨before, after, h, -⟩
  cases before <;> cases h

theorem leads_cons_iff {x : α} :
    Leads date (x :: xs) a ↔ (a = x ∧ ∀ b ∈ xs, date b < date a) ∨
      (date x ≤ date a ∧ Leads date xs a) := by
  constructor
  · rintro ⟨before, after, h, hbefore, hafter⟩
    cases before with
    | nil =>
        obtain ⟨rfl, rfl⟩ := List.cons.inj h
        exact .inl ⟨rfl, hafter⟩
    | cons y before =>
        obtain ⟨rfl, rfl⟩ := List.cons.inj h
        obtain ⟨hx, hbefore⟩ := List.forall_mem_cons.1 hbefore
        exact .inr ⟨hx, before, after, rfl, hbefore, hafter⟩
  · rintro (⟨rfl, hafter⟩ | ⟨hx, before, after, rfl, hbefore, hafter⟩)
    · exact ⟨[], xs, rfl, by simp, hafter⟩
    · exact ⟨x :: before, after, rfl, List.forall_mem_cons.2 ⟨hx, hbefore⟩, hafter⟩

theorem Leads.le_of_mem {b : α} (h : Leads date xs a) (hb : b ∈ xs) : date b ≤ date a := by
  obtain ⟨before, after, rfl, hbefore, hafter⟩ := h
  rcases List.mem_append.1 hb with hb | hb
  · exact hbefore b hb
  · rcases List.mem_cons.1 hb with rfl | hb
    · exact Instant.le_refl _
    · exact Instant.le_of_lt (hafter b hb)

/-- Of two at the front, only the newer one can lead. -/
theorem leads_newer_iff {b x : α} :
    Leads date ((if date b ≤ date x then x else b) :: xs) a ↔ Leads date (b :: x :: xs) a := by
  rw [leads_cons_iff (x := b)]
  by_cases hbx : date b ≤ date x
  · rw [if_pos hbx]
    constructor
    · intro h
      exact .inr ⟨Instant.le_trans hbx (h.le_of_mem List.mem_cons_self), h⟩
    · rintro (⟨rfl, hafter⟩ | ⟨-, h⟩)
      · exact absurd hbx (Instant.not_le.2 (hafter x List.mem_cons_self))
      · exact h
  · have hxb : date x < date b := Instant.not_le.1 hbx
    rw [if_neg hbx, leads_cons_iff, leads_cons_iff]
    constructor
    · rintro (⟨rfl, hafter⟩ | ⟨hb, h⟩)
      · exact .inl ⟨rfl, List.forall_mem_cons.2 ⟨hxb, hafter⟩⟩
      · exact .inr ⟨hb, .inr ⟨Instant.le_trans (Instant.le_of_lt hxb) hb, h⟩⟩
    · rintro (⟨rfl, hafter⟩ | ⟨hb, ⟨rfl, -⟩ | ⟨-, h⟩⟩)
      · exact .inl ⟨rfl, (List.forall_mem_cons.1 hafter).2⟩
      · exact absurd hb hbx
      · exact .inr ⟨hb, h⟩

theorem foldl_newer_eq_some_iff {b : α} :
    xs.foldl (newer date) (some b) = some a ↔ Leads date (b :: xs) a := by
  induction xs generalizing b with
  | nil => simp [leads_cons_iff, not_leads_nil, eq_comm]
  | cons x xs ih =>
      have hstep : newer date (some b) x = some (if date b ≤ date x then x else b) := by
        rw [newer, apply_ite some]
      rw [List.foldl_cons, hstep, ih, leads_newer_iff]

/-- **The newest is the one that leads.** -/
theorem newest?_eq_some_iff : newest? date xs = some a ↔ Leads date xs a := by
  cases xs with
  | nil => simp [newest?, not_leads_nil]
  | cons x xs => exact foldl_newer_eq_some_iff

theorem mem_of_newest? (h : newest? date xs = some a) : a ∈ xs := by
  obtain ⟨before, after, rfl, -⟩ := newest?_eq_some_iff.1 h
  exact List.mem_append_right before List.mem_cons_self

/-- A source and perhaps another one after it: what the first does not answer is left to the
second. -/
theorem getAt_inTurn (first : EvidenceSource α) (second : Option (EvidenceSource α))
    (x y : Certificate) (d : Instant) :
    (inTurn (first :: second.toList)).getAt x y d =
      (first.getAt x y d).or (second.bind fun source => source.getAt x y d) := by
  cases hf : first.getAt x y d <;> cases second <;> simp [inTurn, hf]

end EvidenceSource

open EvidenceSource

variable {x issuer : Certificate} {date : Instant}

namespace CrlSource

variable {crls : List Crl} {l : Crl}

theorem mem_of_getAt_ofList (h : (ofList crls).getAt x issuer date = some l) : l ∈ crls :=
  (List.mem_filter.1 (mem_of_newest? h)).1

/-- A list of the issuer's, already published, makes the source answer. -/
theorem getAt_ofList_ne_none (hl : l ∈ crls) (hi : concerns issuer l = true)
    (hd : l.thisUpdate ≤ date) :
    (ofList crls).getAt x issuer date ≠ none := by
  intro h
  have hempty := newest?_eq_none_iff.1 h
  have hmem : l ∈ crls.filter fun crl =>
      concerns issuer crl && decide (crl.thisUpdate ≤ date) :=
    List.mem_filter.2 ⟨hl, by simp [hi, hd]⟩
  rw [hempty] at hmem
  cases hmem

end CrlSource

namespace OcspSource

variable {responses : List OcspResponse} {r : OcspResponse}

theorem mem_of_getAt_ofList (h : (ofList responses).getAt x issuer date = some r) :
    r ∈ responses :=
  (List.mem_filter.1 (mem_of_newest? h)).1

/-- A response that speaks for the issuer, with an answer already given, makes the source answer. -/
theorem getAt_ofList_ne_none {single : SingleResponse}
    (hr : r ∈ responses) (hs : r.speaksFor issuer = true) (hf : r.find? x.serial = some single)
    (hd : single.thisUpdate ≤ date) :
    (ofList responses).getAt x issuer date ≠ none := by
  intro h
  have hempty := newest?_eq_none_iff.1 h
  have hmem : r ∈ responses.filter
      (concerns x issuer fun single => decide (single.thisUpdate ≤ date)) :=
    List.mem_filter.2 ⟨hr, by simp [concerns, hs, hf, hd]⟩
  rw [hempty] at hmem
  cases hmem

end OcspSource
end SignatureTrust
