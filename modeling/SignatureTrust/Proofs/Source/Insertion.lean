import SignatureTrust.Proofs.Source.Revocation
import SignatureTrust.Proofs.Source.Certificates

/-!
# `Proofs.Source.Insertion` — sources that were given more

`Inserted P xs ys` says that `ys` is `xs` with elements put in, anywhere, all of which have `P`.
What a source in memory makes of the longer list depends on where the source looks:

> what fails the test of a source **leaves its answer as it is**; of what passes, the answer may at
> most become **one of the elements put in**.

The store of certificates needs a word more. It keeps one entry for each encoding, so an element put
in front could take the place of a later one; it cannot if its encoding is new.
-/

set_option autoImplicit false

namespace SignatureTrust

/-- A list, and the same list with elements put in that have a property. -/
inductive Inserted {α : Type} (P : α → Prop) : List α → List α → Prop
  | nil : Inserted P [] []
  | keep {xs ys : List α} (x : α) (rest : Inserted P xs ys) : Inserted P (x :: xs) (x :: ys)
  | put {xs ys : List α} {y : α} (new : P y) (rest : Inserted P xs ys) : Inserted P xs (y :: ys)

namespace Inserted

variable {α : Type} {P Q : α → Prop} {xs ys xs' ys' : List α} {a : α}

theorem imp (h : Inserted P xs ys) (hPQ : ∀ a, P a → Q a) : Inserted Q xs ys := by
  induction h with
  | nil => exact .nil
  | keep x _ ih => exact .keep x ih
  | put new _ ih => exact .put (hPQ _ new) ih

theorem append (h : Inserted P xs ys) (k : Inserted P xs' ys') :
    Inserted P (xs ++ xs') (ys ++ ys') := by
  induction h with
  | nil => exact k
  | keep x _ ih => exact .keep x ih
  | put new _ ih => exact .put new ih

theorem filter (h : Inserted P xs ys) (p : α → Bool) :
    Inserted P (xs.filter p) (ys.filter p) := by
  induction h with
  | nil => exact .nil
  | keep x _ ih =>
      cases hp : p x with
      | true => simpa only [List.filter_cons_of_pos hp] using Inserted.keep x ih
      | false => simpa only [List.filter_cons_of_neg (Bool.not_eq_true _ ▸ hp)] using ih
  | @put _ _ y new _ ih =>
      cases hp : p y with
      | true => simpa only [List.filter_cons_of_pos hp] using Inserted.put new ih
      | false => simpa only [List.filter_cons_of_neg (Bool.not_eq_true _ ▸ hp)] using ih

/-- What was put in and fails a test is gone after it. -/
theorem filter_eq (h : Inserted P xs ys) {p : α → Bool} (hp : ∀ a, P a → p a = false) :
    ys.filter p = xs.filter p := by
  induction h with
  | nil => rfl
  | keep x _ ih => rw [List.filter_cons, List.filter_cons, ih]
  | put new _ ih => rw [List.filter_cons, hp _ new, ih]; rfl

theorem mem_of_mem (h : Inserted P xs ys) (ha : a ∈ xs) : a ∈ ys := by
  induction h with
  | nil => exact ha
  | keep x _ ih =>
      rcases List.mem_cons.1 ha with rfl | ha
      · exact List.mem_cons_self
      · exact List.mem_cons_of_mem _ (ih ha)
  | put _ _ ih => exact List.mem_cons_of_mem _ (ih ha)

theorem refl (xs : List α) : Inserted P xs xs := by
  induction xs with
  | nil => exact .nil
  | cons x _ ih => exact .keep x ih

theorem any_eq (h : Inserted P xs ys) {p : α → Bool} (hp : ∀ a, P a → p a = false) :
    ys.any p = xs.any p := by
  induction h with
  | nil => rfl
  | keep x _ ih => rw [List.any_cons, List.any_cons, ih]
  | put new _ ih => rw [List.any_cons, hp _ new, ih, Bool.false_or]

/-! ## The newest -/

open EvidenceSource

variable {date : α → Instant}

theorem leads_or (h : Inserted P xs ys) (ha : Leads date ys a) : Leads date xs a ∨ P a := by
  induction h with
  | nil => exact .inl ha
  | keep x rest ih =>
      rcases leads_cons_iff.1 ha with ⟨rfl, hafter⟩ | ⟨hx, ha⟩
      · exact .inl (leads_cons_iff.2 (.inl ⟨rfl, fun b hb => hafter b (rest.mem_of_mem hb)⟩))
      · exact (ih ha).imp_left fun ha => leads_cons_iff.2 (.inr ⟨hx, ha⟩)
  | put new _ ih =>
      rcases leads_cons_iff.1 ha with ⟨rfl, -⟩ | ⟨-, ha⟩
      · exact .inr new
      · exact ih ha

/-- The newest stays the newest, or is one that was put in. -/
theorem newest?_cases (h : Inserted P xs ys) :
    newest? date ys = newest? date xs ∨ ∃ a, P a ∧ newest? date ys = some a := by
  cases hn : newest? date ys with
  | none =>
      have hxs : xs = [] := List.eq_nil_iff_forall_not_mem.2 fun a ha =>
        absurd (h.mem_of_mem ha) (by simp [newest?_eq_none_iff.1 hn])
      exact .inl (newest?_eq_none_iff.2 hxs).symm
  | some a =>
      rcases h.leads_or (newest?_eq_some_iff.1 hn) with ha | ha
      · exact .inl (newest?_eq_some_iff.2 ha).symm
      · exact .inr ⟨a, ha, rfl⟩

/-! ## A store -/

open CertificateStore

variable {P : Entry → Prop} {s s' : CertificateStore} {e : Entry} {xs ys : List Entry}

/-- What has a new encoding does not keep the next entry out. -/
theorem add (h : Inserted P s.entries s'.entries)
    (hnew : ∀ a, P a → a.certificate.sameEncoding e.certificate = false) :
    Inserted P (s.add e).entries (s'.add e).entries := by
  have hholds : s'.holds e.certificate = s.holds e.certificate := h.any_eq hnew
  unfold CertificateStore.add
  rw [hholds]
  split
  · exact h
  · exact h.append (refl [e])

theorem add_right (h : Inserted P s.entries s'.entries) (he : P e) :
    Inserted P s.entries (s'.add e).entries := by
  unfold CertificateStore.add
  split
  · exact h
  · rw [← List.append_nil s.entries]
    exact h.append (.put he .nil)

theorem foldl_add (h : Inserted P xs ys) (hs : Inserted P s.entries s'.entries)
    (hnew : ∀ a, P a → ∀ x ∈ xs, a.certificate.sameEncoding x.certificate = false) :
    Inserted P (xs.foldl CertificateStore.add s).entries
      (ys.foldl CertificateStore.add s').entries := by
  induction h generalizing s s' with
  | nil => exact hs
  | keep x _ ih =>
      refine ih (hs.add fun a ha => hnew a ha x List.mem_cons_self) ?_
      intro a ha y hy
      exact hnew a ha y (List.mem_cons_of_mem x hy)
  | put new _ ih => exact ih (hs.add_right new) hnew

/-- **A store made from the longer list holds more, in the same places**, when what was put in has
new encodings. -/
theorem ofEntries {p : Provenance} (h : Inserted P xs ys)
    (hnew : ∀ a, P a → ∀ x ∈ xs, a.certificate.sameEncoding x.certificate = false) :
    Inserted P (ofEntries p xs).entries (ofEntries p ys).entries := h.foldl_add .nil hnew

end Inserted
end SignatureTrust
