import SignatureTrust.Source.Certificates

/-!
# `Proofs.Source.Certificates` — what a store of certificates answers

A store made from a list drops an encoding that is there already. So its entries come from the list,
and **no encoding of the list is lost**, though the entry that stands for it may be an earlier one
(`mem_ofEntries_iff`). Certificates that arrive by themselves get the store's provenance and no
service.
-/

set_option autoImplicit false

namespace SignatureTrust

/-- A source answers a name with the entries of one list that have it as their subject. -/
def CertificateSource.IsList (source : CertificateSource) : Prop :=
  ∃ entries : List Entry, ∀ name, source name = entries.filter fun e =>
    e.certificate.subject.same name

namespace CertificateStore

variable {s : CertificateStore} {p : Provenance} {x : Certificate} {a e : Entry}
  {xs : List Certificate} {es : List Entry}

/-! ## One entry for each encoding -/

theorem mem_add_iff :
    e ∈ (s.add a).entries ↔ e ∈ s.entries ∨ (s.holds a.certificate = false ∧ e = a) := by
  unfold add
  cases hholds : s.holds a.certificate <;> simp

theorem holds_add : (s.add a).holds x = (s.holds x || a.certificate.sameEncoding x) := by
  unfold add
  cases hholds : s.holds a.certificate with
  | false => simp [holds]
  | true =>
      -- what is there already has the encoding of the one that is dropped
      cases hsame : a.certificate.sameEncoding x with
      | false => simp
      | true =>
          obtain ⟨e, he, hencoding⟩ := List.any_eq_true.1 hholds
          have hx : e.certificate.encoding = x.encoding :=
            (Certificate.sameEncoding_iff.1 hencoding).trans (Certificate.sameEncoding_iff.1 hsame)
          have hheld : s.holds x = true :=
            List.any_eq_true.2 ⟨e, he, Certificate.sameEncoding_iff.2 hx⟩
          simp [hheld]

/-- What is added goes in where its encoding is new, both to the store and among what is added. -/
theorem mem_foldl_add_iff : e ∈ (es.foldl add s).entries ↔
    e ∈ s.entries ∨ (s.holds e.certificate = false ∧
      es.find? (fun a => a.certificate.sameEncoding e.certificate) = some e) := by
  induction es generalizing s with
  | nil => simp
  | cons a es ih =>
      rw [List.foldl_cons, ih, mem_add_iff, or_assoc, holds_add, Bool.or_eq_false_iff]
      refine or_congr_right ?_
      cases hsame : a.certificate.sameEncoding e.certificate with
      | true =>
          have hfirst : (s.holds a.certificate = false ∧ e = a) ↔
              (s.holds e.certificate = false ∧ a = e) :=
            ⟨fun ⟨hnew, h⟩ => ⟨h ▸ hnew, h.symm⟩,
              fun ⟨hnew, h⟩ => ⟨h ▸ hnew, h.symm⟩⟩
          simpa [hsame] using hfirst
      | false =>
          have hother : e ≠ a := by
            rintro rfl
            simp [Certificate.sameEncoding] at hsame
          simp [hsame, hother]

/-- **A store made of entries holds the first for each encoding**, and nothing else. -/
theorem mem_ofEntries_iff : e ∈ (ofEntries p es).entries ↔
    es.find? (fun a => a.certificate.sameEncoding e.certificate) = some e := by
  rw [ofEntries, mem_foldl_add_iff]
  simp [empty, holds]

/-! ## Certificates without a provenance of their own -/

theorem provenance_addCertificate : (s.addCertificate x).provenance = s.provenance := by
  unfold addCertificate add
  split <;> rfl

theorem mem_addCertificate_of_mem (h : e ∈ s.entries) : e ∈ (s.addCertificate x).entries :=
  mem_add_iff.2 (.inl h)

theorem exists_mem_addCertificate :
    ∃ e ∈ (s.addCertificate x).entries, e.certificate.encoding = x.encoding := by
  unfold addCertificate add
  split
  · rename_i h
    obtain ⟨e, he, hx⟩ := List.any_eq_true.1 h
    exact ⟨e, he, Certificate.sameEncoding_iff.1 hx⟩
  · exact ⟨_, List.mem_append_right _ List.mem_cons_self, rfl⟩

theorem mem_foldl_addCertificate_of_mem (h : e ∈ s.entries) :
    e ∈ (xs.foldl addCertificate s).entries := by
  induction xs generalizing s with
  | nil => exact h
  | cons x xs ih => exact ih (mem_addCertificate_of_mem h)

theorem exists_mem_foldl_addCertificate (h : x ∈ xs) :
    ∃ e ∈ (xs.foldl addCertificate s).entries, e.certificate.encoding = x.encoding := by
  induction xs generalizing s with
  | nil => cases h
  | cons y xs ih =>
      rcases List.mem_cons.1 h with rfl | h
      · obtain ⟨e, he, hx⟩ := exists_mem_addCertificate (s := s) (x := x)
        refine ⟨e, ?_, hx⟩
        rw [List.foldl_cons]
        exact mem_foldl_addCertificate_of_mem he
      · exact ih h

theorem mem_foldl_addCertificate (h : e ∈ (xs.foldl addCertificate s).entries) :
    e ∈ s.entries ∨ ∃ x ∈ xs, e = .plain x s.provenance := by
  induction xs generalizing s with
  | nil => exact .inl h
  | cons y xs ih =>
      rcases ih h with h | ⟨x, hx, he⟩
      · rcases mem_of_mem_add h with h | h
        · exact .inl h
        · exact .inr ⟨y, List.mem_cons_self, h⟩
      · exact .inr ⟨x, List.mem_cons_of_mem _ hx, by rw [he, provenance_addCertificate]⟩

theorem mem_ofCertificates (h : e ∈ (ofCertificates p xs).entries) :
    ∃ x ∈ xs, e = .plain x p := by
  rcases mem_foldl_addCertificate h with h | h
  · cases h
  · exact h

/-- Every encoding is there. -/
theorem exists_mem_ofCertificates (h : x ∈ xs) :
    ∃ e ∈ (ofCertificates p xs).entries, e.certificate.encoding = x.encoding :=
  exists_mem_foldl_addCertificate h

theorem mem_bySubject_iff {name : Name} :
    e ∈ s.bySubject name ↔ e ∈ s.entries ∧ e.certificate.subject.same name = true := by
  simp [bySubject]

end CertificateStore

namespace CertificateSource

variable {source : CertificateSource} {a b : Name} {e : Entry}

theorem isList_bySubject (s : CertificateStore) : IsList s.bySubject :=
  ⟨s.entries, fun _ => rfl⟩

/-- A list answers with an entry whichever way its subject is written. -/
theorem IsList.mem_of_same (hlist : source.IsList) (he : e ∈ source a)
    (hsame : e.certificate.subject.same b = true) :
    e ∈ source b := by
  obtain ⟨entries, hentries⟩ := hlist
  rw [hentries] at he ⊢
  exact List.mem_filter.2 ⟨(List.mem_filter.1 he).1, hsame⟩

end CertificateSource
end SignatureTrust
