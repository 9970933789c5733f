import SignatureTrust.Text.CaseMapping

/-!
# `Proofs.Text.CaseMapping` — what putting a text in one case leaves as it is

Letters come and go under the full mappings, so not even the length of a text is kept. What a reader
of structured text depends on is: **a mapping neither moves nor makes a mark** (`respells_upper`,
`respells_lower`), a mark being whatever prints in ASCII and is no letter.

For ASCII that is a matter of 128 characters, above it one of the tables: every row leads above
ASCII again, or to a letter.
-/

set_option autoImplicit false

namespace SignatureTrust.Text

/-- What prints in ASCII and is no letter. -/
def isMark (c : Char) : Bool := 0x20 ≤ c.toNat && c.toNat < 0x80 && !c.isAlpha

/-- A mark is its own image, and any other character has some image without marks. -/
structure KeepsMarks (c : Char) (image : List Char) : Prop where
  ofMark : isMark c = true → image = [c]
  isThere : image ≠ []
  ofOther : isMark c = false → ∀ d ∈ image, isMark d = false

theorem keepsMarks_singleton {c d : Char} (hmark : isMark c = true → d = c)
    (hother : isMark c = false → isMark d = false) :
    KeepsMarks c [d] where
  ofMark hc := by rw [hmark hc]
  isThere := List.cons_ne_nil _ _
  ofOther hc := List.forall_mem_singleton.2 (hother hc)

/-- A text with an image in the place of every character. -/
inductive Respells : List Char → List Char → Prop
  | nil : Respells [] []
  | cons {c : Char} {image cs ds : List Char} (keeps : KeepsMarks c image) (rest : Respells cs ds) :
      Respells (c :: cs) (image ++ ds)

theorem Respells.mem_iff {cs ds : List Char} (h : Respells cs ds) {m : Char}
    (hm : isMark m = true) : m ∈ ds ↔ m ∈ cs := by
  induction h with
  | nil => rfl
  | @cons c image cs ds keeps rest ih =>
      have hhere : m ∈ image ↔ m = c := by
        cases hc : isMark c with
        | true => rw [keeps.ofMark hc, List.mem_singleton]
        | false =>
            constructor
            · intro h
              rw [keeps.ofOther hc m h] at hm
              cases hm
            · rintro rfl
              rw [hm] at hc
              cases hc
      rw [List.mem_append, List.mem_cons, hhere, ih]

/-! ## ASCII -/

/-- What holds of 128 characters holds of all of ASCII. -/
theorem forall_ascii {p : Char → Prop} (h : ∀ n < 0x80, p (Char.ofNat n)) {c : Char}
    (hc : c.toNat < 0x80) : p c := by
  rw [← Char.ofNat_toNat c]
  exact h c.toNat hc

theorem keepsMarks_toUpper {c : Char} (hc : c.toNat < 0x80) : KeepsMarks c [c.toUpper] :=
  keepsMarks_singleton
    (forall_ascii (p := fun c => isMark c = true → c.toUpper = c) (by decide +kernel) hc)
    (forall_ascii (p := fun c => isMark c = false → isMark c.toUpper = false)
      (by decide +kernel) hc)

theorem keepsMarks_toLower {c : Char} (hc : c.toNat < 0x80) : KeepsMarks c [c.toLower] :=
  keepsMarks_singleton
    (forall_ascii (p := fun c => isMark c = true → c.toLower = c) (by decide +kernel) hc)
    (forall_ascii (p := fun c => isMark c = false → isMark c.toLower = false)
      (by decide +kernel) hc)

/-! ## The tables -/

/-- What is no character at all counts as `U+0000`, which does not print. -/
theorem isMark_ofNat_of_le {n : Nat} (h : 0x80 ≤ n) : isMark (Char.ofNat n) = false := by
  by_cases hvalid : n.isValidChar
  · have htoNat : (Char.ofNat n).toNat = n := by
      rw [Char.ofNat, dif_pos hvalid]
      rfl
    simp [isMark, htoNat, Nat.not_lt.2 h]
  · rw [Char.ofNat, dif_neg hvalid]
    rfl

/-- A run that leads above ASCII, or that is one character and leads to no mark. -/
def CaseRun.MissesMarks (run : CaseRun) : Prop :=
  0x80 ≤ run.first + run.shift ∨
    run.first = run.last ∧ isMark (Char.ofNat (Int.toNat (run.first + run.shift))) = false

instance (run : CaseRun) : Decidable run.MissesMarks := inferInstanceAs (Decidable (_ ∨ _))

theorem CaseRun.MissesMarks.isMark_shift {run : CaseRun} (h : run.MissesMarks) {n image : Nat}
    (himage : run.shift? n = some image) : isMark (Char.ofNat image) = false := by
  unfold CaseRun.shift? at himage
  split at himage
  case isFalse => cases himage
  case isTrue hin =>
    obtain rfl := Option.some.inj himage
    simp only [Bool.and_eq_true, decide_eq_true_eq] at hin
    rcases h with habove | ⟨hsingle, hmiss⟩
    · exact isMark_ofNat_of_le (by omega)
    · obtain rfl : n = run.first := by omega
      exact hmiss

theorem mapped_misses_marks {expansions : List (Nat × List Nat)} {runs : List CaseRun}
    {c : Char} (hc : isMark c = false)
    (hexpansions : ∀ e ∈ expansions, e.2 ≠ [] ∧
      ∀ n ∈ e.2, isMark (Char.ofNat n) = false)
    (hruns : ∀ run ∈ runs, run.MissesMarks) :
    mapped expansions runs c ≠ [] ∧ ∀ d ∈ mapped expansions runs c, isMark d = false := by
  unfold mapped
  split
  case h_1 image hlookup =>
    obtain ⟨_, _, rfl, -⟩ := List.lookup_eq_some_iff.1 hlookup
    obtain ⟨hsome, hmisses⟩ :=
      hexpansions (c.toNat, image) (List.mem_append_right _ List.mem_cons_self)
    exact ⟨by simpa using hsome, List.forall_mem_map.2 hmisses⟩
  case h_2 =>
    split
    case h_1 image hshift =>
      obtain ⟨run, hrun, himage⟩ := List.exists_of_findSome?_eq_some hshift
      exact ⟨List.cons_ne_nil _ _,
        List.forall_mem_singleton.2 ((hruns run hrun).isMark_shift himage)⟩
    case h_2 => exact ⟨List.cons_ne_nil _ _, List.forall_mem_singleton.2 hc⟩

theorem keepsMarks_mapped {expansions : List (Nat × List Nat)} {runs : List CaseRun}
    {c : Char} (hc : 0x80 ≤ c.toNat)
    (hexpansions : ∀ e ∈ expansions, e.2 ≠ [] ∧
      ∀ n ∈ e.2, isMark (Char.ofNat n) = false)
    (hruns : ∀ run ∈ runs, run.MissesMarks) :
    KeepsMarks c (mapped expansions runs c) := by
  have hother : isMark c = false := Char.ofNat_toNat c ▸ isMark_ofNat_of_le hc
  obtain ⟨hsome, hmisses⟩ := mapped_misses_marks hother hexpansions hruns
  exact ⟨fun hmark => absurd hmark (by simp [hother]), hsome, fun _ => hmisses⟩

theorem keepsMarks_upperChar (c : Char) : KeepsMarks c (upperChar c) := by
  unfold upperChar
  split
  case isTrue hc => exact keepsMarks_toUpper hc
  case isFalse hc =>
    exact keepsMarks_mapped (Nat.not_lt.1 hc) (by decide +kernel) (by decide +kernel)

theorem keepsMarks_lowerChar (c : Char) : KeepsMarks c (lowerChar c) := by
  unfold lowerChar
  split
  case isTrue hc => exact keepsMarks_toLower hc
  case isFalse hc =>
    exact keepsMarks_mapped (Nat.not_lt.1 hc) (by decide +kernel) (by decide +kernel)

theorem keepsMarks_smallSigma (before after : List Char) :
    KeepsMarks 'Σ' [smallSigma before after] := by
  have hsigma : isMark 'Σ' = false := rfl
  have hsmall : isMark (smallSigma before after) = false := by
    unfold smallSigma
    split <;> rfl
  exact keepsMarks_singleton (fun hmark => absurd hmark (by simp [hsigma])) fun _ => hsmall

/-! ## A text -/

theorem respells_upper (cs : List Char) : Respells cs (upper cs) := by
  induction cs with
  | nil => exact .nil
  | cons c cs ih => exact .cons (keepsMarks_upperChar c) ih

theorem respells_lowerAfter (before cs : List Char) : Respells cs (lowerAfter before cs) := by
  induction cs generalizing before with
  | nil => exact .nil
  | cons c cs ih =>
      refine .cons ?_ (ih _)
      split
      case isTrue hsigma => exact hsigma ▸ keepsMarks_smallSigma before cs
      case isFalse => exact keepsMarks_lowerChar c

theorem respells_lower (cs : List Char) : Respells cs (lower cs) := respells_lowerAfter [] cs

end SignatureTrust.Text
