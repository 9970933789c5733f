import SignatureTrust.Text.Blank

/-!
# `Proofs.Text.Blank` — trimming and collapsing, a character at a time

Trimming reverses the text and collapsing takes it apart into words, which is no help to a reading
that goes from left to right. Here both are said of the first character and the rest. **Collapsed
text reads like the text itself** as long as there are no two blanks in a row
(`collapsed_cons_cons`, `collapsed_cons_blank`), and trimming takes off nothing else than blanks
(`exists_eq_trimEnd_append`). Pieces that were joined are found again between their separators, but
for the blanks around them (`map_trim_splitWhere_intercalate`).
-/

set_option autoImplicit false

namespace SignatureTrust.Text

variable {c d : Char} {cs : List Char}

/-! ## Trimming -/

def trimEnd (cs : List Char) : List Char := (cs.reverse.dropWhile isBlank).reverse

theorem trim_eq (cs : List Char) : trim cs = trimEnd (cs.dropWhile isBlank) := rfl

@[simp] theorem trimEnd_nil : trimEnd [] = [] := rfl

theorem trimEnd_cons : trimEnd (c :: cs) =
    if trimEnd cs = [] then (if isBlank c then [] else [c]) else c :: trimEnd cs := by
  unfold trimEnd
  rw [List.reverse_cons, List.dropWhile_append]
  cases h : cs.reverse.dropWhile isBlank with
  | nil => cases hc : isBlank c <;> simp [hc]
  | cons => simp

theorem trimEnd_cons_of_ne_nil (h : trimEnd cs ≠ []) : trimEnd (c :: cs) = c :: trimEnd cs := by
  rw [trimEnd_cons, if_neg h]

theorem trimEnd_cons_of_not_blank (hc : isBlank c = false) :
    trimEnd (c :: cs) = c :: trimEnd cs := by
  rw [trimEnd_cons, hc]
  cases h : trimEnd cs <;> rfl

theorem trimEnd_cons_eq_nil_iff :
    trimEnd (c :: cs) = [] ↔ isBlank c = true ∧ trimEnd cs = [] := by
  rw [trimEnd_cons]
  split
  case isTrue h => cases isBlank c <;> simp [h]
  case isFalse h => simp [h]

/-- Trimming takes blanks off the end. -/
theorem exists_eq_trimEnd_append (cs : List Char) :
    ∃ blanks, cs = trimEnd cs ++ blanks ∧ ∀ b ∈ blanks, isBlank b = true := by
  refine ⟨(cs.reverse.takeWhile isBlank).reverse, ?_, fun b hb => ?_⟩
  · rw [trimEnd, ← List.reverse_append, List.takeWhile_append_dropWhile, List.reverse_reverse]
  · exact List.all_eq_true.1 List.all_takeWhile b (List.mem_reverse.1 hb)

theorem trimEnd_append_cons {as : List Char} (hc : isBlank c = false) :
    trimEnd (as ++ c :: cs) = as ++ c :: trimEnd cs := by
  induction as with
  | nil => exact trimEnd_cons_of_not_blank hc
  | cons a as ih =>
      rw [List.cons_append, trimEnd_cons_of_ne_nil (by simp [ih]), ih]
      rfl

theorem trimEnd_append {as : List Char} (h : trimEnd cs ≠ []) :
    trimEnd (as ++ cs) = as ++ trimEnd cs := by
  induction as with
  | nil => rfl
  | cons a as ih =>
      rw [List.cons_append, trimEnd_cons_of_ne_nil (by simp [ih, h]), ih]
      rfl

theorem trim_cons_of_blank (h : isBlank c = true) : trim (c :: cs) = trim cs := by
  rw [trim_eq, trim_eq, List.dropWhile_cons_of_pos h]

theorem trimEnd_append_blank (h : isBlank c = true) : trimEnd (cs ++ [c]) = trimEnd cs := by
  rw [trimEnd, trimEnd, List.reverse_append, List.reverse_singleton, List.singleton_append,
    List.dropWhile_cons_of_pos h]

theorem trim_append_blank (h : isBlank c = true) : trim (cs ++ [c]) = trim cs := by
  rw [trim_eq, trim_eq, List.dropWhile_append]
  split
  · next hnil =>
      rw [List.isEmpty_iff.1 hnil, List.dropWhile_cons_of_pos h]
      rfl
  · exact trimEnd_append_blank h

theorem mem_of_mem_trim (h : c ∈ trim cs) : c ∈ cs := by
  unfold trim at h
  exact (List.dropWhile_sublist _).subset
    (List.mem_reverse.1 ((List.dropWhile_sublist _).subset (List.mem_reverse.1 h)))

theorem dropWhile_isBlank_eq_self (h : ∀ c ∈ cs, isBlank c = false) :
    cs.dropWhile isBlank = cs := by
  cases cs with
  | nil => rfl
  | cons c cs => exact List.dropWhile_cons_of_neg (by simp [h c List.mem_cons_self])

theorem trimEnd_eq_self (h : ∀ c ∈ cs, isBlank c = false) : trimEnd cs = cs := by
  rw [trimEnd, dropWhile_isBlank_eq_self (by simpa using h), List.reverse_reverse]

theorem trim_eq_self (h : ∀ c ∈ cs, isBlank c = false) : trim cs = cs := by
  rw [trim_eq, dropWhile_isBlank_eq_self h, trimEnd_eq_self h]

/-! ## Collapsing -/

/-- The words of a text with one space between them. -/
def collapsed (cs : List Char) : List Char := joinWith [' '] (words cs)

theorem splitWhere_ne_nil (p : Char → Bool) (cs : List Char) : splitWhere p cs ≠ [] := by
  cases cs with
  | nil => simp [splitWhere]
  | cons c cs =>
      unfold splitWhere
      split
      · simp
      · split <;> simp

theorem words_cons_of_blank (hc : isBlank c = true) : words (c :: cs) = words cs := by
  simp [words, splitWhere, hc]

/-- A character before a blank is a word of its own. -/
theorem words_cons_blank (hc : isBlank c = false) (hd : isBlank d = true) :
    words (c :: d :: cs) = [c] :: words cs := by
  simp [words, splitWhere, hc, hd]

/-- A character before another lengthens its word. -/
theorem words_cons_cons (hc : isBlank c = false) (hd : isBlank d = false) :
    ∃ word others, words (d :: cs) = word :: others ∧
      words (c :: d :: cs) = (c :: word) :: others := by
  obtain ⟨piece, rest, h⟩ := List.exists_cons_of_ne_nil (splitWhere_ne_nil isBlank cs)
  exact ⟨d :: piece, rest.filter (! ·.isEmpty), by simp [words, splitWhere, hd, h],
    by simp [words, splitWhere, hc, hd, h]⟩

theorem words_eq_nil_iff : words cs = [] ↔ trimEnd cs = [] := by
  induction cs with
  | nil => simp [words, splitWhere]
  | cons c cs ih =>
      rw [trimEnd_cons_eq_nil_iff]
      cases hc : isBlank c with
      | true => simp [words_cons_of_blank hc, ih]
      | false =>
          obtain ⟨piece, rest, h⟩ := List.exists_cons_of_ne_nil (splitWhere_ne_nil isBlank cs)
          simp [words, splitWhere, hc, h]

theorem collapsed_singleton (hc : isBlank c = false) : collapsed [c] = [c] := by
  simp [collapsed, words, splitWhere, hc, joinWith]

theorem collapsed_cons_of_blank (hc : isBlank c = true) : collapsed (c :: cs) = collapsed cs := by
  rw [collapsed, words_cons_of_blank hc, collapsed]

theorem collapsed_cons_cons (hc : isBlank c = false) (hd : isBlank d = false) :
    collapsed (c :: d :: cs) = c :: collapsed (d :: cs) := by
  obtain ⟨word, others, hwords, hwords'⟩ := words_cons_cons hc hd
  rw [collapsed, collapsed, hwords, hwords']
  cases others <;> simp [joinWith]

/-- Blanks in a row come to one space, and to nothing at the end. -/
theorem collapsed_cons_blank (hc : isBlank c = false) (hd : isBlank d = true) :
    collapsed (c :: d :: cs) = c :: if trimEnd cs = [] then [] else ' ' :: collapsed cs := by
  rw [collapsed, words_cons_blank hc hd, collapsed]
  by_cases h : trimEnd cs = []
  · rw [if_pos h, words_eq_nil_iff.2 h]
    rfl
  · obtain ⟨word, others, hwords⟩ := List.exists_cons_of_ne_nil (mt words_eq_nil_iff.1 h)
    rw [if_neg h, hwords]
    rfl

/-! ## Joined pieces -/

variable {p : Char → Bool}

theorem splitWhere_cons_of_neg (cs : List Char) (hc : p c = false) :
    ∃ piece rest, splitWhere p cs = piece :: rest ∧
      splitWhere p (c :: cs) = (c :: piece) :: rest := by
  obtain ⟨piece, rest, h⟩ := List.exists_cons_of_ne_nil (splitWhere_ne_nil p cs)
  exact ⟨piece, rest, h, by simp [splitWhere, hc, h]⟩

theorem splitWhere_of_forall (h : ∀ c ∈ cs, p c = false) : splitWhere p cs = [cs] := by
  induction cs with
  | nil => rfl
  | cons c cs ih =>
      obtain ⟨hc, hcs⟩ := List.forall_mem_cons.1 h
      simp [splitWhere, hc, ih hcs]

theorem splitWhere_append_cons {ds : List Char} (h : ∀ c ∈ cs, p c = false) (hd : p d = true) :
    splitWhere p (cs ++ d :: ds) = cs :: splitWhere p ds := by
  induction cs with
  | nil => simp [splitWhere, hd]
  | cons c cs ih =>
      obtain ⟨hc, hcs⟩ := List.forall_mem_cons.1 h
      simp [splitWhere, hc, ih hcs]

/-- Pieces that are joined by a separator between blanks are what trimming leaves of the pieces
between separators. -/
theorem map_trim_splitWhere_intercalate {b : Char} (hb : isBlank b = true)
    (hpb : p b = false) (hd : p d = true) (piece : List Char) (pieces : List (List Char))
    (h : ∀ cs ∈ piece :: pieces, ∀ c ∈ cs, p c = false) :
    (splitWhere p (List.intercalate [b, d, b] (piece :: pieces))).map trim =
      (piece :: pieces).map trim := by
  induction pieces generalizing piece with
  | nil =>
      rw [List.intercalate_singleton, splitWhere_of_forall (h piece List.mem_cons_self)]
  | cons next pieces ih =>
      obtain ⟨hpiece, hnext⟩ := List.forall_mem_cons.1 h
      obtain ⟨first, rest, hsplit, hsplit'⟩ :=
        splitWhere_cons_of_neg (List.intercalate [b, d, b] (next :: pieces)) hpb
      have hbefore : ∀ c ∈ piece ++ [b], p c = false := by
        simpa [or_imp, forall_and] using ⟨hpiece, hpb⟩
      have htext : List.intercalate [b, d, b] (piece :: next :: pieces) =
          (piece ++ [b]) ++ d :: b :: List.intercalate [b, d, b] (next :: pieces) := by
        simp
      rw [htext, splitWhere_append_cons hbefore hd, hsplit', List.map_cons, List.map_cons,
        trim_append_blank hb, trim_cons_of_blank hb, List.map_cons, ← ih next hnext, hsplit,
        List.map_cons]

/-- Pieces without blanks, joined, have no blanks at their ends. -/
theorem trim_intercalate {separator piece : List Char} {pieces : List (List Char)}
    (h : ∀ cs ∈ piece :: pieces, cs ≠ [] ∧ ∀ c ∈ cs, isBlank c = false) :
    trim (List.intercalate separator (piece :: pieces)) =
      List.intercalate separator (piece :: pieces) := by
  have hend : trimEnd (List.intercalate separator (piece :: pieces)) =
      List.intercalate separator (piece :: pieces) ∧
      List.intercalate separator (piece :: pieces) ≠ [] := by
    induction pieces generalizing piece with
    | nil =>
        obtain ⟨hsome, hplain⟩ := h piece List.mem_cons_self
        rw [List.intercalate_singleton]
        exact ⟨trimEnd_eq_self hplain, hsome⟩
    | cons next pieces ih =>
        obtain ⟨hnext, hsome⟩ := ih fun cs hcs => h cs (List.mem_cons_of_mem piece hcs)
        rw [List.intercalate_cons_cons]
        refine ⟨?_, List.append_ne_nil_of_right_ne_nil _ hsome⟩
        rw [trimEnd_append (by rwa [hnext]), hnext]
  obtain ⟨hsome, hplain⟩ := h piece List.mem_cons_self
  obtain ⟨c, cs, rfl⟩ := List.exists_cons_of_ne_nil hsome
  have hhead : ∃ tail, List.intercalate separator ((c :: cs) :: pieces) = c :: tail := by
    cases pieces <;> simp
  obtain ⟨tail, htail⟩ := hhead
  rw [htail] at hend ⊢
  rw [trim_eq, List.dropWhile_cons_of_neg (by simp [hplain c List.mem_cons_self]), hend.1]

/-! ## The first of a character -/

variable {m : Char} {before after : List Char}

theorem bne_of_not_mem (h : m ∉ cs) : ∀ x ∈ cs, (x != m) = true := by
  intro x hx
  rw [bne_iff_ne]
  rintro rfl
  exact h hx

theorem splitAtFirst?_of_not_mem (h : m ∉ cs) : splitAtFirst? m cs = none := by
  rw [splitAtFirst?, ← List.append_nil cs, List.dropWhile_append_of_pos (bne_of_not_mem h),
    List.dropWhile_nil]

theorem splitAtFirst?_append_cons (h : m ∉ before) :
    splitAtFirst? m (before ++ m :: after) = some (before, after) := by
  rw [splitAtFirst?, List.dropWhile_append_of_pos (bne_of_not_mem h),
    List.takeWhile_append_of_pos (bne_of_not_mem h)]
  simp

theorem splitAtFirst?_eq_none_iff : splitAtFirst? m cs = none ↔ m ∉ cs := by
  constructor
  · intro hnone hm
    obtain ⟨before, after, rfl, hbefore⟩ := List.eq_append_cons_of_mem hm
    rw [splitAtFirst?_append_cons hbefore] at hnone
    cases hnone
  · exact splitAtFirst?_of_not_mem

theorem splitAtFirst?_eq_some_iff :
    splitAtFirst? m cs = some (before, after) ↔ cs = before ++ m :: after ∧ m ∉ before := by
  constructor
  · intro hsome
    have hm : m ∈ cs := Decidable.byContradiction fun hm => by
      rw [splitAtFirst?_of_not_mem hm] at hsome
      cases hsome
    obtain ⟨before', after', rfl, hbefore⟩ := List.eq_append_cons_of_mem hm
    rw [splitAtFirst?_append_cons hbefore] at hsome
    obtain ⟨rfl, rfl⟩ := Prod.mk.inj (Option.some.inj hsome)
    exact ⟨rfl, hbefore⟩
  · rintro ⟨rfl, hbefore⟩
    exact splitAtFirst?_append_cons hbefore

end SignatureTrust.Text
