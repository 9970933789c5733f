import Mathlib.Data.List.Induction
import SignatureTrust.Proofs.Structure.SumOfChecks
import SignatureTrust.Proofs.Text.Blank

/-!
# `Proofs.Structure.MaskText` — the text of a mask and its bits

The text of a mask is pieces between bars: names of checks, and numbers for any bits. Which pieces
there are, in what order and how often, is for the writer to choose, since

> **a text denotes the union of what its pieces denote** (`ofText?_textOf`).

The library's own choice is the names of the checks that the mask selects, in order, and one number
for the bits that stand for no check. Selected checks and remaining bits are all there is, so **a
mask is read back from its text** (`ofText?_toText`).
-/

set_option autoImplicit false

namespace SignatureTrust.Structure.Mask

open Text (isBlank trim splitWhere)

/-! ## Hexadecimal numbers -/

theorem exists_of_mem_toDigits {n : Nat} {c : Char} (h : c ∈ Nat.toDigits 16 n) :
    ∃ d < 16, c = Nat.digitChar d := by
  induction n using Nat.strongRecOn with
  | ind n ih =>
      rcases Nat.lt_or_ge n 16 with hn | hn
      · rw [Nat.toDigits_of_lt_base hn, List.mem_singleton] at h
        exact ⟨n, hn, h⟩
      · rw [Nat.toDigits_of_base_le (by decide) hn, List.mem_append, List.mem_singleton] at h
        obtain h | h := h
        · exact ih (n / 16) (by omega) h
        · exact ⟨n % 16, Nat.mod_lt n (by decide), h⟩

theorem hexValue?_digitChar : ∀ d < 16, hexValue? (Nat.digitChar d) = some d := by decide

theorem exists_values_toDigits (n : Nat) : ∃ values,
    (Nat.toDigits 16 n).mapM hexValue? = some values ∧
      values.foldl (fun n v => n * 16 + v) 0 = n := by
  induction n using Nat.strongRecOn with
  | ind n ih =>
      rcases Nat.lt_or_ge n 16 with hn | hn
      · refine ⟨[n], ?_, Nat.zero_add n⟩
        rw [Nat.toDigits_of_lt_base hn, List.mapM_cons, hexValue?_digitChar n hn]
        rfl
      · obtain ⟨values, hvalues, hsum⟩ := ih (n / 16) (by omega)
        refine ⟨values ++ [n % 16], ?_, ?_⟩
        · rw [Nat.toDigits_of_base_le (by decide) hn, List.mapM_append, hvalues, List.mapM_cons,
            hexValue?_digitChar (n % 16) (Nat.mod_lt n (by decide))]
          rfl
        · rw [List.foldl_append, hsum]
          exact Nat.div_add_mod' n 16

theorem hexBits?_toDigits (bits : UInt32) :
    hexBits? (Nat.toDigits 16 bits.toNat) = some ⟨bits⟩ := by
  obtain ⟨values, hvalues, hsum⟩ := exists_values_toDigits bits.toNat
  obtain ⟨d, ds, hds⟩ :=
    List.exists_cons_of_ne_nil (Nat.toDigits_ne_nil (b := 16) (n := bits.toNat))
  have hplus : d ≠ '+' := by
    rintro rfl
    obtain ⟨n, hn, hchar⟩ :=
      exists_of_mem_toDigits (n := bits.toNat) (by rw [hds]; exact List.mem_cons_self)
    have hvalue := hexValue?_digitChar n hn
    rw [← hchar] at hvalue
    cases hvalue
  have hfits : bits.toNat < 1 <<< 32 := bits.toNat_lt
  unfold hexBits?
  rw [hds] at hvalues ⊢
  split
  · next heq =>
      cases heq
      exact absurd rfl hplus
  · simp only [List.isEmpty_cons, Bool.false_eq_true, if_false, hvalues, Option.bind_eq_bind,
      Option.bind_some, hsum]
    rw [if_pos hfits, UInt32.ofNat_toNat]

/-! ## Pieces -/

/-- What stands between two bars. -/
inductive Piece where
  | name (c : Check)
  | number (bits : UInt32)

namespace Piece

def text : Piece → String
  | name c => c.flagName
  | number bits => "0x" ++ hexNumeral bits.toNat

def mask : Piece → Mask
  | name c => ofCheck c
  | number bits => ⟨bits⟩

theorem toList_text_number (bits : UInt32) :
    (number bits).text.toList = '0' :: 'x' :: Nat.toDigits 16 bits.toNat := by
  have hdigits : (hexNumeral bits.toNat).toList = Nat.toDigits 16 bits.toNat := String.toList_ofList
  rw [text, String.toList_append, hdigits]
  rfl

end Piece

/-- A name has no blank and no bar, and does not begin as a number does. -/
theorem plain_flagName (c : Check) :
    c.flagName.toList ≠ [] ∧ ∀ x ∈ c.flagName.toList, isBlank x = false ∧ x ≠ '|' ∧
      x ≠ '0' := by
  have hsome : c.flagName ≠ "" := by cases c <;> decide
  have hall : c.flagName.toList.all (fun x => !isBlank x && x != '|' && x != '0') = true := by
    cases c <;> decide +kernel
  refine ⟨mt String.toList_eq_nil_iff.1 hsome, fun x hx => ?_⟩
  have hx := List.all_eq_true.1 hall x hx
  simpa [and_assoc] using hx

theorem plain_digitChar :
    ∀ d < 16, isBlank (Nat.digitChar d) = false ∧ Nat.digitChar d ≠ '|' := by decide

theorem Piece.plain (p : Piece) :
    p.text.toList ≠ [] ∧ ∀ x ∈ p.text.toList, isBlank x = false ∧ x ≠ '|' := by
  cases p with
  | name c =>
      obtain ⟨hsome, hplain⟩ := plain_flagName c
      exact ⟨hsome, fun x hx => ⟨(hplain x hx).1, (hplain x hx).2.1⟩⟩
  | number bits =>
      rw [toList_text_number]
      refine ⟨List.cons_ne_nil _ _, List.forall_mem_cons.2 ⟨by decide,
        List.forall_mem_cons.2 ⟨by decide, fun x hx => ?_⟩⟩⟩
      obtain ⟨d, hd, rfl⟩ := exists_of_mem_toDigits hx
      exact plain_digitChar d hd

/-- A piece without the blanks around it. -/
def ofTrimmed? : List Char → Option Mask
  | '0' :: 'x' :: digits => hexBits? digits
  | name => (Check.all.find? fun c => c.flagName.toList == name).map ofCheck

theorem find?_flagName (c : Check) :
    (Check.all.find? fun d => d.flagName.toList == c.flagName.toList) = some c := by
  simp only [beq_eq_decide, String.toList_inj]
  cases c <;> rfl

theorem ofTrimmed?_text (p : Piece) : ofTrimmed? p.text.toList = some p.mask := by
  cases p with
  | name c =>
      show ofTrimmed? c.flagName.toList = some (ofCheck c)
      rw [ofTrimmed?, find?_flagName]
      · rfl
      · intro digits heq
        have hzero := (plain_flagName c).2 '0' (by rw [heq]; exact List.mem_cons_self)
        exact hzero.2.2 rfl
  | number bits =>
      rw [Piece.toList_text_number]
      exact hexBits?_toDigits bits

/-! ## Texts -/

def textOf (pieces : List Piece) : String := String.intercalate " | " (pieces.map Piece.text)

def unionOf (pieces : List Piece) : Mask := (pieces.map Piece.mask).foldl union empty

theorem toList_textOf (pieces : List Piece) :
    (textOf pieces).toList = List.intercalate [' ', '|', ' '] (pieces.map (·.text.toList)) := by
  rw [textOf, String.toList_intercalate, List.map_map]
  rfl

theorem mapM_ofPiece? (cuts : List (List Char)) :
    cuts.mapM ofPiece? = (cuts.map trim).mapM ofTrimmed? :=
  (List.mapM_map (f := trim) (g := ofTrimmed?)).symm

theorem mapM_ofTrimmed?_text (pieces : List Piece) :
    (pieces.map (·.text.toList)).mapM ofTrimmed? = some (pieces.map Piece.mask) := by
  induction pieces with
  | nil => rfl
  | cons p pieces ih =>
      rw [List.map_cons, List.mapM_cons, ofTrimmed?_text, ih]
      rfl

/-- **A text denotes the union of what its pieces denote**, in any order and however often. -/
theorem ofText?_textOf (pieces : List Piece) : ofText? (textOf pieces) = some (unionOf pieces) := by
  cases pieces with
  | nil => rfl
  | cons p pieces =>
      have hplain : ∀ cs ∈ (p :: pieces).map (·.text.toList), cs ≠ [] ∧
          ∀ x ∈ cs, isBlank x = false ∧ x ≠ '|' := by
        rw [List.forall_mem_map]
        exact fun q _ => q.plain
      have htrim : trim (textOf (p :: pieces)).toList = (textOf (p :: pieces)).toList := by
        rw [toList_textOf]
        exact Text.trim_intercalate fun cs hcs =>
          ⟨(hplain cs hcs).1, fun x hx => ((hplain cs hcs).2 x hx).1⟩
      have hcuts : (splitWhere (· == '|') (textOf (p :: pieces)).toList).map trim =
          (p :: pieces).map (·.text.toList) := by
        rw [toList_textOf, List.map_cons,
          Text.map_trim_splitWhere_intercalate (by decide) (by decide) (by decide)]
        · have hself : ∀ cs ∈ (p :: pieces).map (·.text.toList), trim cs = id cs :=
            fun cs hcs =>
            Text.trim_eq_self fun x hx => ((hplain cs hcs).2 x hx).1
          exact (List.map_congr_left hself).trans (List.map_id _)
        · exact fun cs hcs x hx => beq_false_of_ne ((hplain cs hcs).2 x hx).2
      have hsome : (textOf (p :: pieces)).toList.isEmpty = false := by
        rw [List.isEmpty_eq_false_iff, toList_textOf]
        cases pieces <;> simp [p.plain.1]
      rw [ofText?, htrim, hsome, mapM_ofPiece?, hcuts, mapM_ofTrimmed?_text]
      rfl

/-! ## The library's own text -/

theorem and_ofCheck (m : Mask) (c : Check) :
    m.bits &&& (ofCheck c).bits = if m.selects c then (ofCheck c).bits else 0 := by
  rw [← UInt32.toNat_inj, UInt32.toNat_and, toNat_bits_ofCheck, Nat.and_two_pow,
    ← selects_eq_testBit]
  cases m.selects c with
  | true => simp [toNat_bits_ofCheck]
  | false => simp

theorem and_union (m a b : Mask) :
    m.bits &&& (a.union b).bits = m.bits &&& a.bits ||| m.bits &&& b.bits := by
  rw [← UInt32.toBitVec_inj]
  exact BitVec.and_or_distrib_left

theorem bits_ofChecks_filter (m : Mask) (cs : List Check) :
    (ofChecks (cs.filter m.selects)).bits = m.bits &&& (ofChecks cs).bits := by
  induction cs using List.reverseRecOn with
  | nil => exact UInt32.and_zero.symm
  | append_singleton cs c ih =>
      have hlast : ∀ cs, ofChecks (cs ++ [c]) = (ofChecks cs).union (ofCheck c) :=
        fun cs => List.foldl_append
      rw [hlast, and_union, and_ofCheck, ← ih, List.filter_append]
      cases hc : m.selects c with
      | true =>
          rw [if_pos rfl, List.filter_cons_of_pos hc, List.filter_nil, hlast]
          rfl
      | false => simp [hc]

/-- The pieces of the library's own text. -/
def ownPieces (m : Mask) : List Piece :=
  m.checks.map .name ++ if m.remainder = 0 then [] else [.number m.remainder]

theorem toText_eq (m : Mask) : m.toText = textOf m.ownPieces := by
  have hnames : (m.checks.map Piece.name).map Piece.text = m.checks.map Check.flagName :=
    List.map_map
  rw [toText, textOf, ownPieces, List.map_append, hnames]
  split <;> rfl

/-- Selected checks and remaining bits are all there is. -/
theorem bits_and_all_or_remainder (m : Mask) : m.bits &&& all.bits ||| m.remainder = m.bits := by
  have hwhole : m.bits &&& (all.bits ||| ~~~all.bits) = m.bits := by
    rw [UInt32.or_not_self, UInt32.and_neg_one]
  exact (and_union m all ⟨~~~all.bits⟩).symm.trans hwhole

theorem unionOf_ownPieces (m : Mask) : unionOf m.ownPieces = m := by
  have hnames : unionOf (m.checks.map .name) = ⟨m.bits &&& all.bits⟩ := by
    rw [unionOf, List.map_map, List.foldl_map]
    exact congrArg Mask.mk (bits_ofChecks_filter m Check.all)
  have hwhole := m.bits_and_all_or_remainder
  rw [ownPieces]
  split
  case isTrue hnone =>
    rw [hnone, UInt32.or_zero] at hwhole
    rw [List.append_nil, hnames, hwhole]
  case isFalse =>
    have hlast : unionOf (m.checks.map .name ++ [.number m.remainder]) =
        (unionOf (m.checks.map .name)).union ⟨m.remainder⟩ := by
      rw [unionOf, List.map_append, List.foldl_append]
      rfl
    rw [hlast, hnames]
    exact congrArg Mask.mk hwhole

/-- **A mask is read back from its text.** -/
theorem ofText?_toText (m : Mask) : ofText? m.toText = some m := by
  rw [toText_eq, ofText?_textOf, unionOf_ownPieces]

example : (⟨0x80000041⟩ : Mask).toText =
    "SIGNING_CERTIFICATE_DIGEST | SIGNER_ROLE | 0x80000000" := by decide +kernel

end SignatureTrust.Structure.Mask
