import SignatureTrust.Name
import SignatureTrust.Proofs.Text.Blank
import SignatureTrust.Proofs.Text.CaseMapping

/-!
# `Proofs.Name` — which names are the same

Names are compared by one text, in which their relative names stand with commas between them. So it
matters whether that text still says where one ends. A backslash keeps the next character from
separating, and blanks at the end are taken off even where they are escaped: then the backslash is
left, and what it escapes is the comma (`Dangles`).

> **Names are the same just if their relative names are the same once glued together where one
> dangles** (`same_iff_rdns_where_apart`).

Where none but the last dangles (`Apart`) nothing is glued, and names without a backslash are such
(`apart_of_unescaped`). A name without any relative name is written like one whose only relative
name is empty.

The proof reads the text from left to right with one bit, whether the next character is escaped
(`scan`). Neither case nor blanks have a part in that, but for the blanks at the end.
-/

set_option autoImplicit false

namespace SignatureTrust
namespace Name

open Text

/-- A relative name as it is compared: a type and a value, or a text without an equals sign. -/
inductive Relative
  | attribute (type value : List Char)
  | text (t : List Char)
deriving DecidableEq

namespace Relative

def ofText (rdn : List Char) : Relative :=
  match splitAtFirst? '=' rdn with
  | some (type, value) => .attribute (upper (trim type)) (lower (collapsed value))
  | none => .text (lower (trim rdn))

def written : Relative → List Char
  | .attribute type value => type ++ '=' :: value
  | .text t => t

/-- What was written, read again without touching its blanks or its case. -/
def read (cs : List Char) : Relative :=
  match splitAtFirst? '=' cs with
  | some (type, value) => .attribute type value
  | none => .text cs

end Relative

/-- The relative names of a name. -/
def rdns (n : Name) : List Relative := n.relativeNames.map .ofText

/-! ## Escapes -/

/-- Whether the character after one more is escaped; none where the relative name ends. -/
def afterChar (escaped : Bool) (c : Char) : Option Bool :=
  if escaped then some false else if c = ',' ∨ c = ';' then none else some (c = '\\')

/-- Whether the character after a text is escaped; none where the text is more than one relative
name. -/
def scan (escaped : Bool) (cs : List Char) : Option Bool := cs.foldlM afterChar escaped

/-- Neither a separator nor what keeps one from separating. -/
def IsPlain (c : Char) : Prop := ¬ (c = ',' ∨ c = ';') ∧ c ≠ '\\'

variable {c : Char} {cs ds : List Char} {escaped : Bool}

theorem scan_cons : scan escaped (c :: cs) = (afterChar escaped c).bind (scan · cs) := rfl

theorem scan_append : scan escaped (cs ++ ds) = (scan escaped cs).bind (scan · ds) :=
  List.foldlM_append

theorem scan_of_append_ne_none (h : scan escaped (cs ++ ds) ≠ none) :
    scan escaped cs ≠ none := by
  rintro hnone
  rw [scan_append, hnone] at h
  exact h rfl

theorem afterChar_backslash : afterChar false '\\' = some true := rfl

theorem afterChar_escaped : afterChar true c = some false := rfl

theorem afterChar_separator (h : c = ',' ∨ c = ';') : afterChar false c = none := by
  simp [afterChar, h]

theorem IsPlain.afterChar (hc : IsPlain c) : afterChar escaped c = some false := by
  unfold Name.afterChar
  cases escaped <;> simp [hc.1, hc.2]

/-- After a plain character nothing is escaped, whatever it stood behind. -/
theorem scan_cons_of_plain (hc : IsPlain c) : scan escaped (c :: cs) = scan false cs := by
  rw [scan_cons, hc.afterChar]
  rfl

theorem scan_of_plain (hplain : ∀ c ∈ cs, IsPlain c) (hcs : cs ≠ []) :
    scan escaped cs = some false := by
  induction cs generalizing escaped with
  | nil => exact absurd rfl hcs
  | cons c cs ih =>
      obtain ⟨hc, hplain⟩ := List.forall_mem_cons.1 hplain
      rw [scan_cons_of_plain hc]
      cases cs with
      | nil => rfl
      | cons d cs => exact ih hplain (List.cons_ne_nil _ _)

theorem isPlain_equals : IsPlain '=' := by simp [IsPlain]

theorem isPlain_of_isMark_eq_false (hc : isMark c = false) : IsPlain c := by
  constructor
  · rintro (rfl | rfl) <;> cases hc
  · rintro rfl
    cases hc

theorem isPlain_of_isBlank (hc : isBlank c = true) : IsPlain c := by
  constructor
  · rintro (rfl | rfl) <;> cases hc
  · rintro rfl
    cases hc

/-- Case has no part in what is escaped. -/
theorem scan_of_respells (h : Respells cs ds) : scan escaped ds = scan escaped cs := by
  induction h generalizing escaped with
  | nil => rfl
  | @cons c image cs ds keeps rest ih =>
      have himage : scan escaped image = afterChar escaped c := by
        cases hc : isMark c with
        | true =>
            rw [keeps.ofMark hc, scan_cons]
            exact Option.bind_fun_some _
        | false =>
            rw [(isPlain_of_isMark_eq_false hc).afterChar]
            exact scan_of_plain (fun d hd =>
              isPlain_of_isMark_eq_false (keeps.ofOther hc d hd)) keeps.isThere
      simp only [scan_append, himage, scan_cons, ih]

theorem scan_upper : scan escaped (upper cs) = scan escaped cs :=
  scan_of_respells (respells_upper cs)

theorem scan_lower : scan escaped (lower cs) = scan escaped cs :=
  scan_of_respells (respells_lower cs)

/-! ## Blanks -/

/-- A blank in front leaves nothing escaped, so it may as well be missing. -/
theorem scan_trimEnd_cons_of_blank (hc : isBlank c = true) :
    scan false (trimEnd (c :: cs)) = scan false (trimEnd cs) := by
  by_cases hcs : trimEnd cs = []
  · rw [hcs, trimEnd_cons_eq_nil_iff.2 ⟨hc, hcs⟩]
  · rw [trimEnd_cons_of_ne_nil hcs, scan_cons_of_plain (isPlain_of_isBlank hc)]

theorem scan_trim : scan false (trim cs) = scan false (trimEnd cs) := by
  induction cs with
  | nil => rfl
  | cons c cs ih =>
      rw [trim_eq]
      cases hc : isBlank c with
      | false => simp [hc]
      | true => rw [List.dropWhile_cons_of_pos hc, ← trim_eq, ih, scan_trimEnd_cons_of_blank hc]

/-- Nor has the number of blanks in a row, within a text. A blank in front must not be escaped: it
would leave its escape to the first word. -/
theorem scan_collapsed_of_head (hstart : ∀ c ∈ cs.head?, isBlank c = true → escaped = false) :
    scan escaped (collapsed cs) = scan escaped (trimEnd cs) := by
  induction cs generalizing escaped with
  | nil => rfl
  | cons c cs ih =>
      cases hc : isBlank c with
      | true =>
          obtain rfl := hstart c rfl hc
          rw [collapsed_cons_of_blank hc, ih fun _ _ _ => rfl, scan_trimEnd_cons_of_blank hc]
      | false =>
          rw [trimEnd_cons_of_not_blank hc]
          cases cs with
          | nil => rw [collapsed_singleton hc, trimEnd_nil]
          | cons d cs =>
              cases hd : isBlank d with
              | false =>
                  have hrest (e : Bool) : scan e (collapsed (d :: cs)) =
                      scan e (trimEnd (d :: cs)) :=
                    ih fun x hx hblank => by
                      obtain rfl := Option.some.inj hx
                      rw [hd] at hblank
                      cases hblank
                  rw [collapsed_cons_cons hc hd, scan_cons, scan_cons]
                  simp only [hrest]
              | true =>
                  have hrest : scan false (collapsed (d :: cs)) = scan false (trimEnd (d :: cs)) :=
                    ih fun _ _ _ => rfl
                  rw [collapsed_cons_blank hc hd]
                  by_cases hcs : trimEnd cs = []
                  · rw [if_pos hcs, trimEnd_cons_eq_nil_iff.2 ⟨hd, hcs⟩]
                  · have hspace : IsPlain ' ' := isPlain_of_isBlank rfl
                    rw [collapsed_cons_of_blank hd, scan_trimEnd_cons_of_blank hd] at hrest
                    rw [if_neg hcs, trimEnd_cons_of_ne_nil hcs, scan_cons, scan_cons]
                    simp only [scan_cons_of_plain hspace,
                      scan_cons_of_plain (isPlain_of_isBlank hd), hrest]

theorem scan_collapsed : scan false (collapsed cs) = scan false (trimEnd cs) :=
  scan_collapsed_of_head fun _ _ _ => rfl

theorem scan_trim_ne_none (h : scan false cs ≠ none) : scan false (trim cs) ≠ none := by
  obtain ⟨blanks, heq, -⟩ := exists_eq_trimEnd_append cs
  rw [scan_trim]
  rw [heq] at h
  exact scan_of_append_ne_none h

/-! ## What is written -/

theorem canonicalRelative_eq (rdn : List Char) :
    canonicalRelative rdn = (Relative.ofText rdn).written := by
  unfold canonicalRelative Relative.ofText
  cases splitAtFirst? '=' rdn <;> rfl

theorem canonical_eq (n : Name) :
    n.canonical = String.ofList (joinWith [','] (n.rdns.map (·.written))) := by
  unfold canonical rdns
  rw [List.map_map]
  exact congrArg (fun rs => String.ofList (joinWith [','] rs))
    (List.map_congr_left fun rdn _ => canonicalRelative_eq rdn)

theorem not_equals_of_respells (h : Respells cs ds) (hcs : '=' ∉ cs) : '=' ∉ ds :=
  mt (h.mem_iff rfl).1 hcs

/-- **A relative name can be told from how it is written.** The first equals sign still is the
first. -/
theorem read_written (rdn : List Char) :
    Relative.read (Relative.ofText rdn).written = Relative.ofText rdn := by
  unfold Relative.ofText
  cases h : splitAtFirst? '=' rdn with
  | none =>
      have hrdn : '=' ∉ rdn := splitAtFirst?_eq_none_iff.1 h
      have htext : '=' ∉ lower (trim rdn) :=
        not_equals_of_respells (respells_lower _) (mt mem_of_mem_trim hrdn)
      simp only [Relative.written, Relative.read, splitAtFirst?_of_not_mem htext]
  | some parts =>
      obtain ⟨type, value⟩ := parts
      obtain ⟨-, htype⟩ := splitAtFirst?_eq_some_iff.1 h
      have htype' : '=' ∉ upper (trim type) :=
        not_equals_of_respells (respells_upper _) (mt mem_of_mem_trim htype)
      simp only [Relative.written, Relative.read, splitAtFirst?_append_cons htype']

/-- Writing a relative name takes the blanks around it off, and changes nothing else that matters to
escapes. -/
theorem scan_written {rdn : List Char} (h : scan false rdn ≠ none) :
    scan false (Relative.ofText rdn).written = scan false (trim rdn) := by
  unfold Relative.ofText
  cases hsplit : splitAtFirst? '=' rdn with
  | none => exact scan_lower
  | some parts =>
      obtain ⟨type, value⟩ := parts
      obtain ⟨rfl, -⟩ := splitAtFirst?_eq_some_iff.1 hsplit
      obtain ⟨e, htype⟩ := Option.ne_none_iff_exists'.1 (scan_of_append_ne_none h)
      obtain ⟨e', htrimmed⟩ :=
        Option.ne_none_iff_exists'.1 (scan_trim_ne_none (scan_of_append_ne_none h))
      calc scan false (upper (trim type) ++ '=' :: lower (collapsed value))
          = scan false (trimEnd value) := by
            rw [scan_append, scan_upper, htrimmed, Option.bind_some,
              scan_cons_of_plain isPlain_equals, scan_lower, scan_collapsed]
        _ = scan false (type ++ '=' :: trimEnd value) := by
            rw [scan_append, htype, Option.bind_some, scan_cons_of_plain isPlain_equals]
        _ = scan false (trim (type ++ '=' :: value)) := by rw [scan_trim, trimEnd_append_cons rfl]

theorem scan_ne_true_of_unescaped (h : '\\' ∉ cs) : scan false cs ≠ some true := by
  induction cs with
  | nil => decide
  | cons c cs ih =>
      rw [List.mem_cons, not_or] at h
      obtain ⟨hc, hcs⟩ := h
      have hafter : afterChar false c = none ∨ afterChar false c = some false := by
        unfold afterChar
        by_cases hseparates : c = ',' ∨ c = ';' <;> simp [hseparates, Ne.symm hc]
      rw [scan_cons]
      rcases hafter with hafter | hafter <;> rw [hafter]
      · exact nofun
      · exact ih hcs

/-! ## Pieces -/

/-- The pieces of a text whose first character may be escaped. -/
def piecesFrom : Bool → List Char → List (List Char)
  | _, [] => [[]]
  | escaped, c :: cs =>
      match afterChar escaped c with
      | some next => (piecesFrom next cs).modifyHead (c :: ·)
      | none => [] :: piecesFrom false cs

theorem piecesFrom_cons_of_some {next : Bool} (h : afterChar escaped c = some next) :
    piecesFrom escaped (c :: cs) = (piecesFrom next cs).modifyHead (c :: ·) := by
  rw [piecesFrom, h]

theorem piecesFrom_cons_of_none (h : afterChar escaped c = none) :
    piecesFrom escaped (c :: cs) = [] :: piecesFrom false cs := by
  rw [piecesFrom, h]

theorem pieces_eq (cs : List Char) : pieces cs = piecesFrom false cs := by
  induction cs using pieces.induct with
  | case1 => rfl
  | case2 c cs ih =>
      rw [pieces_escaped, ih, piecesFrom_cons_of_some afterChar_backslash,
        piecesFrom_cons_of_some afterChar_escaped, List.modifyHead_modifyHead]
      rfl
  | case3 c cs _ hseparates ih =>
      rw [pieces_separator hseparates, ih, piecesFrom_cons_of_none (afterChar_separator hseparates)]
  | case4 c cs hlast hseparates ih =>
      by_cases hescapes : c = '\\'
      · subst hescapes
        cases cs with
        | nil => rfl
        | cons d ds => exact absurd rfl (hlast d ds rfl)
      · rw [pieces_plain hseparates hescapes, ih,
          piecesFrom_cons_of_some (IsPlain.afterChar ⟨hseparates, hescapes⟩)]

/-- No separator is left in a piece. -/
theorem piecesFrom_eq_cons (escaped : Bool) (cs : List Char) :
    ∃ piece rest, piecesFrom escaped cs = piece :: rest ∧ scan escaped piece ≠ none ∧
      ∀ p ∈ rest, scan false p ≠ none := by
  induction cs generalizing escaped with
  | nil => exact ⟨[], [], rfl, nofun, nofun⟩
  | cons c cs ih =>
      cases hc : afterChar escaped c with
      | some next =>
          obtain ⟨piece, rest, heq, hpiece, hrest⟩ := ih next
          refine ⟨c :: piece, rest, by rw [piecesFrom_cons_of_some hc, heq, List.modifyHead_cons],
            ?_, hrest⟩
          rw [scan_cons, hc]
          exact hpiece
      | none =>
          obtain ⟨piece, rest, heq, hpiece, hrest⟩ := ih false
          exact ⟨[], piece :: rest, by rw [piecesFrom_cons_of_none hc, heq], nofun,
            List.forall_mem_cons.2 ⟨hpiece, hrest⟩⟩

theorem subset_of_mem_piecesFrom {p : List Char} (h : p ∈ piecesFrom escaped cs) : p ⊆ cs := by
  induction cs generalizing escaped p with
  | nil =>
      obtain rfl := List.mem_singleton.1 h
      exact List.nil_subset _
  | cons c cs ih =>
      cases hc : afterChar escaped c with
      | some next =>
          obtain ⟨piece, rest, heq, -⟩ := piecesFrom_eq_cons next cs
          rw [piecesFrom_cons_of_some hc, heq, List.modifyHead_cons] at h
          rcases List.mem_cons.1 h with rfl | hrest
          · exact List.cons_subset_cons c (ih (heq ▸ List.mem_cons_self))
          · exact List.Subset.trans (ih (heq ▸ List.mem_cons_of_mem _ hrest))
              (List.subset_cons_self c cs)
      | none =>
          rw [piecesFrom_cons_of_none hc] at h
          rcases List.mem_cons.1 h with rfl | hrest
          · exact List.nil_subset _
          · exact List.Subset.trans (ih hrest) (List.subset_cons_self c cs)

theorem mem_pieces_of_mem_relativeNames {n : Name} {rdn : List Char} (h : rdn ∈ n.relativeNames) :
    rdn ∈ pieces n.raw.toList := by
  dsimp only [relativeNames, relativeNamesOf] at h
  split at h
  case h_1 =>
    split at h
    · exact (List.dropLast_sublist _).subset h
    · exact h
  case h_2 => exact h

theorem scan_of_mem_relativeNames {n : Name} {rdn : List Char} (h : rdn ∈ n.relativeNames) :
    scan false rdn ≠ none := by
  have hmem := mem_pieces_of_mem_relativeNames h
  obtain ⟨piece, rest, heq, hpiece, hrest⟩ := piecesFrom_eq_cons false n.raw.toList
  rw [pieces_eq, heq] at hmem
  exact (List.forall_mem_cons (p := (scan false · ≠ none))).2 ⟨hpiece, hrest⟩ rdn hmem

theorem piecesFrom_append {e : Bool} (h : scan escaped cs = some e) :
    piecesFrom escaped (cs ++ ds) = (piecesFrom e ds).modifyHead (cs ++ ·) := by
  induction cs generalizing escaped with
  | nil =>
      obtain rfl := Option.some.inj h
      exact (congrFun List.modifyHead_id _).symm
  | cons c cs ih =>
      rw [scan_cons] at h
      obtain ⟨next, hnext, h⟩ := Option.bind_eq_some_iff.1 h
      rw [List.cons_append, piecesFrom_cons_of_some hnext, ih h, List.modifyHead_modifyHead]
      rfl

/-! ## Joined and taken apart again -/

/-- What joined texts are found to be: one that ends in an escape takes in the next, and no text at
all is an empty one. -/
def glued : List (List Char) → List (List Char)
  | [] => [[]]
  | [r] => [r]
  | r :: s :: rest =>
      if scan false r = some true then (glued (s :: rest)).modifyHead (r ++ ',' :: ·)
        else r :: glued (s :: rest)

theorem glued_ne_nil (rs : List (List Char)) : glued rs ≠ [] := by
  fun_induction glued rs <;> simp_all

theorem joinWith_cons {r : List Char} {rs : List (List Char)} (h : rs ≠ []) :
    joinWith [','] (r :: rs) = r ++ ',' :: joinWith [','] rs := by
  obtain ⟨s, rest, rfl⟩ := List.exists_cons_of_ne_nil h
  simp [joinWith]

theorem pieces_joinWith {rs : List (List Char)} (h : ∀ r ∈ rs, scan false r ≠ none) :
    pieces (joinWith [','] rs) = glued rs := by
  rw [pieces_eq]
  fun_induction glued rs with
  | case1 => rfl
  | case2 r =>
      obtain ⟨e, he⟩ := Option.ne_none_iff_exists'.1 (h r List.mem_cons_self)
      rw [joinWith, ← List.append_nil r, piecesFrom_append he]
      rfl
  | case3 r s rest hdangles ih =>
      rw [joinWith_cons (List.cons_ne_nil _ _), piecesFrom_append hdangles,
        piecesFrom_cons_of_some afterChar_escaped, ih fun r hr => h r (List.mem_cons_of_mem _ hr),
        List.modifyHead_modifyHead]
      rfl
  | case4 r s rest hcloses ih =>
      have hr : scan false r = some false := by
        have hone := h r List.mem_cons_self
        revert hone hcloses
        rcases scan false r with _ | _ | _ <;> simp
      rw [joinWith_cons (List.cons_ne_nil _ _),
        piecesFrom_append hr, piecesFrom_cons_of_none (afterChar_separator (.inl rfl)),
        ih fun r hr => h r (List.mem_cons_of_mem _ hr), List.modifyHead_cons, List.append_nil]

theorem joinWith_modifyHead {before : List Char} {rs : List (List Char)} (h : rs ≠ []) :
    joinWith [','] (rs.modifyHead (before ++ ·)) = before ++ joinWith [','] rs := by
  obtain ⟨r, rest, rfl⟩ := List.exists_cons_of_ne_nil h
  cases rest <;> simp [joinWith]

/-- Nothing is lost but the boundary. -/
theorem joinWith_glued (rs : List (List Char)) : joinWith [','] (glued rs) = joinWith [','] rs := by
  fun_induction glued rs with
  | case1 => rfl
  | case2 r => rfl
  | case3 r s rest _ ih =>
      have hcomma : (fun piece => r ++ ',' :: piece) = ((r ++ [',']) ++ ·) := by simp
      rw [hcomma, joinWith_modifyHead (glued_ne_nil _), ih, joinWith_cons (List.cons_ne_nil _ _),
        List.append_assoc]
      rfl
  | case4 r s rest _ ih =>
      rw [joinWith_cons (glued_ne_nil _), ih, joinWith_cons (List.cons_ne_nil _ _)]

theorem glued_eq_self {rs : List (List Char)} (hsome : rs ≠ [])
    (hcloses : ∀ r ∈ rs.dropLast, scan false r ≠ some true) :
    glued rs = rs := by
  fun_induction glued rs with
  | case1 => exact absurd rfl hsome
  | case2 r => rfl
  | case3 r s rest hdangles ih => exact absurd hdangles (hcloses r List.mem_cons_self)
  | case4 r s rest _ ih =>
      rw [ih (List.cons_ne_nil _ _) fun r hr => hcloses r (List.mem_cons_of_mem _ hr)]

/-! ## The same name -/

/-- Without the blanks around it, a relative name ends in a backslash that escapes nothing more. One
that ends where a separator stands does so just if it ends in an escaped blank. -/
def Dangles (rdn : List Char) : Prop := scan false (trim rdn) = some true

/-- There is a relative name, and only the last may dangle. -/
structure Apart (n : Name) : Prop where
  isThere : n.relativeNames ≠ []
  closed : ∀ rdn ∈ n.relativeNames.dropLast, ¬ Dangles rdn

variable {x y : Name}

theorem scan_of_mem_written {n : Name} {r : List Char} (h : r ∈ n.rdns.map (·.written)) :
    scan false r ≠ none := by
  rw [rdns, List.map_map] at h
  obtain ⟨rdn, hrdn, rfl⟩ := List.mem_map.1 h
  have hone := scan_of_mem_relativeNames hrdn
  exact (scan_written hone).symm ▸ scan_trim_ne_none hone

theorem Apart.glued_eq (h : x.Apart) :
    glued (x.rdns.map (·.written)) = x.rdns.map (·.written) := by
  rw [rdns, List.map_map]
  apply glued_eq_self
  · exact fun hnil => h.isThere (List.map_eq_nil_iff.1 hnil)
  · rw [← List.map_dropLast]
    refine List.forall_mem_map.2 fun rdn hrdn => ?_
    have hone := scan_of_mem_relativeNames ((List.dropLast_sublist _).subset hrdn)
    exact (scan_written hone).symm ▸ h.closed rdn hrdn

theorem apart_of_unescaped {n : Name} (hsome : n.relativeNames ≠ []) (h : '\\' ∉ n.raw.toList) :
    n.Apart where
  isThere := hsome
  closed rdn hrdn := by
    have hmem := mem_pieces_of_mem_relativeNames ((List.dropLast_sublist _).subset hrdn)
    rw [pieces_eq] at hmem
    exact scan_ne_true_of_unescaped fun hin =>
      h (subset_of_mem_piecesFrom hmem (mem_of_mem_trim hin))

theorem same_iff_glued :
    x.same y = true ↔ glued (x.rdns.map (·.written)) = glued (y.rdns.map (·.written)) := by
  rw [same_iff, canonical_eq, canonical_eq, String.ofList_inj]
  constructor
  · intro h
    rw [← pieces_joinWith fun _ => scan_of_mem_written, h,
      pieces_joinWith fun _ => scan_of_mem_written]
  · intro h
    rw [← joinWith_glued, h, joinWith_glued]

theorem map_written_inj (h : x.rdns.map (·.written) = y.rdns.map (·.written)) :
    x.rdns = y.rdns := by
  have hread (n : Name) : (n.rdns.map (·.written)).map Relative.read = n.rdns := by
    rw [rdns, List.map_map, List.map_map]
    exact List.map_congr_left fun rdn _ => read_written rdn
  rw [← hread x, h, hread y]

/-- **Names are the same just if their relative names are, as far as these stay apart.** What one
can tell from the canonical form are the relative names glued together where one dangles; so names
with the same relative names are the same anyway. -/
theorem same_iff_rdns_where_apart (x y : Name) :
    (x.rdns = y.rdns → x.same y = true) ∧
      (x.same y = true ↔ glued (x.rdns.map (·.written)) = glued (y.rdns.map (·.written))) ∧
      (x.Apart → y.Apart → (x.same y = true ↔ x.rdns = y.rdns)) := by
  have hsame : x.rdns = y.rdns → x.same y = true := fun h => same_iff_glued.2 (by rw [h])
  refine ⟨hsame, same_iff_glued, fun hx hy => ⟨fun h => ?_, hsame⟩⟩
  rw [same_iff_glued, hx.glued_eq, hy.glued_eq] at h
  exact map_written_inj h

-- no relative name, and one that is empty
example : (Name.mk "").same ⟨","⟩ = true ∧ (Name.mk "").rdns ≠ rdns ⟨","⟩ := by
  decide +kernel

end Name

namespace Specimen

/-- Two relative names. The value of the first ends in a blank. -/
def escapedBlank : Name := ⟨"CN=a\\ ,2.5.4.10=b"⟩

/-- One relative name. Its value has a comma in it. -/
def escapedComma : Name := ⟨"CN=a\\,2.5.4.10=b"⟩

/-- Without the blank the backslash escapes the comma, so two relative names are written like
one. -/
theorem escaped_blank_written_like_comma :
    escapedBlank.same escapedComma = true ∧ escapedBlank.rdns ≠ escapedComma.rdns := by
  decide +kernel

end Specimen
end SignatureTrust
