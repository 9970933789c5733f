import SignatureTrust.Text.Blank
import SignatureTrust.Text.CaseMapping

/-!
# `Name` — distinguished names in their text form

A name is the text it was given as: relative names (RDNs) separated by commas or semicolons, each a
type and a value around the first equals sign. **Two names are the same when their canonical forms
are** (`Name.same`): types in upper case, values in lower case with every run of blanks as one
space, the order kept. Nothing is unescaped — a backslash only keeps the next character from
separating — and nothing is resolved, so `CN` and its object identifier are different types.

A trailing separator ends the last relative name and starts none (`Name.relativeNames`); two
separators in a row have an empty one between them.
-/

set_option autoImplicit false

namespace SignatureTrust

structure Name where
  raw : String
deriving DecidableEq, Repr, Inhabited

namespace Name

open Text

private def onFirst (f : List Char → List Char) : List (List Char) → List (List Char)
  | [] => [f []]
  | piece :: rest => f piece :: rest

/-- The pieces between separators that no backslash precedes. -/
def pieces : List Char → List (List Char)
  | [] => [[]]
  | '\\' :: c :: cs => onFirst ('\\' :: c :: ·) (pieces cs)
  | c :: cs => if c = ',' ∨ c = ';' then [] :: pieces cs else onFirst (c :: ·) (pieces cs)

theorem pieces_ne_nil (cs : List Char) : pieces cs ≠ [] := by
  fun_induction pieces cs <;> simp [onFirst] <;> split <;> simp

private theorem onFirst_pieces (f : List Char → List Char) (cs : List Char) :
    onFirst f (pieces cs) = (pieces cs).modifyHead f := by
  cases h : pieces cs with
  | nil => exact absurd h (pieces_ne_nil cs)
  | cons piece rest => rfl

theorem pieces_escaped {c : Char} {cs : List Char} :
    pieces ('\\' :: c :: cs) = (pieces cs).modifyHead ('\\' :: c :: ·) := onFirst_pieces _ cs

theorem pieces_separator {c : Char} {cs : List Char} (h : c = ',' ∨ c = ';') :
    pieces (c :: cs) = [] :: pieces cs := by
  rcases h with rfl | rfl <;> rfl

theorem pieces_plain {c : Char} {cs : List Char} (hseparates : ¬ (c = ',' ∨ c = ';'))
    (hescapes : c ≠ '\\') :
    pieces (c :: cs) = (pieces cs).modifyHead (c :: ·) := by
  rw [pieces, if_neg hseparates, onFirst_pieces]
  exact fun _ _ h => absurd h hescapes

/-- The pieces of a text, without the last one when it is blank. -/
def relativeNamesOf (cs : List Char) : List (List Char) :=
  let all := pieces cs
  match all.getLast? with
  | some last => if (trim last).isEmpty then all.dropLast else all
  | none => all

def relativeNames (n : Name) : List (List Char) := relativeNamesOf n.raw.toList

def canonicalRelative (rdn : List Char) : List Char :=
  match splitAtFirst? '=' rdn with
  | some (type, value) => upper (trim type) ++ '=' :: lower (joinWith [' '] (words value))
  | none => lower (trim rdn)

def canonical (n : Name) : String :=
  String.ofList (joinWith [','] (n.relativeNames.map canonicalRelative))

def same (a b : Name) : Bool := a.canonical == b.canonical

/-- The value of the first attribute of a type, blanks around it aside. Types are compared in any
ASCII case. -/
def attribute? (n : Name) (type : String) : Option String :=
  n.relativeNames.findSome? fun rdn =>
    match splitAtFirst? '=' rdn with
    | some (t, value) =>
        if (trim t).map Char.toLower == type.toList.map Char.toLower
        then some (String.ofList (trim value)) else none
    | none => none

def commonName? (n : Name) : Option String := n.attribute? "CN"

theorem same_refl (n : Name) : n.same n = true := by simp [same]

theorem same_iff {a b : Name} : a.same b = true ↔ a.canonical = b.canonical := by simp [same]

theorem same_comm (a b : Name) : a.same b = b.same a := Bool.beq_comm

theorem same_trans {a b c : Name} (h : a.same b = true) (k : b.same c = true) :
    a.same c = true := by
  rw [same_iff] at *
  exact h.trans k

end Name
end SignatureTrust
