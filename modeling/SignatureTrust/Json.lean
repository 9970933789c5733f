/-!
# `Json` — documents

The value a configuration is read from and a report is written as. Two decisions differ from the
usual tree.

An object is a **list** of members in the order they stand, with repetitions: whether a repeated
member is an error is for the reader of a particular object to say, and a report has a fixed order
of its own.

A number keeps the way it is written, since `1`, `1.0` and `-0` are different to a reader that wants
an unsigned integer. A string is `none` when its escapes leave a surrogate unpaired: such a string
is well-formed JSON and denotes no text, which matters only to a reader that wants to know what it
says.
-/

set_option autoImplicit false

namespace SignatureTrust

/-- A number as it is written: sign, whole part, the digits after the point, and the exponent. -/
structure Numeral where
  negative : Bool
  whole : Nat
  fraction : List Char
  exponent : Option Int
deriving DecidableEq, Repr

inductive Json where
  | null
  | bool (b : Bool)
  | number (n : Numeral)
  | string (s : Option String)
  | array (items : List Json)
  | object (members : List (Option String × Json))
deriving Repr, Inhabited

namespace Numeral

def ofNat (n : Nat) : Numeral := ⟨false, n, [], none⟩

def ofInt (n : Int) : Numeral := ⟨decide (n < 0), n.natAbs, [], none⟩

/-- The value of a literal that is an unsigned integer: no sign, fraction or exponent. -/
def natural? (n : Numeral) : Option Nat :=
  if n.negative || !n.fraction.isEmpty || n.exponent.isSome then none else some n.whole

def integer? (n : Numeral) : Option Int :=
  if !n.fraction.isEmpty || n.exponent.isSome then none
  else some (if n.negative then -(n.whole : Int) else n.whole)

end Numeral

namespace Json

/-! ## Making documents -/

def ofText (s : String) : Json := .string (some s)

def ofNat (n : Nat) : Json := .number (.ofNat n)

def ofInt (n : Int) : Json := .number (.ofInt n)

def ofOption {α : Type} (f : α → Json) : Option α → Json
  | none => .null
  | some a => f a

def ofList {α : Type} (f : α → Json) (xs : List α) : Json := .array (xs.map f)

def ofMembers (members : List (String × Json)) : Json :=
  .object (members.map fun (k, v) => (some k, v))

/-! ## Looking into documents -/

/-- The value of the first member with a name; `null` counts as absent. -/
def member? (j : Json) (name : String) : Option Json :=
  match j with
  | .object members =>
      match members.lookup (some name) with
      | some .null => none
      | found => found
  | _ => none

def text? : Json → Option String
  | .string s => s
  | _ => none

def integer? : Json → Option Int
  | .number n => n.integer?
  | _ => none

def natural? : Json → Option Nat
  | .number n => n.natural?
  | _ => none

def bool? : Json → Option Bool
  | .bool b => some b
  | _ => none

def items? : Json → Option (List Json)
  | .array items => some items
  | _ => none

def isNull : Json → Bool
  | .null => true
  | _ => false

end Json
end SignatureTrust
