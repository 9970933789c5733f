import SignatureTrust.Json
import SignatureTrust.Octets.Hex
import SignatureTrust.Structure.Check
import SignatureTrust.Text.Blank

/-!
# `Structure.Mask` — which structural checks run

A mask is 32 bits, of which the first eighteen stand for the checks in order. A bit without a check
selects nothing and is kept, so that a mask survives being written and read.

Its text is the names of its checks, joined by ` | `, and after them the remaining bits as one
hexadecimal number. Reading takes names and numbers in any order and repetition; blanks around them
do not count, and blank text is the empty mask.
-/

set_option autoImplicit false

namespace SignatureTrust.Structure

/-- A selection of checks. -/
structure Mask where
  bits : UInt32
deriving DecidableEq, Repr

namespace Mask

def empty : Mask := ⟨0⟩

def ofCheck (c : Check) : Mask := ⟨1 <<< UInt32.ofNat c.index⟩

def union (a b : Mask) : Mask := ⟨a.bits ||| b.bits⟩

def ofChecks (cs : List Check) : Mask := cs.foldl (fun m c => m.union (ofCheck c)) empty

/-- The mask that selects every check and has no other bit. -/
def all : Mask := ofChecks Check.all

def includes (a b : Mask) : Bool := a.bits &&& b.bits == b.bits

def selects (m : Mask) (c : Check) : Bool := m.includes (ofCheck c)

def checks (m : Mask) : List Check := Check.all.filter m.selects

/-! ## Text -/

/-- The bits that stand for no check. -/
def remainder (m : Mask) : UInt32 := m.bits &&& ~~~all.bits

def toText (m : Mask) : String :=
  let names := m.checks.map Check.flagName
  let rest := if m.remainder = 0 then [] else ["0x" ++ hexNumeral m.remainder.toNat]
  String.intercalate " | " (names ++ rest)

/-- A run of hexadecimal digits, after a plus sign or not, that fits 32 bits. -/
def hexBits? (cs : List Char) : Option Mask := do
  let digits := match cs with
    | '+' :: rest => rest
    | _ => cs
  if digits.isEmpty then none
  let values ← digits.mapM hexValue?
  let n := values.foldl (fun n v => n * 16 + v) 0
  if n < 1 <<< 32 then some ⟨UInt32.ofNat n⟩ else none

def ofPiece? (piece : List Char) : Option Mask :=
  match Text.trim piece with
  | '0' :: 'x' :: digits => hexBits? digits
  | name => (Check.all.find? fun c => c.flagName.toList == name).map ofCheck

def ofText? (s : String) : Option Mask :=
  let cs := Text.trim s.toList
  if cs.isEmpty then some empty
  else do
    let masks ← (Text.splitWhere (· == '|') cs).mapM ofPiece?
    return masks.foldl union empty

def toJson (m : Mask) : Json := .ofText m.toText

def ofJson? : Json → Option Mask
  | .string (some s) => ofText? s
  | _ => none

end Mask
end SignatureTrust.Structure
