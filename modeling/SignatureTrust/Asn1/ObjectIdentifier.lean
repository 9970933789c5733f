import SignatureTrust.Asn1.Element
import SignatureTrust.Octets.Hex
import SignatureTrust.Text.Blank
import SignatureTrust.Text.Decimal

/-!
# `Asn1.ObjectIdentifier` — arcs and dotted text

An object identifier is **the octets of its content**: two identifiers are the same when those are.
It also has a dotted text, and two of them may share one, since an arc may be written longer than it
has to be. The rest of the library asks for the text where the identifier names an algorithm or a
list of statements, and for the identifier itself where it is one of a list that is known.

The first octet holds two arcs, forty second arcs to a first one; every later arc is a run of
octets, seven bits each, that ends where a high bit is clear. Arcs are words of fixed size: the bits
that do not fit are lost.

Tolerantly, the content of any primitive element is an identifier, whatever its tag. Its arcs are
64-bit words and a last run may be cut off; content with a finished run of more than 64 bits is
shown as its octets. Under the distinguished rules the arcs are 32-bit words, and content that is no
identifier is refused.
-/

set_option autoImplicit false

namespace SignatureTrust.Asn1

open Text (decimal joinWith)

/-- An object identifier, as the octets that encode it. -/
structure ObjectIdentifier where
  content : Octets
deriving DecidableEq, Repr

/-! ## Arcs -/

/-- The runs of octets that each hold one arc. The last one may be cut off. -/
def arcRuns : Octets → List Octets
  | [] => []
  | b :: rest =>
      if b < 0x80 then [b] :: arcRuns rest
      else match arcRuns rest with
        | [] => [[b]]
        | run :: runs => (b :: run) :: runs

/-- Whether a run ends with a clear high bit. -/
def isFinished (run : Octets) : Bool := run.getLast?.any (· < 0x80)

/-- The arc in a run, as a word of `bits` bits. -/
def arcValue (bits : Nat) (run : Octets) : Nat :=
  run.foldl (fun n b => (n * 128 + (b &&& 0x7F).toNat) % (1 <<< bits)) 0

/-- Octets of seven bits in front of octets already there, all with the high bit set. -/
def arcOnto (n : Nat) (tail : Octets) : Octets :=
  if h : n = 0 then tail else arcOnto (n / 128) (UInt8.ofNat (128 + n % 128) :: tail)
termination_by n
decreasing_by exact Nat.div_lt_self (Nat.pos_of_ne_zero h) (by decide)

def arcRun (n : Nat) : Octets := arcOnto (n / 128) [UInt8.ofNat (n % 128)]

namespace ObjectIdentifier

def ofArcs : List Nat → ObjectIdentifier
  | a :: b :: later => ⟨UInt8.ofNat (40 * a + b) :: later.flatMap arcRun⟩
  | _ => ⟨[]⟩

/-- The arcs, with later ones as words of `bits` bits. A first octet of zero that stands alone is
one arc. -/
def arcs (bits : Nat) (i : ObjectIdentifier) : List Nat :=
  match i.content with
  | [] => []
  | [0] => [0]
  | first :: later =>
      first.toNat / 40 :: first.toNat % 40 :: (arcRuns later).map (arcValue bits)

def dotted (arcs : List Nat) : String :=
  String.ofList (joinWith ['.'] (arcs.map decimal))

def fitsWords (i : ObjectIdentifier) : Bool :=
  (arcRuns i.content.tail).all fun run => !isFinished run || 7 * run.length ≤ 64

def text (i : ObjectIdentifier) : String :=
  if i.fitsWords then dotted (i.arcs 64)
  else String.intercalate " " (i.content.map fun b => Octets.toHex [b])

def strictText (i : ObjectIdentifier) : String := dotted (i.arcs 32)

/-- Whether a run is an arc under the distinguished rules: up to four octets, or five where the last
one is below `0x10`. -/
def isStrictRun (run : Octets) : Bool :=
  isFinished run && (run.length ≤ 4 || (run.length == 5 && run.getLast?.any (· < 0x10)))

/-- Whether the distinguished rules accept an identifier: three to 39 octets, a first arc up to 2,
no arc cut off. -/
def isStrict (i : ObjectIdentifier) : Bool :=
  3 ≤ i.content.length && i.content.length ≤ 39 && i.content.head?.any (· < 120) &&
    (arcRuns i.content.tail).all isStrictRun

end ObjectIdentifier

/-! ## Readers -/

/-- The next element, as an identifier: its tag is not asked for, only its form. -/
def identifier : Reader ObjectIdentifier := do
  let e ← element .tolerant
  if e.tag.isConstructed then refuse else return ⟨e.content⟩

def strictIdentifier : Reader ObjectIdentifier := do
  let i : ObjectIdentifier := ⟨(← tagged .distinguished objectIdentifier).content⟩
  if i.isStrict then return i else refuse

end SignatureTrust.Asn1
