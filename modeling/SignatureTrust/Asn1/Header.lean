import SignatureTrust.Octets.Numeral

/-!
# `Asn1.Header` — what stands in front of a content

A header is a tag and a length, and three sets of encoding rules say which headers there are.

* **Distinguished**: a value has one encoding. Lengths are minimal and take at most four further
  octets, and only the tags that the rules name are tags.
* **Tolerant**: any tag is a tag, and a length may be longer than it has to be.
* **Basic**: tolerant, and the length of a constructed element may be left open, until an
  end-of-contents mark.

Each rule set answers for itself what it is to *have* a tag (`Tag.passesFor`). The distinguished
rules compare the whole octet. The other two compare the tag number and nothing else: class and form
are read and then not asked for, unless a reader asks for them.

A tag number is a 32-bit word. Seven bits arrive with each further octet and push out the high ones,
so a long number counts modulo 2^32, and five further octets are the most there may be.
-/

set_option autoImplicit false

namespace SignatureTrust.Asn1

inductive Rules where
  | basic
  | tolerant
  | distinguished
deriving DecidableEq, Repr

/-! ## Tags -/

/-- A tag: its first octet, which holds class and form, and its number, which may take further
octets. -/
structure Tag where
  leading : UInt8
  number : Nat
deriving DecidableEq, Repr

def boolean : UInt8 := 0x01
def integer : UInt8 := 0x02
def bitString : UInt8 := 0x03
def octetString : UInt8 := 0x04
def null : UInt8 := 0x05
def objectIdentifier : UInt8 := 0x06
def sequence : UInt8 := 0x30
def set : UInt8 := 0x31

/-- Tag numbers of the string and time types, which are recognised by number alone. -/
def objectDescriptor : Nat := 7
def utf8String : Nat := 12
def numericString : Nat := 18
def printableString : Nat := 19
def teletexString : Nat := 20
def videotexString : Nat := 21
def ia5String : Nat := 22
def utcTime : Nat := 23
def generalizedTime : Nat := 24
def graphicString : Nat := 25
def visibleString : Nat := 26
def generalString : Nat := 27
def bmpString : Nat := 30

namespace Tag

/-- The tag that one octet is, when its number is not of the long form. -/
def ofOctet (b : UInt8) : Tag := ⟨b, (b &&& 0x1F).toNat⟩

def isConstructed (t : Tag) : Bool := t.leading &&& 0x20 != 0

def isContextSpecific (t : Tag) : Bool := t.leading &&& 0xC0 == 0x80

def passesFor (rules : Rules) (wanted : UInt8) (t : Tag) : Bool :=
  match rules with
  | .distinguished => t.leading == wanted
  | .basic | .tolerant => t.number == (ofOctet wanted).number

end Tag

/-- Universal tags that the distinguished rules know. The two containers are constructed, the rest
are not. -/
def distinguishedTags : List UInt8 :=
  [boolean, integer, bitString, octetString, null, objectIdentifier, 0x09, 0x0A, 0x0C, 0x12, 0x13,
    0x14, 0x15, 0x16, 0x17, 0x18, 0x1A, 0x1E, sequence, set]

def isDistinguishedTag (b : UInt8) : Bool :=
  b &&& 0x1F != 0x1F && (b ≥ 0x40 || distinguishedTags.contains b)

/-- The further octets of a tag number, seven bits each, at most `room` of them. -/
def readTagNumber? : Nat → Nat → Octets → Option (Nat × Octets)
  | 0, _, _ => none
  | _ + 1, _, [] => none
  | room + 1, n, b :: rest =>
      let n := (n * 128 + (b &&& 0x7F).toNat) % (1 <<< 32)
      if b &&& 0x80 = 0 then some (n, rest) else readTagNumber? room n rest

def readTag? (rules : Rules) : Octets → Option (Tag × Octets)
  | [] => none
  | b :: rest =>
      match rules with
      | .distinguished => if isDistinguishedTag b then some (.ofOctet b, rest) else none
      | .basic | .tolerant =>
          if b &&& 0x1F = 0x1F then
            (readTagNumber? 5 0 rest).map fun (n, rest) => (⟨b, n⟩, rest)
          else some (.ofOctet b, rest)

/-! ## Lengths -/

/-- How long a content is: so many octets, or as far as its end-of-contents mark. -/
inductive ContentLength where
  | definite (octets : Nat)
  | indefinite
deriving DecidableEq, Repr

namespace ContentLength

/-- Whether a length is known and takes at most 32 bits. -/
def fitsWord : ContentLength → Bool
  | .definite n => n < 1 <<< 32
  | .indefinite => false

end ContentLength

/-- How many octets follow the first one of the shortest encoding of a length. -/
def lengthOctets (n : Nat) : Nat := if n < 128 then 0 else (Octets.ofNat n).length

def allowsLength (rules : Rules) (count length : Nat) : Bool :=
  match rules with
  | .distinguished => count ≤ 4 && lengthOctets length == count
  | .basic | .tolerant => count ≠ 127 && length < 1 <<< 64

def readLength? (rules : Rules) (constructed : Bool) : Octets → Option (ContentLength × Octets)
  | [] => none
  | b :: rest =>
      if b < 0x80 then some (.definite b.toNat, rest)
      else if b = 0x80 then
        if rules = .basic && constructed then some (.indefinite, rest) else none
      else
        let count := b.toNat - 0x80
        let length := Octets.value (rest.take count)
        if rest.length < count || !allowsLength rules count length then none
        else some (.definite length, rest.drop count)

/-! ## Headers -/

structure Header where
  tag : Tag
  length : ContentLength
deriving DecidableEq, Repr

def readHeader? (rules : Rules) (bs : Octets) : Option (Header × Octets) := do
  let (tag, rest) ← readTag? rules bs
  let (length, rest) ← readLength? rules tag.isConstructed rest
  return (⟨tag, length⟩, rest)

end SignatureTrust.Asn1
