import SignatureTrust.Asn1.Header

/-!
# `Asn1.Element` — tag, length, value

A whole certificate or CRL comes from whoever issued it, and is read **tolerantly**. A key or a list
of statements *inside* it is read under the **distinguished** rules. Serial numbers alone are read
under the **basic** rules, so a serial number, and nothing else, may be of open length
(`Asn1.Header` says what the three allow).

An element of open length holds elements, the last of which is the end-of-contents mark: no content,
and the tag number 0. Its content is what stands before the **last two octets**, which the mark is
when it is written as short as it can be.

An `Element` keeps its own encoding next to its content, since signatures are computed over
encodings and never over what was read out of them.
-/

set_option autoImplicit false

namespace SignatureTrust.Asn1

structure Element where
  tag : Tag
  content : Octets
  encoding : Octets
deriving Repr

/-! ## Contents -/

/-- Open lengths are nested at most this deep, the outermost included. -/
def maxNesting : Nat := 49

/-- What follows the mark that closes an element of open length, given what follows its header.
Elements of open length inside it have one level less. Each element takes at least two octets, so as
much `fuel` as there are octets is enough. -/
def afterMark? : Nat → Nat → Octets → Option Octets
  | _, 0, _ => none
  | 0, _ + 1, _ => none
  | levels + 1, fuel + 1, bs =>
      match readHeader? .basic bs with
      | none => none
      | some (⟨tag, .definite n⟩, rest) =>
          if n = 0 && tag.number = 0 then some rest
          else if rest.length < n then none
          else afterMark? (levels + 1) fuel (rest.drop n)
      | some (⟨_, .indefinite⟩, rest) =>
          match afterMark? levels fuel rest with
          | none => none
          | some rest => afterMark? (levels + 1) fuel rest

/-- The content of this length at the front of a byte string, and what follows the element. -/
def readContent? (bs : Octets) : ContentLength → Option (Octets × Octets)
  | .definite n => if bs.length < n then none else some (bs.take n, bs.drop n)
  | .indefinite =>
      (afterMark? maxNesting bs.length bs).map fun rest =>
        (bs.take (bs.length - rest.length - 2), rest)

def readElement? (rules : Rules) (bs : Octets) : Option (Element × Octets) := do
  let (header, rest) ← readHeader? rules bs
  let (content, rest) ← readContent? rest header.length
  return (⟨header.tag, content, bs.take (bs.length - rest.length)⟩, rest)

/-! ## Readers

A reader takes what it wants from the front of a byte string and leaves the rest. -/

/-- A reader of an `α`. -/
abbrev Reader (α : Type) := StateT Octets Option α

def refuse {α : Type} : Reader α := fun _ => none

def element (rules : Rules) : Reader Element := fun bs => readElement? rules bs

def tagged (rules : Rules) (tag : UInt8) : Reader Element := do
  let e ← element rules
  if e.tag.passesFor rules tag then return e else refuse

/-- The next element, which must have this tag tolerantly and be of primitive form. -/
def primitive (tag : UInt8) : Reader Element := do
  let e ← tagged .tolerant tag
  if e.tag.isConstructed then refuse else return e

/-- What the reader finds, if it finds it; otherwise nothing is taken. -/
def attempt {α : Type} (r : Reader α) : Reader (Option α) := fun bs =>
  match r bs with
  | some (a, rest) => some (some a, rest)
  | none => some (none, bs)

def atEnd : Reader Bool := fun bs => some (bs.isEmpty, bs)

def optionalElement (rules : Rules) : Reader (Option Element) := do
  if ← atEnd then return none else return some (← element rules)

/-- The header that comes next, or nothing where nothing is left. Takes nothing. -/
def nextHeader : Reader (Option Header) := fun bs =>
  if bs.isEmpty then some (none, bs)
  else (readHeader? .tolerant bs).map fun (header, _) => (some header, bs)

def nextNumber : Reader (Option Nat) := do
  return (← nextHeader).map (·.tag.number)

private def manyWithin {α : Type} (r : Reader α) : Nat → Octets → List α × Octets
  | 0, bs => ([], bs)
  | fuel + 1, bs =>
      match r bs with
      | none => ([], bs)
      | some (a, rest) =>
          let (more, rest) := manyWithin r fuel rest
          (a :: more, rest)

/-- As often as the reader succeeds. A reader here takes at least one octet when it succeeds, so it
cannot succeed more often than there are octets. -/
def many {α : Type} (r : Reader α) : Reader (List α) :=
  fun bs => some (manyWithin r bs.length bs)

/-- Reads content from its start; what the reader leaves is ignored. -/
def from? {α : Type} (r : Reader α) (content : Octets) : Option α := (r content).map (·.1)

/-- Reads content that the reader must use up. -/
def exactly? {α : Type} (r : Reader α) (content : Octets) : Option α :=
  match r content with
  | some (a, []) => some a
  | _ => none

def orRefuse {α : Type} : Option α → Reader α
  | some a => pure a
  | none => refuse

end SignatureTrust.Asn1
