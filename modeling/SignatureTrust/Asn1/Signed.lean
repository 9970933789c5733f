import SignatureTrust.Asn1.ObjectIdentifier
import SignatureTrust.Asn1.PublicKey
import SignatureTrust.SignedContent

/-!
# `Asn1.Signed` — the frame of a certificate or CRL

Both are a sequence of three: the part that is signed, the algorithm, and the signature as a bit
string. Both end their signed part with extensions. What follows the three, or follows the sequence,
is ignored; extensions are either all there is or all readable.
-/

set_option autoImplicit false

namespace SignatureTrust.Asn1

/-- The identifier of the next AlgorithmIdentifier. Its parameters are passed over, but where there
are any, the first must be an element. -/
def algorithmIdentifier : Reader ObjectIdentifier := do
  let e ← tagged .tolerant sequence
  let read : Reader ObjectIdentifier := do
    let id ← identifier
    let _ ← optionalElement .tolerant
    return id
  orRefuse (from? read e.content)

def unusedBitsAreZero (unused last : UInt8) : Bool :=
  if last = 0 then unused ≤ 8 else last.toNat % (1 <<< unused.toNat) = 0

/-- The octets in the content of a bit string, without the count of unused bits in front. -/
def bitsOf? : Octets → Option Octets
  | [] => none
  | unused :: bits =>
      match bits.getLast? with
      | none => if unused = 0 then some [] else none
      | some last => if unusedBitsAreZero unused last then some bits else none

def bitStringOctets : Reader Octets := do
  orRefuse (bitsOf? (← primitive bitString).content)

/-- The three parts of a signed object. -/
structure Frame where
  part : Element
  algorithm : SignatureAlgorithm
  signature : Octets

/-- What the signature is over is the whole encoding of the first part. -/
def Frame.signed (f : Frame) : SignedContent := ⟨f.part.encoding, f.algorithm, f.signature⟩

def readFrame? (encoding : Octets) : Option Frame := do
  let whole ← from? (tagged .tolerant sequence) encoding
  from? (do
    let part ← tagged .tolerant sequence
    let algorithm ← algorithmIdentifier
    let signature ← bitStringOctets
    return ⟨part, .ofOid algorithm.text, signature⟩) whole.content

/-! ## Extensions -/

structure Extension where
  identifier : ObjectIdentifier
  value : Octets

/-- The mark of a critical extension, in any of its encodings. -/
def criticality : Reader Unit := do
  let e ← tagged .tolerant boolean
  if e.content.length = 1 then return () else refuse

def extension : Reader Extension := do
  let e ← tagged .tolerant sequence
  let read : Reader Extension := do
    let id ← identifier
    let _ ← attempt criticality
    let value ← primitive octetString
    return ⟨id, value.content⟩
  orRefuse (from? read e.content)

/-- Everything that is left: either nothing, or the header of a tag number and one sequence of
extensions. The length in that header is not compared with what follows it. -/
def extensions (tagNumber : Nat) : Reader (List Extension) := do
  if ← atEnd then return []
  let header ← readHeader? .tolerant
  if header.tag.number ≠ tagNumber then refuse
  let list ← tagged .tolerant sequence
  if !(← atEnd) then refuse
  orRefuse (exactly? (many extension) list.content)

end SignatureTrust.Asn1
