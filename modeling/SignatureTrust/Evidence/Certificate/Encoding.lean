import SignatureTrust.Asn1.DirectoryName
import SignatureTrust.Asn1.Signed
import SignatureTrust.Asn1.Time
import SignatureTrust.Evidence.Certificate

/-!
# `Evidence.Certificate.Encoding` — certificates from their encoding

The frame is read tolerantly, since a certificate is what its issuer made of it: any version, a
serial that is not minimal, is negative or has an open length, a key of any algorithm. Names and
dates must be readable. The statements of a qualified certificate are held to the distinguished
rules, and where an extension breaks them it states nothing.

What is optional is recognised by the tag number of what comes next. Version and unique identifiers
are then held to the class of their tag, so an element that only shares the number is refused and
not passed over.
-/

set_option autoImplicit false

namespace SignatureTrust.Certificate

open Asn1

/-- A version, an INTEGER of at most 32 bits. Other numbers may be of constructed form, a version
may not. -/
def versionNumber : Reader Unit := do
  let content := (← primitive integer).content
  if isNaturalContent content && Octets.value content < 1 <<< 32 then return () else refuse

def version : Reader Unit := do
  if (← nextNumber) = some 0 then
    let e ← element .tolerant
    if !e.tag.isContextSpecific then refuse
    orRefuse (from? versionNumber e.content)

def serialContent : Reader Octets := do
  return (← tagged .basic integer).content

def validity : Reader (Instant × Instant) := do
  let e ← tagged .tolerant sequence
  let read : Reader (Instant × Instant) := do
    let start ← time
    let stop ← time
    return (start, stop)
  orRefuse (from? read e.content)

/-- The encoding of a SubjectPublicKeyInfo up to the end of its bit string. -/
def publicKeyEncoding : Reader Octets := do
  let e ← tagged .tolerant sequence
  let leftOver : Reader Nat := do
    let _ ← algorithmIdentifier
    let _ ← bitStringOctets
    return (← get).length
  let left ← orRefuse (from? leftOver e.content)
  return e.encoding.take (e.encoding.length - left)

/-- A unique identifier of issuer or subject, where there is one. It means nothing here, so its form
and its bits are left alone: there only has to be the octet that counts the unused ones. -/
def uniqueIdentifier (tagNumber : Nat) : Reader Unit := do
  if (← nextNumber) = some tagNumber then
    let e ← element .tolerant
    if !e.tag.isContextSpecific || e.content.isEmpty then refuse

/-! ## Statements of a qualified certificate -/

def qcStatementsExtension : String := "1.3.6.1.5.5.7.1.3"

/-- One statement: an identifier and at most one element of information. -/
def qcStatement : Reader String := do
  let e ← tagged .distinguished sequence
  let read : Reader String := do
    let id ← strictIdentifier
    let _ ← optionalElement .distinguished
    return id.strictText
  orRefuse (exactly? read e.content)

/-- The statements of an extension's value; a value that is not exactly a list of statements has
none. -/
def readQcStatements (value : Octets) : List String :=
  match exactly? (tagged .distinguished sequence) value with
  | none => []
  | some e => (exactly? (many qcStatement) e.content).getD []

/-! ## The certificate -/

def fields (encoding : Octets) (frame : Frame) : Reader Certificate := do
  version
  let serial ← serialContent
  let _ ← algorithmIdentifier
  let issuer ← directoryName
  let (notBefore, notAfter) ← validity
  let subject ← directoryName
  let publicKey ← publicKeyEncoding
  uniqueIdentifier 1
  uniqueIdentifier 2
  let extensions ← extensions 3
  let statements :=
    (extensions.filter (·.identifier.text == qcStatementsExtension)).flatMap fun e =>
    readQcStatements e.value
  return {
    encoding, subject, issuer, notBefore, notAfter, publicKey,
    serial := .ofOctets serial
    signed := frame.signed
    qcStatements := statements }

/-- The certificate at the front of an encoding, which it keeps whole. -/
def ofEncoding? (encoding : Octets) : Option Certificate := do
  let frame ← readFrame? encoding
  from? (fields encoding frame) frame.part.content

end SignatureTrust.Certificate
