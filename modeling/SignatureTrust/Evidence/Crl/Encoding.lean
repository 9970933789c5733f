import SignatureTrust.Evidence.Certificate.Encoding
import SignatureTrust.Evidence.Crl

/-!
# `Evidence.Crl.Encoding` — revocation lists from their encoding

As tolerant as for certificates. Version, next update and the list itself may be missing; where the
list is there, every line must be readable. Of the extensions only the first number counts, and a
number that is negative or not minimal is none. That extension is known by the octets of its
identifier, not by their text.
-/

set_option autoImplicit false

namespace SignatureTrust.Crl

open Asn1 Certificate

def crlNumberExtension : ObjectIdentifier := .ofArcs [2, 5, 29, 20]

/-- A line of the list; what follows serial and date is passed over. -/
def revokedEntry : Reader RevokedEntry := do
  let e ← tagged .tolerant sequence
  let read : Reader RevokedEntry := do
    let serial ← serialContent
    let date ← time
    return ⟨.ofOctets serial, date⟩
  orRefuse (from? read e.content)

def revokedEntries : Reader (List RevokedEntry) := do
  let e ← tagged .tolerant sequence
  orRefuse (exactly? (many revokedEntry) e.content)

def numberOf? (extensions : List Extension) : Option Serial := do
  let e ← extensions.find? (·.identifier == crlNumberExtension)
  let content ← from? (naturalContent .tolerant) e.value
  return .ofOctets content

def fields (encoding : Octets) (frame : Frame) : Reader Crl := do
  let _ ← attempt versionNumber
  let _ ← algorithmIdentifier
  let issuer ← directoryName
  let thisUpdate ← time
  let nextUpdate ← optionalTime
  let revoked ← attempt revokedEntries
  let extensions ← extensions 0
  return {
    encoding, issuer, thisUpdate, nextUpdate
    number := numberOf? extensions
    revoked := revoked.getD []
    signed := frame.signed }

def ofEncoding? (encoding : Octets) : Option Crl := do
  let frame ← readFrame? encoding
  from? (fields encoding frame) frame.part.content

end SignatureTrust.Crl
