import SignatureTrust.Evidence.Certificate

/-!
# `Evidence.Crl` — revocation lists

A list speaks for the certificates of its issuer. A certificate that is not on it is not revoked as
far as the list knows, so the whole answer is whether and since when a serial is listed
(`Crl.find?`).
-/

set_option autoImplicit false

namespace SignatureTrust

structure RevokedEntry where
  serial : Serial
  date : Instant
deriving DecidableEq, Repr

structure Crl where
  encoding : Octets
  issuer : Name
  number : Option Serial
  thisUpdate : Instant
  nextUpdate : Option Instant
  revoked : List RevokedEntry
  signed : SignedContent
deriving DecidableEq, Repr

namespace Crl

def sameEncoding (a b : Crl) : Bool := a.encoding == b.encoding

def find? (crl : Crl) (serial : Serial) : Option RevokedEntry :=
  crl.revoked.find? fun entry => entry.serial = serial

end Crl
end SignatureTrust
