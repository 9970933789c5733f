import SignatureTrust.Evidence.TimestampToken
import SignatureTrust.Signature.EvidenceRef

/-!
# `Signature.Element` — the elements of a signature

What a check may look at, read out of the XML already: every element with its identifier, and with
its canonical octets where a timestamp may be over them. References between elements are URIs, of
which only those within the document matter: a number sign and an identifier.
-/

set_option autoImplicit false

namespace SignatureTrust

/-- A URI without the number sign that a reference within the document starts with. -/
def fragment (uri : String) : String :=
  match uri.toList with
  | '#' :: rest => String.ofList rest
  | _ => uri

structure DataReference where
  id : Option String
  uri : String
  type : Option String
  digest : DigestValue
  data : Octets
deriving DecidableEq, Repr

namespace DataReference

def signedPropertiesType : String := "http://uri.etsi.org/01903#SignedProperties"

def countersignedType : String := "http://uri.etsi.org/01903#CountersignedSignature"

/-- The identifier of the element, for a reference within the document. -/
def target? (r : DataReference) : Option String :=
  match r.uri.toList with
  | '#' :: rest => some (String.ofList rest)
  | _ => none

def isSignedProperties (r : DataReference) : Bool := r.type == some signedPropertiesType

end DataReference

/-- What the signature value is over. -/
structure SignedInfo where
  id : Option String
  method : String
  canonical : Octets
deriving DecidableEq, Repr

structure SignatureValue where
  id : Option String
  value : Octets
  canonical : Octets
deriving DecidableEq, Repr

structure KeyInfo where
  id : Option String
  certificates : List Certificate
  canonical : Octets
deriving DecidableEq, Repr

/-! ## Signed properties -/

inductive Policy where
  | implied
  | explicit (identifier : String) (digest : DigestValue) (description : Option String)
deriving DecidableEq, Repr

structure SignerRole where
  claimed : List String
  certified : List Octets
deriving DecidableEq, Repr

/-- What the signer commits to, for some objects or for all. -/
structure Commitment where
  type : String
  objects : List String
  allObjects : Bool
deriving DecidableEq, Repr

/-- A timestamp in a signature: the token and the elements it says it is over. -/
structure TimestampElement where
  id : Option String
  includes : List String
  token : TimestampToken
deriving DecidableEq, Repr

namespace TimestampElement

def includeUri (id : String) : String := "#" ++ fragment id

def includedIds (t : TimestampElement) : List String := t.includes.map fragment

end TimestampElement

structure SignedProperties where
  id : Option String
  signingTime : Option Instant
  signingCertificate : List CertificateRef
  policy : Option Policy
  signerRole : Option SignerRole
  commitments : List Commitment
  -- the references of data formats
  dataFormats : List String
  allDataTimestamps : List TimestampElement
  individualDataTimestamps : List TimestampElement
deriving DecidableEq, Repr

/-! ## Unsigned properties -/

structure CertificateRefs where
  id : Option String
  refs : List CertificateRef
  canonical : Octets
deriving DecidableEq, Repr

structure RevocationRefs where
  id : Option String
  crls : List CrlRef
  ocsps : List OcspRef
  canonical : Octets
deriving DecidableEq, Repr

structure CertificateValues where
  id : Option String
  certificates : List Certificate
  canonical : Octets
deriving DecidableEq, Repr

structure RevocationValues where
  id : Option String
  crls : List Crl
  ocsps : List OcspResponse
  canonical : Octets
deriving DecidableEq, Repr

def RevocationRefs.isEmpty (r : RevocationRefs) : Bool := r.crls.isEmpty && r.ocsps.isEmpty

def RevocationValues.isEmpty (v : RevocationValues) : Bool := v.crls.isEmpty && v.ocsps.isEmpty

end SignatureTrust
