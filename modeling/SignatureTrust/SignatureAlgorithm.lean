import SignatureTrust.Digest
import SignatureTrust.Json

/-!
# `SignatureAlgorithm` — how an object says it is signed

RSA with PKCS #1 v1.5 padding over one of the four digests, or anything else, kept under the name it
was given. An unknown algorithm is not an error where it is read: it is one where something has to
be verified.
-/

set_option autoImplicit false

namespace SignatureTrust

inductive SignatureAlgorithm where
  | rsa (digest : DigestAlgorithm)
  | other (name : String)
deriving DecidableEq, Repr

namespace SignatureAlgorithm

def rsaOid : DigestAlgorithm → String
  | .sha1 => "1.2.840.113549.1.1.5"
  | .sha256 => "1.2.840.113549.1.1.11"
  | .sha384 => "1.2.840.113549.1.1.12"
  | .sha512 => "1.2.840.113549.1.1.13"

def rsaUri : DigestAlgorithm → String
  | .sha1 => "http://www.w3.org/2000/09/xmldsig#rsa-sha1"
  | .sha256 => "http://www.w3.org/2001/04/xmldsig-more#rsa-sha256"
  | .sha384 => "http://www.w3.org/2001/04/xmldsig-more#rsa-sha384"
  | .sha512 => "http://www.w3.org/2001/04/xmldsig-more#rsa-sha512"

def rsaTag : DigestAlgorithm → String
  | .sha1 => "RsaSha1"
  | .sha256 => "RsaSha256"
  | .sha384 => "RsaSha384"
  | .sha512 => "RsaSha512"

/-- The member of the RSA family with a name, or the name itself. -/
def named (family : DigestAlgorithm → String) (name : String) : SignatureAlgorithm :=
  match DigestAlgorithm.all.find? (family · == name) with
  | some d => .rsa d
  | none => .other name

/-- The algorithm of an object identifier; an unknown one keeps its trimmed text. -/
def ofOid (s : String) : SignatureAlgorithm := named rsaOid (Text.trimmed s)

def ofUri (s : String) : SignatureAlgorithm := named rsaUri (Text.trimmed s)

def ofTag (s : String) : SignatureAlgorithm := named rsaTag s

/-- The digest inside the scheme, where the scheme is known. -/
def digest? : SignatureAlgorithm → Option DigestAlgorithm
  | .rsa d => some d
  | .other _ => none

def toJson : SignatureAlgorithm → Json
  | .rsa d => .ofText (rsaTag d)
  | .other name => .ofMembers [("Other", .ofText name)]

end SignatureAlgorithm
end SignatureTrust
