import SignatureTrust.Digest.Sha1
import SignatureTrust.Digest.Sha2
import SignatureTrust.Text.Blank

/-!
# `Digest` — the digest algorithms a reference may name

Four algorithms, each with the two names it goes by: a URI where a signature is written in XML, a
dotted object identifier inside timestamp tokens. Both registries are read by **exact text after
trimming**, so an algorithm that is spelled in another case is an unknown one.
-/

set_option autoImplicit false

namespace SignatureTrust

inductive DigestAlgorithm where
  | sha1
  | sha256
  | sha384
  | sha512
deriving DecidableEq, Repr

namespace DigestAlgorithm

/-- Every algorithm, weakest first. -/
def all : List DigestAlgorithm := [.sha1, .sha256, .sha384, .sha512]

def oid : DigestAlgorithm → String
  | .sha1 => "1.3.14.3.2.26"
  | .sha256 => "2.16.840.1.101.3.4.2.1"
  | .sha384 => "2.16.840.1.101.3.4.2.2"
  | .sha512 => "2.16.840.1.101.3.4.2.3"

def uri : DigestAlgorithm → String
  | .sha1 => "http://www.w3.org/2000/09/xmldsig#sha1"
  | .sha256 => "http://www.w3.org/2001/04/xmlenc#sha256"
  | .sha384 => "http://www.w3.org/2001/04/xmldsig-more#sha384"
  | .sha512 => "http://www.w3.org/2001/04/xmlenc#sha512"

/-- The name shown in messages. -/
def label : DigestAlgorithm → String
  | .sha1 => "SHA-1"
  | .sha256 => "SHA-256"
  | .sha384 => "SHA-384"
  | .sha512 => "SHA-512"

/-- The name written in documents. -/
def tag : DigestAlgorithm → String
  | .sha1 => "Sha1"
  | .sha256 => "Sha256"
  | .sha384 => "Sha384"
  | .sha512 => "Sha512"

/-- The algorithm a URI names, blanks around it aside. -/
def ofUri? (s : String) : Option DigestAlgorithm := all.find? (·.uri == Text.trimmed s)

def ofOid? (s : String) : Option DigestAlgorithm := all.find? (·.oid == Text.trimmed s)

def ofTag? (s : String) : Option DigestAlgorithm := all.find? (·.tag == s)

def digest : DigestAlgorithm → Octets → Octets
  | .sha1 => Digest.sha1
  | .sha256 => Digest.sha256
  | .sha384 => Digest.sha384
  | .sha512 => Digest.sha512

end DigestAlgorithm
end SignatureTrust
