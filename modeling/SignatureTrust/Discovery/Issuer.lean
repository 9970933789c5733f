import SignatureTrust.Config
import SignatureTrust.Evidence.Token
import SignatureTrust.Source.Revocation

/-!
# `Discovery.Issuer` — who signed this token

Candidates are certificates with the signer's name, from the trusted list, then from the token
itself, then from outside. A candidate is an issuer only if it was valid at the date, if its service
was supervised then (unless that does not count), and if its key made the token's signature. What is
left after these filters may still be more than one, and then the policy takes its choice; the order
above decides what "first" means.
-/

set_option autoImplicit false

namespace SignatureTrust

/-- Where evidence is looked for, and the cryptography it is checked with. -/
structure Sources where
  crypto : Crypto
  trustedList : Option CertificateSource := none
  external : Option CertificateSource := none
  crl : Option CrlSource := none
  ocsp : Option OcspSource := none

namespace Sources

/-- Everything that has a name, in order of preference. -/
def candidates (sources : Sources) (t : Token) (name : Name) : List Entry :=
  (match sources.trustedList with
    | some source => source name
    | none => []) ++
  t.embedded.bySubject name ++
  (match sources.external with
    | some source => source name
    | none => [])

def accepts (sources : Sources) (config : Config) (date : Instant) (t : Token) (e : Entry) : Bool :=
  e.certificate.isValidAt date &&
    (!config.checkServiceWindow || e.serviceActiveAt date) &&
    t.isSignedBy sources.crypto e.certificate

def issuers (sources : Sources) (config : Config) (date : Instant) (t : Token) : List Entry :=
  match t.signerName? with
  | some name => (sources.candidates t name).filter (sources.accepts config date t)
  | none => []

def issuer? (sources : Sources) (config : Config) (date : Instant) (t : Token) : Option Entry :=
  config.issuerPolicy.select (sources.issuers config date t)

end Sources
end SignatureTrust
