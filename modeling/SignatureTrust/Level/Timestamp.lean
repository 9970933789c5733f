import SignatureTrust.Discovery.Ancestry
import SignatureTrust.Instant.Rfc3339
import SignatureTrust.Signature.Element
import SignatureTrust.Verdict

/-!
# `Level.Timestamp` — verdicts on timestamps

A timestamp vouches for data only if its imprint is the digest of the data; and it vouches for a
*time* only if somebody trusted made it. The second question is a discovery of its own, for the
token itself, and may be switched off. A digest algorithm that is not known leaves a timestamp
undetermined, a wrong imprint makes it invalid.
-/

set_option autoImplicit false

namespace SignatureTrust

/-- How timestamps are verified: with the signer's trust or, without sources, by their imprint
alone. -/
structure TimestampVerifier where
  crypto : Crypto
  date : Instant
  signerCheck : Option (Sources × Config)

namespace TimestampVerifier

/-- What a context gathered for a timestamp says against its signer, if anything: the timestamp's
issuer was not found, a certificate of the chain is revoked or unresolved, or no certificate of the
chain is trusted. -/
def signerObjection? (name : String) (context : Context) : Option Verdict :=
  let undetermined (message : String) :=
    some (Verdict.undetermined .timestampSignerUnverified (name ++ message))
  let settled (r : Option Resolution) := r.any fun r => !r.isUnresolved
  if !settled (context.resolutionAt? Context.target) then
    undetermined ": TSA certificate could not be established"
  else
    let chain := context.chain
    let inChain := chain.findSome? fun e =>
      let resolution := context.resolutionOf? (.certificate e.certificate)
      let subject := e.certificate.subject.raw
      if resolution.any (·.isRevoked) then
        some (Verdict.invalid .timestampSignerUnverified
          (name ++ ": TSA chain certificate '" ++ subject ++ "' is revoked"))
      else if !settled resolution then
        undetermined (": TSA chain certificate '" ++ subject ++ "' is unresolved")
      else none
    match inChain with
    | some v => some v
    | none =>
        if chain.any (·.isTrusted) then none
        else undetermined ": TSA chain does not reach a trusted-list certificate"

def checkSigner? (date : Instant) (sources : Sources) (config : Config) (name : String)
    (t : TimestampToken) : Option Verdict :=
  match (Context.ofTarget (.timestamp t) date).discover sources config with
  | .error e =>
      some (.undetermined .timestampSignerUnverified
        (name ++ ": signer discovery failed: " ++ e.message))
  | .ok context => signerObjection? name context

def verify (v : TimestampVerifier) (label : String) (t : TimestampElement) (covered : Octets) :
    Verdict :=
  let name := match t.id with
    | some id => label ++ " '" ++ id ++ "'"
    | none => label
  let imprint := t.token.imprint
  match DigestAlgorithm.ofOid? imprint.algorithm with
  | none =>
      .undetermined .unsupportedDigest
        (name ++ ": unsupported imprint algorithm " ++ imprint.algorithm)
  | some d =>
      if v.crypto.digest d covered != imprint.digest then
        .invalid .imprintMismatch (name ++ ": " ++ d.label ++
          " imprint does not match the covered data")
      else
        match v.signerCheck.bind fun (sources, config) =>
            checkSigner? v.date sources config name t.token with
        | some objection => objection
        | none =>
            .valid (name ++ ": imprint verified (genTime " ++
              t.token.generatedAt.toMessageText ++ ")")

end TimestampVerifier
end SignatureTrust
