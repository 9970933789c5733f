import SignatureTrust.Discovery

/-!
# `Discovery.Ancestry` — the certificates above a certificate

Two ways lead up. The **chain** follows recorded issuers only, from the target on. The *issuer
within the context* also takes, for a certificate nobody recorded an issuer for, the first
certificate with the right subject: that is what a trusted parent is looked for with, and what a
status is computed again from.

Issuers can form cycles, so both walks stop after as many steps as there are tokens.
-/

set_option autoImplicit false

namespace SignatureTrust.Context

/-- The handle of the certificate that shares issuer and serial with this one. -/
def certificateHandle? (c : Context) (certificate : Certificate) : Option Handle :=
  c.handleOf? (.certificate certificate)

def entryBySubject? (c : Context) (name : Name) : Option Entry :=
  c.slots.findSome? fun s =>
    match s.sourced? with
    | some e => if e.certificate.subject.same name then some e else none
    | none => none

/-- The issuer of a certificate within the context: the recorded one, or else one with the right
subject. -/
def issuerWithin? (c : Context) (certificate : Certificate) : Option Entry :=
  let recorded := do
    let resolution ← c.resolutionOf? (.certificate certificate)
    resolution.issuer?
  match recorded with
  | some h => c.entryAt? h
  | none => c.entryBySubject? certificate.issuer

/-- The first trusted certificate above a certificate, at most `steps` above it. -/
def trustedAncestor? (c : Context) : Nat → Certificate → Option Entry
  | 0, _ => none
  | steps + 1, certificate =>
      match c.issuerWithin? certificate with
      | none => none
      | some issuer =>
          if issuer.isTrusted then some issuer
          else if issuer.certificate.sameEncoding certificate then none
          else c.trustedAncestor? steps issuer.certificate

def trustedParent? (c : Context) (certificate : Certificate) : Option Entry :=
  c.trustedAncestor? (c.size + 1) certificate

/-- The status of a certificate from the gathered evidence alone. A certificate of a trusted list is
valid without any. -/
def statusWithin? (c : Context) (crypto : Crypto) (certificate : Certificate) : Option Status :=
  let known := (c.certificateHandle? certificate).bind c.entryAt?
  let certificate := match known with
    | some e => e.certificate
    | none => certificate
  if (known.map (·.isTrusted)).getD false then
    some ⟨certificate, none, .valid, none, none, c.date⟩
  else
    match c.issuerWithin? certificate with
    | none => none
    | some issuer =>
        Status.check? crypto (some (.ofList c.neededOcsps))
          (some (.ofList c.neededCrls)) certificate issuer.certificate c.date

/-! ## The chain -/

/-- Where the chain starts: at the target, or for a token that is no certificate at its issuer. -/
def chainStart? (c : Context) : Option Handle :=
  match c.targetCertificate? with
  | some _ => some target
  | none => (c.resolutionAt? target).bind (·.issuer?)

def next? (c : Context) (h : Handle) : Option Handle :=
  match (c.resolutionAt? h).bind (·.issuer?) with
  | some issuer => if issuer = h then none else some issuer
  | none => none

/-- At most `steps` entries from a handle upwards, following recorded issuers. -/
def chainFrom (c : Context) : Nat → Option Handle → List Entry
  | 0, _ => []
  | _, none => []
  | steps + 1, some h =>
      match c.entryAt? h with
      | none => []
      | some e => e :: c.chainFrom steps (c.next? h)

def chain (c : Context) : List Entry := c.chainFrom (c.size + 1) c.chainStart?

end SignatureTrust.Context
