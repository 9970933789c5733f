import SignatureTrust.Discovery.Context
import SignatureTrust.Discovery.Issuer

/-!
# `Discovery` — gathering what a target's trust rests on

A pass takes the tokens that have no resolution yet, in order, and resolves each: it finds the
issuer, adds it, and for a certificate asks for a status and adds the evidence behind it. What was
added waits for the next pass. Passes are repeated until one changes nothing or the bound is
reached; a call always runs one pass at least.

A resolution is recorded only for a token that has none, so recording cannot fail here, and the
`Except` of the definitions is never an error.
-/

set_option autoImplicit false

namespace SignatureTrust.Context

/-- The status of a certificate with the evidence added to the context; without a status the
evidence is missing. -/
def resolveCertificate (c : Context) (sources : Sources) (certificate issuer : Certificate)
    (issuerHandle : Handle) : Resolution × Context :=
  match Status.check? sources.crypto sources.ocsp sources.crl certificate issuer c.date with
  | none => (.unresolved (some issuerHandle) .noRevocationData, c)
  | some status =>
      match status.evidence with
      | none => (.checked issuerHandle (some status) none, c)
      | some evidence =>
          let (h, c) := c.addToken evidence.token
          (.checked issuerHandle (some status) (some h), c)

def process (c : Context) (sources : Sources) (config : Config) (h : Handle) (t : Token) :
    Except ContextError Context :=
  match sources.issuer? config c.date t with
  | none => c.record h (.unresolved none .issuerNotFound)
  | some issuer =>
      let (issuerHandle, c) := c.addEntry issuer
      match t with
      | .certificate certificate =>
          let (resolution, c) :=
            c.resolveCertificate sources certificate issuer.certificate issuerHandle
          c.record h resolution
      | _ => c.record h (.checked issuerHandle none none)

def pending (c : Context) : List Handle :=
  (c.slots.zipIdx.filter fun (s, _) => s.resolution.isNone).map fun (_, i) => ⟨i⟩

def visit (sources : Sources) (config : Config) (c : Context) (h : Handle) :
    Except ContextError Context :=
  match c.slot? h with
  | some s => if s.resolution.isNone then c.process sources config h s.token else .ok c
  | none => .ok c

def pass (c : Context) (sources : Sources) (config : Config) : Except ContextError Context := do
  let c ← c.pending.foldlM (visit sources config) c
  return { c with passes := c.passes + 1 }

/-- One pass, and further ones while something changes, at most `more` of them. -/
def discoverWithin (sources : Sources) (config : Config) :
    Nat → Context → Except ContextError Context
  | more, c => do
      let next ← c.pass sources config
      if next.size = c.size ∧ next.resolvedCount = c.resolvedCount then return next
      else match more with
        | 0 => return next
        | more + 1 => discoverWithin sources config more next

/-- Discovery to the end, or to the bound on all passes of the context. -/
def discover (c : Context) (sources : Sources) (config : Config) : Except ContextError Context :=
  discoverWithin sources config (config.maxPasses - c.passes - 1) c

end SignatureTrust.Context
