import SignatureTrust.Status

/-!
# `Discovery.Resolution` — what discovery made of a token

Each token gets one resolution and keeps it. Either nothing had to be looked up; or something was
not found, and then it matters which: without an issuer nothing at all is known, with one only the
revocation evidence is missing; or the issuer was found and, for a certificate, a status with the
evidence behind it.
-/

set_option autoImplicit false

namespace SignatureTrust

/-- The place of a token in a context. -/
structure Handle where
  index : Nat
deriving DecidableEq, Repr

def Handle.describe (h : Handle) : String := "#" ++ String.ofList (Text.decimal h.index)

/-- Why nothing had to be looked up. -/
inductive NoCheckReason where
  -- subject and issuer are one name
  | selfSigned
  | trustedList
deriving DecidableEq, Repr

inductive UnresolvedReason where
  | issuerNotFound
  | noRevocationData
deriving DecidableEq, Repr

/-- The outcome of looking for a token's issuer and status. -/
inductive Resolution where
  | noCheckNeeded (reason : NoCheckReason)
  | unresolved (issuer : Option Handle) (reason : UnresolvedReason)
  | checked (issuer : Handle) (status : Option Status) (evidence : Option Handle)
deriving Repr

namespace Resolution

def issuer? : Resolution → Option Handle
  | .noCheckNeeded _ => none
  | .unresolved issuer _ => issuer
  | .checked issuer _ _ => some issuer

def status? : Resolution → Option Status
  | .checked _ status _ => status
  | _ => none

def evidence? : Resolution → Option Handle
  | .checked _ _ evidence => evidence
  | _ => none

def isUnresolved : Resolution → Bool
  | .unresolved _ _ => true
  | _ => false

def isNoCheckNeeded : Resolution → Bool
  | .noCheckNeeded _ => true
  | _ => false

def isRevoked (r : Resolution) : Bool :=
  match r.status? with
  | some s => s.validity = .revoked
  | none => false

end Resolution
end SignatureTrust
