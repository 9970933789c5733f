import SignatureTrust.Discovery.Resolution

/-!
# `Discovery.Context` — the tokens of one validation

A context starts with one token, the target, and only ever grows. A token is where it was put: its
handle is its position, and a second token with the same key is not added, so **a key has one
handle**. Keys are indexed beside the tokens, and what the target's trust rests on — every
certificate, list and response but the target itself — is collected on the way in; the three
collections and the tokens say the same thing, and keep saying it because `insert` is the only way
in.

Some certificates are resolved on arrival: one whose subject is its issuer, and one from a trusted
list.
-/

set_option autoImplicit false

namespace SignatureTrust

inductive ContextError where
  | unknownToken (h : Handle)
  | alreadyRecorded (h : Handle)
deriving DecidableEq, Repr

def ContextError.message : ContextError → String
  | .unknownToken h => "Unknown token handle: " ++ String.ofList (Text.decimal h.index)
  | .alreadyRecorded h =>
      "Revocation data already recorded for token " ++ String.ofList (Text.decimal h.index)

/-- A token in a context: where it was found, and what discovery made of it. -/
structure Slot where
  token : Token
  provenance : Provenance
  service : Option Service
  resolution : Option Resolution

def Slot.sourced? (s : Slot) : Option Entry :=
  s.token.certificate?.map fun c => ⟨c, s.provenance, s.service⟩

/-- The tokens gathered for a target at a date. -/
structure Context where
  date : Instant
  slots : List Slot
  index : List (TokenKey × Handle)
  neededCertificates : List Handle
  neededCrls : List Crl
  neededOcsps : List OcspResponse
  passes : Nat

namespace Context

/-! ## Looking up -/

def target : Handle := ⟨0⟩

def size (c : Context) : Nat := c.slots.length

def slot? (c : Context) (h : Handle) : Option Slot := c.slots[h.index]?

def token? (c : Context) (h : Handle) : Option Token := (c.slot? h).map (·.token)

def targetToken? (c : Context) : Option Token := c.token? target

def targetCertificate? (c : Context) : Option Certificate := c.targetToken?.bind (·.certificate?)

def handleOfKey? (c : Context) (k : TokenKey) : Option Handle := c.index.lookup k

/-- The handle of the token that shares its key with this one. -/
def handleOf? (c : Context) (t : Token) : Option Handle := c.handleOfKey? t.key

def resolutionAt? (c : Context) (h : Handle) : Option Resolution :=
  (c.slot? h).bind (·.resolution)

def resolutionOf? (c : Context) (t : Token) : Option Resolution :=
  (c.handleOf? t).bind c.resolutionAt?

def entryAt? (c : Context) (h : Handle) : Option Entry := (c.slot? h).bind (·.sourced?)

/-- The certificates that the target's trust rests on. -/
def neededEntries (c : Context) : List Entry := c.neededCertificates.filterMap c.entryAt?

def resolvedCount (c : Context) : Nat := c.slots.countP (·.resolution.isSome)

/-! ## Growing -/

/-- What is known of a token on arrival. -/
def onArrival (t : Token) (p : Provenance) : Option Resolution :=
  match t with
  | .certificate c =>
      if c.isSelfIssued then some (.noCheckNeeded .selfSigned)
      else if p = .trustedList then some (.noCheckNeeded .trustedList)
      else none
  | _ => none

/-- Puts a token at the end, which must not be indexed yet. -/
def append (c : Context) (t : Token) (p : Provenance) (s : Option Service) : Context :=
  let h : Handle := ⟨c.slots.length⟩
  let grown := { c with
    slots := c.slots ++ [⟨t, p, s, onArrival t p⟩]
    index := c.index ++ [(t.key, h)] }
  if h.index = 0 then grown
  else match t with
    | .certificate _ => { grown with neededCertificates := c.neededCertificates ++ [h] }
    | .crl crl => { grown with neededCrls := c.neededCrls ++ [crl] }
    | .ocsp r => { grown with neededOcsps := c.neededOcsps ++ [r] }
    | .timestamp _ => grown

/-- The handle of a token, which is put at the end if its key is new. -/
def insert (c : Context) (t : Token) (p : Provenance) (s : Option Service) : Handle × Context :=
  match c.handleOf? t with
  | some h => (h, c)
  | none => (⟨c.slots.length⟩, c.append t p s)

def addToken (c : Context) (t : Token) : Handle × Context := c.insert t .other none

def addEntry (c : Context) (e : Entry) : Handle × Context :=
  c.insert (.certificate e.certificate) e.provenance e.service

def empty (date : Instant) : Context := ⟨date, [], [], [], [], [], 0⟩

def ofTarget (t : Token) (date : Instant) : Context := ((empty date).addToken t).2

/-- Records the resolution of a token, once. -/
def record (c : Context) (h : Handle) (r : Resolution) : Except ContextError Context :=
  match c.slot? h with
  | none => .error (.unknownToken h)
  | some s =>
      if s.resolution.isSome then .error (.alreadyRecorded h)
      else .ok { c with slots := c.slots.set h.index { s with resolution := some r } }

end Context
end SignatureTrust
