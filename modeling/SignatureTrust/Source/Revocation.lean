import SignatureTrust.Evidence.Crl
import SignatureTrust.Evidence.OcspResponse

/-!
# `Source.Revocation` — where revocation evidence is looked for

A source answers for a certificate and its issuer with at most one piece of evidence. It is asked in
two ways: for the latest it has, and for what was current at an instant. A source without history
answers both alike, which is the default.

Sources in memory choose by date among what speaks for the issuer: **the newest wins, and among
equally new evidence the last**. Nothing is verified here; that is for whoever uses the answer
(`Status`).
-/

set_option autoImplicit false

namespace SignatureTrust

/-- Evidence of one kind for a certificate and its issuer. -/
structure EvidenceSource (α : Type) where
  -- the latest evidence
  get : Certificate → Certificate → Option α
  -- the evidence current at an instant
  getAt : Certificate → Certificate → Instant → Option α := fun certificate issuer _ =>
    get certificate issuer

abbrev CrlSource := EvidenceSource Crl

abbrev OcspSource := EvidenceSource OcspResponse

namespace EvidenceSource

def inTurn {α : Type} (sources : List (EvidenceSource α)) : EvidenceSource α where
  get certificate issuer := sources.findSome? fun s => s.get certificate issuer
  getAt certificate issuer date := sources.findSome? fun s => s.getAt certificate issuer date

/-- The later of two by date; of two with one date, the second. -/
def newer {α : Type} (date : α → Instant) (best : Option α) (a : α) : Option α :=
  match best with
  | some b => if date b ≤ date a then some a else some b
  | none => some a

/-- The last of those with the greatest date. -/
def newest? {α : Type} (date : α → Instant) (xs : List α) : Option α :=
  xs.foldl (newer date) none

end EvidenceSource

open EvidenceSource

namespace CrlSource

def add (crls : List Crl) (crl : Crl) : List Crl :=
  if crls.any (·.sameEncoding crl) then crls else crls ++ [crl]

def concerns (issuer : Certificate) (crl : Crl) : Bool := crl.issuer.same issuer.subject

/-- The newest of the issuer's lists; at an instant, of those already published. -/
def ofList (crls : List Crl) : CrlSource where
  get _ issuer := newest? (·.thisUpdate) (crls.filter (concerns issuer))
  getAt _ issuer date :=
    newest? (·.thisUpdate)
      (crls.filter fun crl => concerns issuer crl && decide (crl.thisUpdate ≤ date))

end CrlSource

namespace OcspSource

def add (responses : List OcspResponse) (response : OcspResponse) : List OcspResponse :=
  if responses.any (·.sameEncoding response) then responses else responses ++ [response]

/-- Whether a response speaks for the issuer and has an answer for the serial that passes a test. -/
def concerns (certificate issuer : Certificate) (test : SingleResponse → Bool)
    (r : OcspResponse) : Bool :=
  r.speaksFor issuer && (r.find? certificate.serial).any test

/-- The last produced of the responses with an answer; at an instant, with an answer already
given. -/
def ofList (responses : List OcspResponse) : OcspSource where
  get certificate issuer :=
    newest? (·.producedAt) (responses.filter (concerns certificate issuer fun _ => true))
  getAt certificate issuer date :=
    newest? (·.producedAt) (responses.filter (concerns certificate issuer fun single =>
      decide (single.thisUpdate ≤ date)))

end OcspSource
end SignatureTrust
