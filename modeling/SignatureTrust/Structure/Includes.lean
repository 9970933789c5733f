import SignatureTrust.Signature
import SignatureTrust.Structure.Report

/-!
# `Structure.Includes` — what a timestamp says it is over

A timestamp may list the elements it is over. Where a check knows which ones these must be, it
states them as *requirements*, and compares two sets of identifiers: neither order nor repetition of
the includes matters. An element without an identifier cannot be included, so a requirement for it
fails by itself.
-/

set_option autoImplicit false

namespace SignatureTrust.Structure

/-- The elements of a list, each once, in the order of their characters. -/
def inOrder (ids : List String) : List String :=
  ids.eraseDups.mergeSort fun a b => decide (a ≤ b)

def timestampLabel (name : String) (t : TimestampElement) : String :=
  match t.id with
  | some id => name ++ " '" ++ id ++ "'"
  | none => name

def listed (ids : List String) : String := String.intercalate ", " ids

/-! ## Requirements -/

/-- An element that has to be included, or that would have to be there to be included. -/
inductive Requirement where
  | element (name : String) (id : Option String)
  | missing (name : String)

namespace Requirement

def id? : Requirement → Option String
  | .element _ id => id
  | .missing _ => none

def failure? (check : Check) : Requirement → Option Failure
  | .element _ (some _) => none
  | .element name none => some (.located check (name ++ " has no Id and cannot be included") name)
  | .missing name => some (.general check (name ++ " missing"))

end Requirement

/-! ## Comparing -/

def absentFailures (check : Check) (label : String) (expected included : List String) :
    List Failure :=
  let absent := (inOrder expected).filter fun id => !included.contains id
  if absent.isEmpty then [] else [.located check ("does not include " ++ listed absent) label]

def surplusFailures (check : Check) (label : String) (expected included : List String) :
    List Failure :=
  let surplus := (inOrder included).filter fun id => !expected.contains id
  if surplus.isEmpty then [] else [.located check ("includes unexpected " ++ listed surplus) label]

def exactFailures (check : Check) (name : String) (expected : List String) (t : TimestampElement) :
    List Failure :=
  let label := timestampLabel name t
  absentFailures check label expected t.includedIds ++
    surplusFailures check label expected t.includedIds

def requirementFailures (check : Check) (name : String) (requirements : List Requirement)
    (timestamps : List TimestampElement) : List Failure :=
  if timestamps.isEmpty then []
  else
    requirements.filterMap (Requirement.failure? check) ++
      timestamps.flatMap (exactFailures check name (requirements.filterMap Requirement.id?))

/-! ## The checks on unsigned timestamps -/

def refsRequirements (s : Signature) : List Requirement :=
  [match s.certificateRefs? with
    | some r => .element "CompleteCertificateRefs" r.id
    | none => .missing "CompleteCertificateRefs",
   match s.revocationRefs? with
    | some r => .element "CompleteRevocationRefs" r.id
    | none => .missing "CompleteRevocationRefs"]

def sigAndRefsRequirements (s : Signature) : List Requirement :=
  .element "SignatureValue" s.value.id ::
    s.signatureTimestamps.map (fun t => .element "SignatureTimeStamp" t.id) ++ refsRequirements s

def sigAndRefsTimestampFailures (s : Signature) : List Failure :=
  requirementFailures .sigAndRefsTimestampIncludes "SigAndRefsTimeStamp" (sigAndRefsRequirements s)
    s.sigAndRefsTimestamps

def refsOnlyTimestampFailures (s : Signature) : List Failure :=
  requirementFailures .refsOnlyTimestampIncludes "RefsOnlyTimeStamp" (refsRequirements s)
    s.refsOnlyTimestamps

/-- A signature timestamp with includes names the signature value and nothing else. -/
def signatureTimestampFailuresOf (s : Signature) (t : TimestampElement) : List Failure :=
  let label := timestampLabel "SignatureTimeStamp" t
  if t.includes.isEmpty then []
  else match s.value.id with
    | none => [.located .signatureTimestampIncludes "SignatureValue has no Id" label]
    | some expected =>
        (t.includedIds.filter (· != expected)).map fun id =>
          .located .signatureTimestampIncludes
            ("includes '" ++ id ++ "' besides the SignatureValue") label

def signatureTimestampFailures (s : Signature) : List Failure :=
  s.signatureTimestamps.flatMap (signatureTimestampFailuresOf s)

/-- The identifiers of what an archive timestamp at a position is over, as far as there are any. -/
def archivedIds (s : Signature) (position : Nat) : List String :=
  s.references.filterMap (·.id) ++ s.signedInfo.id.toList ++ s.value.id.toList ++
    (s.keyInfo.bind (·.id)).toList ++ (s.unsigned.take position).filterMap (·.id)

/-- An archive timestamp with includes names everything before it that has an identifier. -/
def archiveTimestampFailures (s : Signature) : List Failure :=
  s.archiveTimestamps.flatMap fun (position, t) =>
    if t.includes.isEmpty then []
    else
      absentFailures .archiveTimestampIncludes (timestampLabel "ArchiveTimeStamp" t)
        (archivedIds s position) t.includedIds

end SignatureTrust.Structure
