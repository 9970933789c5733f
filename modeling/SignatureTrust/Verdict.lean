import SignatureTrust.Json
import SignatureTrust.Verdict.Indication
import SignatureTrust.Verdict.Reason

/-!
# `Verdict` — results of checks

A verdict is an indication, a reason where there is one, a message, and the verdicts it was made
from. The tree is kept for whoever reads the report; deciding never looks into it again, because
**what a combined verdict says is carried up** (`Verdict.combine`): the worst indication among the
parts, with the reason of the first part that has it.
-/

set_option autoImplicit false

namespace SignatureTrust

structure Verdict where
  indication : Indication
  reason : Option Reason
  message : String
  details : List Verdict

namespace Verdict

def valid (message : String) : Verdict := ⟨.valid, none, message, []⟩

def invalid (reason : Reason) (message : String) : Verdict :=
  ⟨.invalid, some reason, message, []⟩

def undetermined (reason : Reason) (message : String) : Verdict :=
  ⟨.undetermined, some reason, message, []⟩

def withDetails (v : Verdict) (details : List Verdict) : Verdict := { v with details }

def isValid (v : Verdict) : Bool := v.indication = .valid

def isInvalid (v : Verdict) : Bool := v.indication = .invalid

def isUndetermined (v : Verdict) : Bool := v.indication = .undetermined

/-! ## Combining -/

/-- What has been carried up from the parts so far, and one part more: a part counts only when it is
worse. -/
def carry (sofar : Indication × Option Reason) (part : Verdict) : Indication × Option Reason :=
  if sofar.1.severity < part.indication.severity then (part.indication, part.reason) else sofar

/-- The worst of the parts with the reason of the first that is as bad; no parts at all are
valid. -/
def combine (message : String) (details : List Verdict) : Verdict :=
  let (indication, reason) := details.foldl carry (.valid, none)
  ⟨indication, reason, message, details⟩

/-! ## Text and documents -/

/-- The indication, the code of the reason in brackets, and the message. -/
def describe (v : Verdict) : String :=
  match v.reason with
  | some r => v.indication.label ++ " [" ++ r.code ++ "] " ++ v.message
  | none => v.indication.label ++ " " ++ v.message

mutual

def toJson : Verdict → Json
  | ⟨indication, reason, message, details⟩ =>
      .ofMembers ([("indication", .ofText indication.label)] ++
        (reason.map fun r => ("reason", Json.ofText r.code)).toList ++
        [("message", .ofText message)] ++
        if details.isEmpty then [] else [("details", .array (documents details))])

def documents : List Verdict → List Json
  | [] => []
  | v :: vs => v.toJson :: documents vs

end

end Verdict
end SignatureTrust
