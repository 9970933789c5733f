import SignatureTrust.Json
import SignatureTrust.Structure.Check

/-!
# `Structure.Report` — what the structural checks found

A check fails by naming what is wrong, once for each thing, so a check that ran and is not among the
failures passed.
-/

set_option autoImplicit false

namespace SignatureTrust.Structure

structure Failure where
  check : Check
  message : String
  location : Option String
deriving DecidableEq, Repr

namespace Failure

def general (check : Check) (message : String) : Failure := ⟨check, message, none⟩

def located (check : Check) (message location : String) : Failure :=
  ⟨check, message, some location⟩

def describe (f : Failure) : String :=
  "[" ++ f.check.code ++ "] " ++ f.message ++
    match f.location with
    | some l => " (at " ++ l ++ ")"
    | none => ""

def toJson (f : Failure) : Json :=
  .ofMembers ([("check", .ofText f.check.tag), ("message", .ofText f.message)] ++
    (f.location.map fun l => ("location", Json.ofText l)).toList)

end Failure

structure Report where
  checksRun : List Check
  failures : List Failure
  stoppedEarly : Bool
deriving DecidableEq, Repr

namespace Report

def isConsistent (r : Report) : Bool := r.failures.isEmpty

def failuresOf (r : Report) (c : Check) : List Failure := r.failures.filter (·.check = c)

def passed (r : Report) (c : Check) : Bool := r.checksRun.contains c && (r.failuresOf c).isEmpty

def toJson (r : Report) : Json :=
  .ofMembers [("checks_run", .ofList (fun c => .ofText c.tag) r.checksRun),
    ("failures", .ofList Failure.toJson r.failures), ("stopped_early", .bool r.stoppedEarly)]

end Report
end SignatureTrust.Structure
