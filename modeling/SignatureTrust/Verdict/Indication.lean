/-!
# `Verdict.Indication` — valid, undetermined, invalid

Three answers in order of severity. *Undetermined* is not a milder *invalid*: it says that more
evidence could still make the check pass, and so it must never hide an invalid one. That is all
`worst` guarantees, and it is a maximum: associative, commutative and idempotent, with `valid` as
its unit.
-/

set_option autoImplicit false

namespace SignatureTrust

inductive Indication where
  | valid
  | undetermined
  | invalid
deriving DecidableEq, Repr

namespace Indication

def severity : Indication → Nat
  | .valid => 0
  | .undetermined => 1
  | .invalid => 2

def worst (a b : Indication) : Indication := if a.severity < b.severity then b else a

def label : Indication → String
  | .valid => "VALID"
  | .undetermined => "UNDETERMINED"
  | .invalid => "INVALID"

theorem severity_worst (a b : Indication) : (a.worst b).severity = max a.severity b.severity := by
  cases a <;> cases b <;> rfl

theorem severity_injective {a b : Indication} (h : a.severity = b.severity) : a = b := by
  cases a <;> cases b <;> first | rfl | exact absurd h (by decide)

end Indication
end SignatureTrust
