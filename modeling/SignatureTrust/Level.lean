import SignatureTrust.Verdict

/-!
# `Level` — how far a signature has been built up

A signature starts with what the signer signed (BES) and gathers evidence: a policy (EPES), a
timestamp (T), references to the evidence of validation (C), timestamps over those (X), the evidence
itself (XL), timestamps over everything (A). Each level is judged on its own; the **highest level
reached** is where the ladder from T upwards first breaks. A policy is not a rung of it: EPES counts
only for a signature that stops below T.
-/

set_option autoImplicit false

namespace SignatureTrust

inductive Level where
  | bes
  | epes
  | t
  | c
  | x
  | xl
  | a
deriving DecidableEq, Repr

namespace Level

def all : List Level := [.bes, .epes, .t, .c, .x, .xl, .a]

/-- The levels that build on each other. -/
def ladder : List Level := [.t, .c, .x, .xl, .a]

def label : Level → String
  | .bes => "XAdES-BES"
  | .epes => "XAdES-EPES"
  | .t => "XAdES-T"
  | .c => "XAdES-C"
  | .x => "XAdES-X"
  | .xl => "XAdES-XL"
  | .a => "XAdES-A"

def tag : Level → String
  | .bes => "Bes"
  | .epes => "Epes"
  | .t => "T"
  | .c => "C"
  | .x => "X"
  | .xl => "Xl"
  | .a => "A"

def member : Level → String
  | .bes => "bes"
  | .epes => "epes"
  | .t => "t"
  | .c => "c"
  | .x => "x"
  | .xl => "xl"
  | .a => "a"

end Level

structure LevelVerdicts where
  bes : Verdict
  epes : Verdict
  t : Verdict
  c : Verdict
  x : Verdict
  xl : Verdict
  a : Verdict

namespace LevelVerdicts

def verdict (vs : LevelVerdicts) : Level → Verdict
  | .bes => vs.bes
  | .epes => vs.epes
  | .t => vs.t
  | .c => vs.c
  | .x => vs.x
  | .xl => vs.xl
  | .a => vs.a

/-- The level reached by climbing while the next rung is valid. -/
def climb (vs : LevelVerdicts) (reached : Level) : List Level → Level
  | [] => reached
  | next :: rest => if (vs.verdict next).isValid then vs.climb next rest else reached

def highest? (vs : LevelVerdicts) : Option Level :=
  if (vs.verdict .bes).isValid then
    some (vs.climb (if (vs.verdict .epes).isValid then .epes else .bes) Level.ladder)
  else none

def toJson (vs : LevelVerdicts) : Json :=
  .ofMembers (Level.all.map fun l => (l.member, (vs.verdict l).toJson))

end LevelVerdicts

/-- Verdicts on levels that need each other; none where the rule does not apply. -/
structure LevelConsistency where
  -- references need a timestamp over the signature value
  cNeedsT : Option Verdict
  -- values need a timestamp over the references
  xlNeedsX : Option Verdict

namespace LevelConsistency

def toJson (c : LevelConsistency) : Json :=
  .ofMembers [("c_implies_t", .ofOption Verdict.toJson c.cNeedsT),
    ("xl_implies_x", .ofOption Verdict.toJson c.xlNeedsX)]

end LevelConsistency
end SignatureTrust
