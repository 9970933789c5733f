import SignatureTrust.Config
import SignatureTrust.Json.Reader

/-!
# `Config.Document` — configurations as documents

A configuration is written as an object with a member for every setting. Reading is generous in form
and strict in content: members may come in any order and may be missing, members that are not
settings are ignored, and an array gives the settings in order; but a setting may be given only
once, and never as `null` or as a value of another kind.

A bound of no passes is a well-formed document and still no configuration: discovery would never
look at anything.
-/

set_option autoImplicit false

namespace SignatureTrust

inductive ConfigError where
  -- the text is not JSON, or not a document of this kind
  | malformed
  -- the bound on passes is zero
  | noPasses
deriving DecidableEq, Repr

namespace ConfigError

def message? : ConfigError → Option String
  | .malformed => none
  | .noPasses => some "Invalid configuration: max_passes must be at least 1"

end ConfigError

namespace Config

inductive Setting where
  | issuerPolicy
  | structuralChecks
  | stopOnFirstFailure
  | checkServiceWindow
  | maxPasses
  | verifyTimestampSigners
  | validateCounterSignatures
deriving DecidableEq, Repr

namespace Setting

def all : List Setting :=
  [.issuerPolicy, .structuralChecks, .stopOnFirstFailure, .checkServiceWindow, .maxPasses,
    .verifyTimestampSigners, .validateCounterSignatures]

def member : Setting → String
  | .issuerPolicy => "issuer_selection"
  | .structuralChecks => "structural_checks"
  | .stopOnFirstFailure => "stop_on_first_failure"
  | .checkServiceWindow => "check_service_window"
  | .maxPasses => "max_passes"
  | .verifyTimestampSigners => "verify_timestamp_signers"
  | .validateCounterSignatures => "validate_counter_signatures"

def ofMember? (name : String) : Option Setting := all.find? (·.member == name)

end Setting

def valueJson (c : Config) : Setting → Json
  | .issuerPolicy => .ofText c.issuerPolicy.tag
  | .structuralChecks => c.structuralChecks.toJson
  | .stopOnFirstFailure => .bool c.stopOnFirstFailure
  | .checkServiceWindow => .bool c.checkServiceWindow
  | .maxPasses => .ofNat c.maxPasses
  | .verifyTimestampSigners => .bool c.verifyTimestampSigners
  | .validateCounterSignatures => .bool c.validateCounterSignatures

def toJson (c : Config) : Json :=
  .ofMembers (Setting.all.map fun s => (s.member, c.valueJson s))

/-! ## Reading -/

/-- A policy by its name, which may also stand as the only member of an object, with no value. -/
def policy? : Json → Option IssuerPolicy
  | .string (some name) => IssuerPolicy.all.find? (·.tag == name)
  | .object [(some name, .null)] => IssuerPolicy.all.find? (·.tag == name)
  | _ => none

def bound? (j : Json) : Option Nat := do
  let n ← j.natural?
  if n < 1 <<< 64 then some n else none

def withSetting? (c : Config) (s : Setting) (j : Json) : Option Config :=
  match s with
  | .issuerPolicy => (policy? j).map fun v => { c with issuerPolicy := v }
  | .structuralChecks => (Structure.Mask.ofJson? j).map fun v => { c with structuralChecks := v }
  | .stopOnFirstFailure => j.bool?.map fun v => { c with stopOnFirstFailure := v }
  | .checkServiceWindow => j.bool?.map fun v => { c with checkServiceWindow := v }
  | .maxPasses => (bound? j).map fun v => { c with maxPasses := v }
  | .verifyTimestampSigners => j.bool?.map fun v => { c with verifyTimestampSigners := v }
  | .validateCounterSignatures => j.bool?.map fun v => { c with validateCounterSignatures := v }

/-- Members in any order, `given` being the settings that have been given already. -/
def ofMembers? (c : Config) (given : List Setting) : List (Option String × Json) → Option Config
  | [] => some c
  | (none, _) :: _ => none
  | (some name, value) :: rest =>
      match Setting.ofMember? name with
      | none => ofMembers? c given rest
      | some s =>
          if given.contains s then none
          else do ofMembers? (← c.withSetting? s value) (s :: given) rest

def ofItems? (c : Config) : List Setting → List Json → Option Config
  | _, [] => some c
  | [], _ :: _ => none
  | s :: settings, value :: rest => do ofItems? (← c.withSetting? s value) settings rest

/-- The configuration of a document, before its bound is looked at. -/
def ofDocument? : Json → Option Config
  | .object members => ofMembers? {} [] members
  | .array items => ofItems? {} Setting.all items
  | _ => none

def ofJson (j : Json) : Except ConfigError Config :=
  match ofDocument? j with
  | none => .error .malformed
  | some c => if c.maxPasses = 0 then .error .noPasses else .ok c

def read (text : String) : Except ConfigError Config :=
  match Json.read? text with
  | none => .error .malformed
  | some j => ofJson j

end Config
end SignatureTrust
