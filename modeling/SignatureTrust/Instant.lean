/-!
# `Instant` — a point in time

Nanoseconds since 1970-01-01T00:00:00Z, negative before it. One number, so that "before", "at" and
"after" are the order of the integers and an instant has one representation. Evidence is dated in
whole seconds; a validation date may fall between two of them.
-/

set_option autoImplicit false

namespace SignatureTrust

/-- A point in time, in nanoseconds since the start of 1970 (UTC). -/
structure Instant where
  nanoseconds : Int
deriving DecidableEq, Repr, Inhabited

namespace Instant

instance : LE Instant := ⟨fun a b => a.nanoseconds ≤ b.nanoseconds⟩
instance : LT Instant := ⟨fun a b => a.nanoseconds < b.nanoseconds⟩

instance (a b : Instant) : Decidable (a ≤ b) :=
  inferInstanceAs (Decidable (a.nanoseconds ≤ b.nanoseconds))

instance (a b : Instant) : Decidable (a < b) :=
  inferInstanceAs (Decidable (a.nanoseconds < b.nanoseconds))

def perSecond : Int := 1000000000

def ofSeconds (s : Int) : Instant := ⟨s * perSecond⟩

def ofSecondsAnd (s ns : Int) : Instant := ⟨s * perSecond + ns⟩

/-- The second an instant lies in, rounded down. -/
def seconds (t : Instant) : Int := t.nanoseconds.fdiv perSecond

/-- The nanoseconds since that second began. -/
def subsecond (t : Instant) : Nat := (t.nanoseconds.fmod perSecond).toNat

/-- Whether an instant lies in a closed period; an open period has no end. -/
def within (t start : Instant) (stop : Option Instant) : Bool :=
  start ≤ t && match stop with
    | some stop => decide (t ≤ stop)
    | none => true

theorem le_refl (a : Instant) : a ≤ a := Int.le_refl a.nanoseconds

theorem le_trans {a b c : Instant} (h : a ≤ b) (k : b ≤ c) : a ≤ c := Int.le_trans h k

theorem le_antisymm {a b : Instant} (h : a ≤ b) (k : b ≤ a) : a = b :=
  congrArg Instant.mk (Int.le_antisymm h k)

theorem le_of_lt {a b : Instant} (h : a < b) : a ≤ b := Int.le_of_lt h

theorem not_le {a b : Instant} : ¬a ≤ b ↔ b < a := Int.not_le

theorem not_lt {a b : Instant} : ¬a < b ↔ b ≤ a := Int.not_lt

end Instant
end SignatureTrust
