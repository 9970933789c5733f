/-!
# `Octets` — byte strings

Everything this library hashes, signs over or compares is a byte string, and it is a *list*:
coverage of a timestamp is a concatenation, an encoding is taken apart from the left, and both are
what lists are good at. Text enters as its UTF-8 encoding (`Octets.ofText`) and leaves only where
the bytes are well-formed UTF-8 (`Octets.text?`).
-/

set_option autoImplicit false

namespace SignatureTrust

abbrev Octets := List UInt8

namespace Octets

def ofText (s : String) : Octets := s.toUTF8.data.toList

def text? (bs : Octets) : Option String := String.fromUTF8? ⟨bs.toArray⟩

/-- Consecutive pieces of `n` elements; the last one may be shorter. -/
def inPieces {α : Type} (n : Nat) (xs : List α) : List (List α) :=
  if _h : n = 0 ∨ xs.isEmpty then [] else xs.take n :: inPieces n (xs.drop n)
termination_by xs.length
decreasing_by
  simp only [List.isEmpty_iff_length_eq_zero] at _h
  rw [List.length_drop]
  omega

end Octets
end SignatureTrust
