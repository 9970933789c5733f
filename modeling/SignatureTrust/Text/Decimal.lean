/-!
# `Text.Decimal` — numbers in digits

Writing is `Nat.toDigits 10`; reading is `Nat.ofDigitChars 10`, and `readDigits?` is the reading
that refuses whatever is not a digit. `decimalPadded` is the fixed-width form of dates and codes.
-/

set_option autoImplicit false

namespace SignatureTrust.Text

def decimal (n : Nat) : List Char := Nat.toDigits 10 n

/-- The decimal digits of a number, with zeros in front up to `width`. -/
def decimalPadded (width n : Nat) : List Char :=
  let digits := decimal n
  List.replicate (width - digits.length) '0' ++ digits

def isDigit (c : Char) : Bool := '0' ≤ c && c ≤ '9'

/-- The number that a run of ASCII digits denotes; an empty run denotes none. -/
def readDigits? (cs : List Char) : Option Nat :=
  if cs.isEmpty || !cs.all isDigit then none else some (Nat.ofDigitChars 10 cs 0)

end SignatureTrust.Text
