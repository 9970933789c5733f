import SignatureTrust.Instant.Calendar
import SignatureTrust.Text.Decimal

/-!
# `Instant.Rfc3339` — instants as text

`2024-06-01T12:00:00Z` in reports, the same with the offset `+00:00` in messages. A fraction is
written only when there is one, in the fewest of three, six or nine digits that are exact. A year
outside 0 to 9999 has a sign, and every year at least four digits.
-/

set_option autoImplicit false

namespace SignatureTrust.Instant

open Text (decimal decimalPadded)

private def yearText (y : Int) : List Char :=
  let digits := decimalPadded 4 y.natAbs
  if y < 0 then '-' :: digits else if y > 9999 then '+' :: digits else digits

private def fractionText (ns : Nat) : List Char :=
  if ns = 0 then []
  else if ns % 1000000 = 0 then '.' :: decimalPadded 3 (ns / 1000000)
  else if ns % 1000 = 0 then '.' :: decimalPadded 6 (ns / 1000)
  else '.' :: decimalPadded 9 ns

private def localText (t : Instant) : List Char :=
  let d := t.date
  let c := t.clockTime
  yearText d.year ++ '-' :: decimalPadded 2 d.month ++ '-' :: decimalPadded 2 d.day ++
    'T' :: decimalPadded 2 c.hour ++ ':' :: decimalPadded 2 c.minute ++
    ':' :: decimalPadded 2 c.second ++ fractionText t.subsecond

/-- The form of reports: the offset is `Z`. -/
def toReportText (t : Instant) : String := String.ofList (localText t ++ ['Z'])

/-- The form of messages: the offset is `+00:00`. -/
def toMessageText (t : Instant) : String := String.ofList (localText t ++ "+00:00".toList)

end SignatureTrust.Instant
