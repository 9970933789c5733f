import SignatureTrust.Asn1.Element
import SignatureTrust.Instant.Calendar
import SignatureTrust.Text.Decimal

/-!
# `Asn1.Time` — dates of certificates and CRLs

A date is a `UTCTime` with two digits for the year, of which 50 and above belong to the last
century, or a `GeneralizedTime` with four. Both must name a day and a time of day that exist. The
forms accepted are those found in use: `UTCTime` may leave out the seconds and may have an offset
instead of `Z`; `GeneralizedTime` ends with `Z`, may leave out the seconds, and may have a point and
up to three digits of a second's fraction, which do not count.
-/

set_option autoImplicit false

namespace SignatureTrust.Asn1

def twoDigits? : List Char → Option (Nat × List Char)
  | a :: b :: rest =>
      (Text.readDigits? [a, b]).map fun n => (n, rest)
  | _ => none

/-- An offset from UTC in seconds: `Z`, or a sign with hours and minutes. The sign belongs to the
hours, and the minutes take theirs from them: with no hours there is nothing to be negative, so
`-0030` is half an hour **ahead**. -/
def zoneSeconds? : List Char → Option Int
  | ['Z'] => some 0
  | [sign, a, b, c, d] => do
      let (hours, _) ← twoDigits? [a, b]
      let (minutes, _) ← twoDigits? [c, d]
      if hours > 25 || minutes > 59 then none
      match sign with
      | '+' => some (hours * 3600 + minutes * 60)
      | '-' => some (if hours = 0 then minutes * 60 else -(hours * 3600 + minutes * 60))
      | _ => none
  | _ => none

def instantOf? (d : Date) (t : ClockTime) (zone : Int) : Option Instant :=
  if d.exists? && t.exists? then
    some (Instant.ofSeconds (d.toDays * 86400 + t.toSeconds - zone))
  else none

/-- `YYMMDDhhmm`, seconds, and a zone. -/
def readUtcTime? (cs : List Char) : Option Instant := do
  let (yy, cs) ← twoDigits? cs
  let (month, cs) ← twoDigits? cs
  let (day, cs) ← twoDigits? cs
  let (hour, cs) ← twoDigits? cs
  let (minute, cs) ← twoDigits? cs
  let (second, cs) ← match cs with
    | [_] => some (0, cs)
    | _ => twoDigits? cs
  let zone ← zoneSeconds? cs
  let year : Nat := if yy < 50 then 2000 + yy else 1900 + yy
  instantOf? ⟨year, month, day⟩ ⟨hour, minute, second⟩ zone

/-- A point and up to three digits, or nothing. -/
def skipFraction? : List Char → Option (List Char)
  | '.' :: rest =>
      let digits := rest.takeWhile Text.isDigit
      if digits.length > 3 then none else some (rest.dropWhile Text.isDigit)
  | cs => some cs

/-- `YYYYMMDDhh`, minutes, seconds, a fraction, and `Z`. -/
def readGeneralizedTime? (cs : List Char) : Option Instant := do
  let (century, cs) ← twoDigits? cs
  let (yy, cs) ← twoDigits? cs
  let (month, cs) ← twoDigits? cs
  let (day, cs) ← twoDigits? cs
  let (hour, cs) ← twoDigits? cs
  let (minute, cs) ← twoDigits? cs
  let (second, cs) ← if cs = ['Z'] then some (0, cs) else twoDigits? cs
  let cs ← skipFraction? cs
  if cs = ['Z'] then
    instantOf? ⟨(century * 100 + yy : Nat), month, day⟩ ⟨hour, minute, second⟩ 0
  else none

def time : Reader Instant := do
  let e ← element .tolerant
  let cs := e.content.map fun b => Char.ofNat b.toNat
  if e.tag.number = utcTime then orRefuse (readUtcTime? cs)
  else if e.tag.number = generalizedTime then orRefuse (readGeneralizedTime? cs)
  else refuse

/-- The next element as a date, where it is one. Where it is none it is left to the next reader, but
only if its length takes at most 32 bits: a header that says more is taken for a broken date. -/
def optionalTime : Reader (Option Instant) := do
  match ← attempt time with
  | some date => return some date
  | none =>
      if (← nextHeader).all (·.length.fitsWord) then return none else refuse

end SignatureTrust.Asn1
