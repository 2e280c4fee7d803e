import LedgerNet.Text.Natural

/-!
Seconds since 1970 as dates of the Gregorian calendar, extended to all years from -262143 to 262142, and their
text with nine places of a second in universal time.
-/
namespace LedgerNet.Calendar

open Text

structure Date where
  year : Int
  month : Nat
  day : Nat
deriving DecidableEq, Repr

/-- The date of a day counted from 1 January 1970. Years are taken to begin in March, so that a leap day is the
last day of its year, and are grouped in cycles of 400. -/
def dateOfDay (day : Int) : Date :=
  let shifted := day + 719468
  let cycle := shifted.fdiv 146097
  let dayOfCycle := (shifted.fmod 146097).toNat
  let yearOfCycle := (dayOfCycle - dayOfCycle / 1460 + dayOfCycle / 36524 - dayOfCycle / 146096) / 365
  let dayOfYear := dayOfCycle - (365 * yearOfCycle + yearOfCycle / 4 - yearOfCycle / 100)
  let fromMarch := (5 * dayOfYear + 2) / 153
  let day := dayOfYear - (153 * fromMarch + 2) / 5 + 1
  let month := if fromMarch < 10 then fromMarch + 3 else fromMarch - 9
  ⟨yearOfCycle + cycle * 400 + (if month ≤ 2 then 1 else 0), month, day⟩

def firstSecond : Int := -8334601228800

def lastSecond : Int := 8210266876799

/-- Whether an instant has a date. A second in which nanoseconds run on past a thousand million must be the last
of its minute. -/
def hasDate (seconds : Int) (nanos : Nat) : Bool :=
  firstSecond ≤ seconds && seconds ≤ lastSecond &&
    (nanos < 1000000000 || (nanos < 2000000000 && seconds.fmod 60 == 59))

/-- A year in four digits, or signed in five places when it has more or is negative. -/
def yearText (year : Int) : String :=
  if 0 ≤ year ∧ year ≤ 9999 then Natural.padded 4 year.toNat
  else if year < 0 then "-" ++ Natural.padded 4 year.natAbs
  else "+" ++ Natural.padded 4 year.natAbs

/-- The date and time of an instant. Nanoseconds past a full second show as second 60. -/
def text (seconds : Int) (nanos : Nat) : String :=
  let date := dateOfDay (seconds.fdiv 86400)
  let ofDay := (seconds.fmod 86400).toNat
  let second := ofDay % 60 + nanos / 1000000000
  let two := Natural.padded 2
  yearText date.year ++ "-" ++ two date.month ++ "-" ++ two date.day ++ "T" ++ two (ofDay / 3600) ++ ":"
    ++ two (ofDay / 60 % 60) ++ ":" ++ two second ++ "." ++ Natural.padded 9 (nanos % 1000000000) ++ "Z"

end LedgerNet.Calendar
