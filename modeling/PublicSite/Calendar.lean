import PublicSite.Text.Ascii

/-!
# Moments and dates

A moment is a count of seconds since the start of 1970, which may be negative,
and a fraction in nanoseconds.  A fraction of a whole second or more marks a leap
second, the sixty-first of its minute.  Dates follow the Gregorian calendar in
both directions; a year before 0 or after 9999 is written with its sign.
-/

namespace PublicSite

open PublicSite.Text

/-- A date. -/
structure Date where
  year : Int
  month : Nat
  day : Nat
  deriving DecidableEq, Repr

namespace Date

/-- The days of four hundred years. -/
def eraDays : Int := 146097

/-- The days from the first of March of the year 0 to the start of 1970. -/
def daysBeforeEpoch : Int := 719468

/-- The date a count of days after the start of 1970.  Years begin in March here,
so that the leap day is the last of its year. -/
def ofDays (days : Int) : Date :=
  let shifted := days + daysBeforeEpoch
  let era := shifted.fdiv eraDays
  let dayOfEra := (shifted.fmod eraDays).toNat
  let yearOfEra := (dayOfEra - dayOfEra / 1460 + dayOfEra / 36524 - dayOfEra / 146096) / 365
  let dayOfYear := dayOfEra - (365 * yearOfEra + yearOfEra / 4 - yearOfEra / 100)
  let monthOfYear := (5 * dayOfYear + 2) / 153
  let month := if monthOfYear < 10 then monthOfYear + 3 else monthOfYear - 9
  { year := yearOfEra + era * 400 + (if month ≤ 2 then 1 else 0)
    month
    day := dayOfYear - (153 * monthOfYear + 2) / 5 + 1 }

/-- The digits of a number, with zeros in front up to a width. -/
def padded (width value : Nat) : List Char :=
  padLeft width '0' (decimalDigits value)

/-- A year of at least four digits. -/
def printYear (year : Int) : List Char :=
  let digits := padded 4 year.natAbs
  if 0 ≤ year ∧ year ≤ 9999 then digits
  else (if year < 0 then '-' else '+') :: digits

/-- A date as year, month and day. -/
def print (date : Date) : List Char :=
  printYear date.year ++ '-' :: (padded 2 date.month ++ '-' :: padded 2 date.day)

end Date

/-- A moment in universal time. -/
structure Moment where
  seconds : Int
  nanoseconds : Nat := 0
  deriving DecidableEq, Repr

namespace Moment

/-- The seconds of a day. -/
def daySeconds : Int := 86400

/-- The fraction from which on a moment lies in a leap second. -/
def wholeSecond : Nat := 1000000000

/-- The date and the time of a moment, to the second, in universal time. -/
def print (moment : Moment) : List Char :=
  let date := Date.ofDays (moment.seconds.fdiv daySeconds)
  let second := (moment.seconds.fmod daySeconds).toNat
  let leap := if moment.nanoseconds ≥ wholeSecond then 1 else 0
  date.print ++ 'T' :: (Date.padded 2 (second / 3600) ++ ':' ::
    (Date.padded 2 (second / 60 % 60) ++ ':' :: (Date.padded 2 (second % 60 + leap) ++ ['Z'])))

/-- The start of 1970. -/
def epoch : Moment := ⟨0, 0⟩

end Moment

end PublicSite
