/-!
# Calendar dates

A date of the Gregorian calendar, which is taken to have held at all times. `Date.ofDay` gives the date of
a day that is counted from 1970-01-01, and `Date.ofTimestamp?` that of a time in seconds. The calendar is
worked out in eras of 400 years, which all have the same number of days; within an era the year begins
with March, so that the leap day is the last one.
-/

namespace PhraseFilter

structure Date where
  /-- The year; the year before year 1 is year 0. -/
  year : Int
  month : Nat
  day : Nat
  deriving Repr, DecidableEq

namespace Date

/-- The days of an era of 400 years. -/
def daysPerEra : Nat := 146097

/-- The days from the start of an era, 0000-03-01, to 1970-01-01. -/
def epoch : Int := 719468

/-- The year of an era, from 0 to 399, that a day of the era belongs to. -/
def yearOfEra (dayOfEra : Nat) : Nat :=
  (dayOfEra - dayOfEra / 1460 + dayOfEra / 36524 - dayOfEra / 146096) / 365

/-- The days of an era before a year of the era. -/
def daysBefore (yearOfEra : Nat) : Nat := 365 * yearOfEra + yearOfEra / 4 - yearOfEra / 100

/-- The date of a day that is counted from 1970-01-01. -/
def ofDay (n : Int) : Date :=
  let n := n + epoch
  let era := n.fdiv daysPerEra
  let dayOfEra := (n.fmod daysPerEra).toNat
  let year := yearOfEra dayOfEra
  let dayOfYear := dayOfEra - daysBefore year
  let month := (5 * dayOfYear + 2) / 153
  let day := dayOfYear - (153 * month + 2) / 5 + 1
  let isNextYear := 10 ≤ month
  ⟨400 * era + year + if isNextYear then 1 else 0, if isNextYear then month - 9 else month + 3, day⟩

def secondsPerDay : Int := 86400

def minYear : Int := -262143

def maxYear : Int := 262142

/-- The date of a time that is given in seconds from the start of 1970-01-01, if its year is told. -/
def ofTimestamp? (seconds : Int) : Option Date :=
  let d := ofDay (seconds.fdiv secondsPerDay)
  if minYear ≤ d.year ∧ d.year ≤ maxYear then some d else none

def padded (width n : Nat) : String :=
  let digits := toString n
  String.ofList (List.replicate (width - digits.length) '0') ++ digits

/-- The year: four digits, or a sign and at least four digits outside of the years 0 to 9999. -/
def yearText (year : Int) : String :=
  if 0 ≤ year ∧ year ≤ 9999 then padded 4 year.toNat
  else (if year < 0 then "-" else "+") ++ padded 4 year.natAbs

/-- Year, month and day with hyphens between them. -/
def toText (d : Date) : String :=
  yearText d.year ++ "-" ++ padded 2 d.month ++ "-" ++ padded 2 d.day

end Date

end PhraseFilter
