/-
Dates of the proleptic Gregorian calendar with ISO 8601 weeks. A date is the number of days since
1 March of the year 0; counted from March, the leap day is the last day of a year, and 400 years
are one cycle of days and of weekdays.
-/
import TemporalTagger.Text.Lines
import TemporalTagger.Text.Number
import TemporalTagger.Text.Scan

namespace TemporalTagger

/-- A day, counted from 0000-03-01. -/
structure Date where
  days : Int
  deriving DecidableEq, Repr

namespace Date

/-! ## Year, month and day -/

/-- The days before a year that starts in March. -/
def daysBeforeYear (y : Int) : Int := 365 * y + y / 4 - y / 100 + y / 400

/-- The days before a month, counted from March as month 0. -/
def daysBeforeMonth (m : Int) : Int := (153 * m + 2) / 5

/-- The day of a cycle of 400 years. -/
def dayOfCycle (d : Date) : Int := d.days % 146097

/-- The year of the cycle, from March to February. -/
def yearOfCycle (d : Date) : Int :=
  let n := d.dayOfCycle
  (n - n / 1460 + n / 36524 - n / 146096) / 365

/-- The year that began last March. -/
def marchYear (d : Date) : Int := 400 * (d.days / 146097) + d.yearOfCycle

/-- The day since last March. -/
def dayFromMarch (d : Date) : Int := d.days - daysBeforeYear d.marchYear

/-- The month since last March. -/
def monthFromMarch (d : Date) : Int := (5 * d.dayFromMarch + 2) / 153

/-- The month, January being 1. -/
def month (d : Date) : Int :=
  if d.monthFromMarch < 10 then d.monthFromMarch + 3 else d.monthFromMarch - 9

def year (d : Date) : Int := if d.monthFromMarch < 10 then d.marchYear else d.marchYear + 1

/-- The day of the month, the first being 1. -/
def day (d : Date) : Int := d.dayFromMarch - daysBeforeMonth d.monthFromMarch + 1

/-- The date so many days after the first of a month. -/
def ofMonth (year month : Int) (days : Int) : Date :=
  let y := if month ≤ 2 then year - 1 else year
  let m := if month ≤ 2 then month + 9 else month - 3
  ⟨daysBeforeYear y + daysBeforeMonth m + days⟩

def isLeap (year : Int) : Bool := year % 4 == 0 && (year % 100 != 0 || year % 400 == 0)

def daysInMonth (year month : Int) : Int :=
  if month = 2 then if isLeap year then 29 else 28
  else if month = 4 ∨ month = 6 ∨ month = 9 ∨ month = 11 then 30
  else 31

/-- The years that dates can be given in. -/
def minYear : Int := -262143
def maxYear : Int := 262142

/-- The date of a year, month and day, if there is one. -/
def ofYmd? (year month day : Int) : Option Date :=
  if minYear ≤ year ∧ year ≤ maxYear ∧ 1 ≤ month ∧ month ≤ 12 ∧ 1 ≤ day ∧
      day ≤ daysInMonth year month then
    some (ofMonth year month (day - 1))
  else none

/-! ## Weeks -/

/-- The day of the week, Monday being 0. -/
def weekday (d : Date) : Int := (d.days + 2) % 7

/-- The Monday of the week. -/
def monday (d : Date) : Date := ⟨d.days - d.weekday⟩

/-- The Thursday of the week, which decides the year that the week belongs to. -/
def thursday (d : Date) : Date := ⟨d.monday.days + 3⟩

def isoYear (d : Date) : Int := d.thursday.year

def isoWeek (d : Date) : Int := (d.thursday.days - (ofMonth d.isoYear 1 0).days) / 7 + 1

/-- The Monday of the first week of a year, the week with 4 January. -/
def firstMonday (year : Int) : Date := (ofMonth year 1 3).monday

def weeksInYear (year : Int) : Int := ((firstMonday (year + 1)).days - (firstMonday year).days) / 7

/-- The Monday of a week, if the year has that week. -/
def ofIsoWeek? (year week : Int) : Option Date :=
  if 1 ≤ week ∧ week ≤ weeksInYear year then some ⟨(firstMonday year).days + 7 * (week - 1)⟩
  else none

/-! ## Text -/

open Text

/-- A date as year, month and day. Years before 0 and after 9999 have a sign. -/
def toText (d : Date) : String :=
  let year :=
    if 0 ≤ d.year ∧ d.year ≤ 9999 then padded 4 d.year
    else (if d.year < 0 then "-" else "+") ++ padded 4 d.year.natAbs
  year ++ "-" ++ padded 2 d.month ++ "-" ++ padded 2 d.day

/-- Reads at most `max` digits, one at least. -/
def readNumber? (max : Nat) (cs : List Char) : Option (Nat × List Char) :=
  let digits := (cs.take max).takeWhile Char.isDigit
  if digits.isEmpty then none else some (digitsValue digits, cs.drop digits.length)

/-- Reads a year: up to four digits, or any number of them after a sign. -/
def readYear? : List Char → Option (Int × List Char)
  | '-' :: rest => (readNumber? rest.length rest).map fun (n, rest) => (-(n : Int), rest)
  | '+' :: rest => (readNumber? rest.length rest).map fun (n, rest) => ((n : Int), rest)
  | cs => (readNumber? 4 cs).map fun (n, rest) => ((n : Int), rest)

/-- Reads a date written as year, month and day. Whitespace may stand before each number, and
nothing may follow. -/
def parse? (text : String) : Option Date := do
  let (year, rest) ← readYear? (trimStart text.toList)
  let rest ← after? ['-'] rest
  let (month, rest) ← readNumber? 2 (trimStart rest)
  let rest ← after? ['-'] rest
  let (day, rest) ← readNumber? 2 (trimStart rest)
  if rest.isEmpty then ofYmd? year month day else none

end Date

end TemporalTagger
