/-
Calendar units and values. A value of a unit is a point on the axis of that unit: its number of
centuries, years, quarters and so on. To shift a value is to read its point, add, and write the
new point.
-/
import TemporalTagger.Calendar.Date

namespace TemporalTagger

open Text

/-- The units in which values are given and shifted. -/
inductive CalendarUnit
  | century
  | decade
  | year
  | quarter
  | month
  | week
  | day
  deriving DecidableEq, Repr

namespace CalendarUnit

def all : List CalendarUnit := [century, decade, year, quarter, month, week, day]

def name : CalendarUnit → String
  | century => "century"
  | decade => "decade"
  | year => "year"
  | quarter => "quarter"
  | month => "month"
  | week => "week"
  | day => "day"

/-- The value of a date at a unit: `YY`, `YYY`, `YYYY`, `YYYY-Qn`, `YYYY-MM`, `YYYY-Www` or
`YYYY-MM-DD`. -/
def format (u : CalendarUnit) (d : Date) : String :=
  match u with
  | century => padded 2 (d.year / 100)
  | decade => padded 3 (d.year / 10)
  | year => padded 4 d.year
  | quarter => padded 4 d.year ++ "-Q" ++ toString ((d.month - 1) / 3 + 1)
  | month => padded 4 d.year ++ "-" ++ padded 2 d.month
  | week => padded 4 d.isoYear ++ "-W" ++ padded 2 d.isoWeek
  | day => d.toText

/-! ## Points -/

/-- The years that values are written in. -/
def inRange (year : Int) : Bool := 0 ≤ year && year ≤ 9999

/-- Reads exactly so many digits. -/
def digits? (count : Nat) (cs : List Char) : Option (Int × List Char) :=
  let front := cs.take count
  if front.length = count ∧ front.all Char.isDigit then
    some ((digitsValue front : Int), cs.drop count)
  else none

/-- Reads a text of so many digits and no more. -/
def onlyDigits? (count : Nat) (cs : List Char) : Option Int := do
  let (n, rest) ← digits? count cs
  if rest.isEmpty then some n else none

/-- The point of a value. -/
def read? (u : CalendarUnit) (value : String) : Option Int :=
  let cs := value.toList
  match u with
  | century => onlyDigits? 2 cs
  | decade => onlyDigits? 3 cs
  | year => onlyDigits? 4 cs
  | quarter => do
    let (y, rest) ← digits? 4 cs
    let q ← onlyDigits? 1 (← after? ['-', 'Q'] rest)
    if 1 ≤ q ∧ q ≤ 4 then some (4 * y + (q - 1)) else none
  | month => do
    let (y, rest) ← digits? 4 cs
    let m ← onlyDigits? 2 (← after? ['-'] rest)
    some (12 * y + (m - 1))
  | week => do
    let (y, rest) ← digits? 4 cs
    let w ← onlyDigits? 2 (← after? ['-', 'W'] rest)
    let monday ← Date.ofIsoWeek? y w
    some (monday.days / 7)
  | day => (Date.parse? value).map (·.days)

/-- The value of a point, if its year is in range. A week belongs to the year of its Monday
here. -/
def write? (u : CalendarUnit) (point : Int) : Option String :=
  match u with
  | century => if 0 ≤ point ∧ point < 100 then some (padded 2 point) else none
  | decade => if 0 ≤ point ∧ point < 1000 then some (padded 3 point) else none
  | year => if inRange point then some (padded 4 point) else none
  | quarter =>
    if inRange (point / 4) then
      some (padded 4 (point / 4) ++ "-Q" ++ toString (point % 4 + 1))
    else none
  | month =>
    if inRange (point / 12) then
      some (padded 4 (point / 12) ++ "-" ++ padded 2 (point % 12 + 1))
    else none
  | week =>
    -- the Mondays are the days that leave 5 when divided by 7
    let monday : Date := ⟨7 * point + 5⟩
    if inRange monday.year then some (week.format monday) else none
  | day => if inRange (Date.mk point).year then some (day.format ⟨point⟩) else none

/-- The value so many units later; amounts beyond 32 bits lead nowhere. -/
def shift? (u : CalendarUnit) (value : String) (amount : Int) : Option String :=
  if fitsSigned 32 amount then do u.write? ((← u.read? value) + amount) else none

end CalendarUnit

end TemporalTagger
