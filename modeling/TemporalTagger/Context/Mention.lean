/-
Earlier mentions as anchors: the most recent expression before a given one whose value can stand
for a date at the wanted granularity.
-/
import TemporalTagger.Calendar.Unit
import TemporalTagger.Error
import TemporalTagger.TimeExpression

namespace TemporalTagger

open Text

/-- What kind of anchor is looked for. The kinds `dateYear` and `monthWithDetails` take the whole
value, `dateQuarter` only an explicit quarter. -/
inductive Granularity
  | century
  | decade
  | year
  | dateYear
  | month
  | monthWithDetails
  | day
  | week
  | quarter
  | dateQuarter
  | season
  deriving DecidableEq, Repr

namespace Granularity

def all : List Granularity :=
  [century, decade, year, dateYear, month, monthWithDetails, day, week, quarter, dateQuarter,
   season]

def name : Granularity → String
  | century => "century"
  | decade => "decade"
  | year => "year"
  | dateYear => "dateYear"
  | month => "month"
  | monthWithDetails => "month-with-details"
  | day => "day"
  | week => "week"
  | quarter => "quarter"
  | dateQuarter => "dateQuarter"
  | season => "season"

/-- The granularity of an exact name. -/
def ofText (s : String) : Except TaggerError Granularity :=
  match all.find? (·.name == s) with
  | some g => .ok g
  | none => .error (.unknownGranularity s)

/-- The granularity at which a unit is anchored. -/
def ofUnit : CalendarUnit → Granularity
  | .century => century
  | .decade => decade
  | .year => year
  | .quarter => quarter
  | .month => month
  | .week => week
  | .day => day

end Granularity

namespace Mention

/-! ## Shapes of values -/

/-- One part of the shape of a value. -/
inductive Mark
  | digit
  | exactly (c : Char)
  | oneOf (cs : List Char)

def Mark.accepts : Mark → Char → Bool
  | digit, c => c.isDigit
  | exactly d, c => c = d
  | oneOf cs, c => cs.contains c

/-- The front of a text that has a shape, and the rest. -/
def front? : List Mark → List Char → Option (List Char × List Char)
  | [], cs => some ([], cs)
  | _ :: _, [] => none
  | m :: marks, c :: cs =>
    if m.accepts c then (front? marks cs).map fun (a, b) => (c :: a, b) else none

/-- So many digits. -/
def digits (n : Nat) : List Mark := List.replicate n .digit

def yearShape : List Mark := digits 4
def monthShape : List Mark := yearShape ++ .exactly '-' :: digits 2
def dayShape : List Mark := monthShape ++ .exactly '-' :: digits 2
def weekShape : List Mark := yearShape ++ [.exactly '-', .exactly 'W'] ++ digits 2
def quarterShape : List Mark :=
  yearShape ++ [.exactly '-', .exactly 'Q', .oneOf ['1', '2', '3', '4']]

/-- The front of a value that has a shape. -/
def ofShape? (shape : List Mark) (cs : List Char) : Option (List Char) :=
  (front? shape cs).map (·.1)

/-- The front of a value that has a shape, which `BC` may precede. -/
def ofEraShape? (shape : List Mark) (cs : List Char) : Option (List Char) :=
  match after? ['B', 'C'] cs with
  | some rest => (ofShape? shape rest).map fun part => 'B' :: 'C' :: part
  | none => ofShape? shape cs

/-- A year and month at the front of a value. -/
def yearAndMonth? (cs : List Char) : Option (List Char × List Char) := do
  let (year, rest) ← front? yearShape cs
  let (month, _) ← front? (.exactly '-' :: digits 2) rest
  some (year, month.drop 1)

/-- The season at the front of a value, after its year. -/
def seasonPart? (cs : List Char) : Option (List Char) := do
  let (year, rest) ← front? (yearShape ++ [.exactly '-']) cs
  let code := rest.take 2
  if code ∈ [['S', 'P'], ['S', 'U'], ['F', 'A'], ['W', 'I']] then some (year ++ code) else none

/-- The quarter of a two-digit month; a month that is none counts as January. -/
def quarterOfMonth (month : List Char) : Char :=
  let n := digitsValue month
  if 4 ≤ n ∧ n ≤ 6 then '2' else if 7 ≤ n ∧ n ≤ 9 then '3' else if 10 ≤ n ∧ n ≤ 12 then '4' else '1'

/-- The season of a two-digit month, winter beginning in December. -/
def seasonOfMonth? (month : List Char) : Option (List Char) :=
  let n := digitsValue month
  if n = 12 ∨ n = 1 ∨ n = 2 then some ['W', 'I']
  else if 3 ≤ n ∧ n ≤ 5 then some ['S', 'P']
  else if 6 ≤ n ∧ n ≤ 8 then some ['S', 'U']
  else if 9 ≤ n ∧ n ≤ 11 then some ['F', 'A']
  else none

/-! ## Anchors -/

/-- What a value offers: it lacks the shape, so the search goes on; or it has the shape, which
ends the search, with an anchor or, for an impossible date or month, without one. -/
inductive Offer
  | noShape
  | shape (anchor : Option String)

def Offer.ofFront : Option (List Char) → Offer
  | none => noShape
  | some cs => shape (some (String.ofList cs))

/-- What a value offers at a granularity. -/
def offer (value : String) (g : Granularity) : Offer :=
  let cs := value.toList
  let whole (part : Option (List Char)) : Offer :=
    if part.isSome then .shape (some value) else .noShape
  match g with
  | .century => .ofFront (ofEraShape? (digits 2) cs)
  | .decade => .ofFront (ofEraShape? (digits 3) cs)
  | .year => .ofFront (ofEraShape? yearShape cs)
  | .dateYear => whole (ofEraShape? yearShape cs)
  | .month => .ofFront (ofEraShape? monthShape cs)
  | .monthWithDetails => whole (ofShape? monthShape cs)
  | .day => .ofFront (ofShape? dayShape cs)
  | .week =>
    match ofShape? dayShape cs with
    | some date => .shape ((Date.parse? (String.ofList date)).map CalendarUnit.week.format)
    | none => .ofFront (ofShape? weekShape cs)
  | .quarter =>
    match yearAndMonth? cs with
    | some (year, month) =>
      .shape (some (String.ofList (year ++ ['-', 'Q', quarterOfMonth month])))
    | none => .ofFront (ofShape? quarterShape cs)
  | .dateQuarter => .ofFront (ofShape? quarterShape cs)
  | .season =>
    match yearAndMonth? cs with
    | some (year, month) =>
      .shape ((seasonOfMonth? month).map fun code => String.ofList (year ++ '-' :: code))
    | none => .ofFront (seasonPart? cs)

/-- Values of functions are never anchors. -/
def isFunction (value : String) : Bool := (cutAt? "funcDate".toList value.toList).isSome

/-- The anchor among earlier expressions, the most recent one first. Those that start where the
current expression does are passed over. -/
def search (currentStart : Option Nat) (g : Granularity) : List TimeExpression → Option String
  | [] => none
  | e :: rest =>
    if some e.span.start = currentStart || isFunction e.value then search currentStart g rest
    else
      match offer e.value g with
      | .noShape => search currentStart g rest
      | .shape anchor => anchor

/-- The anchor for the expression at an index. Past the end of the list, all expressions are
earlier ones. -/
def last? (expressions : List TimeExpression) (current : Nat) (g : Granularity) : Option String :=
  search (expressions[current]?.map (·.span.start)) g (expressions.take current).reverse

end Mention

end TemporalTagger
