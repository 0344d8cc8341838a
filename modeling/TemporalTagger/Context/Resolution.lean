/-
Placeholders in values and what they stand for. A value such as `UNDEF-next-month` is anchored on
the creation date of a news document, and else on the last mention before it; placeholders are
resolved from left to right, so each sees what the ones before it became.
-/
import TemporalTagger.Context.Mention
import TemporalTagger.Context.Tense

namespace TemporalTagger

open Text

/-- Whether expressions are read against the creation date of a document or against what it
mentions. -/
inductive DocumentType
  | news
  | narrative
  deriving DecidableEq, Repr

namespace DocumentType

def name : DocumentType → String
  | news => "news"
  | narrative => "narrative"

/-- The type of a name, in any case and with whitespace around it. -/
def ofText (s : String) : Except TaggerError DocumentType :=
  match String.ofList ((trimChars s.toList).map Char.toLower) with
  | "news" => .ok news
  | "narrative" | "narratives" => .ok narrative
  | _ => .error (.unknownDocumentType s)

end DocumentType

/-- What resolution knows of a document beside its text. -/
structure DocumentContext where
  documentType : DocumentType := .narrative
  creationDate : Option Date := none

/-- The date that anchors a news document. -/
def DocumentContext.newsDate? (c : DocumentContext) : Option Date :=
  match c.documentType with
  | .news => c.creationDate
  | .narrative => none

/-! ## Placeholders -/

/-- What a placeholder asks for: the reference date itself, an anchor moved by a number of units,
or an anchor alone. In each case the text that follows is kept. -/
inductive Placeholder
  | reference (rest : List Char)
  | moved (u : CalendarUnit) (amount : Int) (rest : List Char)
  | plain (u : CalendarUnit) (rest : List Char)

namespace Placeholder

/-- Reads the name of one of the given units. -/
def unit? (units : List CalendarUnit) (cs : List Char) : Option (CalendarUnit × List Char) :=
  units.findSome? fun u => (after? u.name.toList cs).map (u, ·)

/-- Reads one of the given words, each of which stands for a value. -/
def word? {α : Type} (words : List (String × α)) (cs : List Char) : Option (α × List Char) :=
  words.findSome? fun (w, a) => (after? w.toList cs).map (a, ·)

/-- Text on one line. -/
def oneLine (cs : List Char) : Option (List Char) := if cs.contains '\n' then none else some cs

/-- Reads `REF-unit-PLUS-n` or `REF-unit-MINUS-n`. -/
def counted? (cs : List Char) : Option Placeholder := do
  let (u, rest) ← unit? CalendarUnit.all (← after? "REF-".toList cs)
  let (sign, rest) ← word? [("-PLUS-", (1 : Int)), ("-MINUS-", -1)] rest
  let digits := rest.takeWhile Char.isDigit
  let rest ← oneLine (rest.dropWhile Char.isDigit)
  if digits.isEmpty then none else some (.moved u (sign * digitsValue digits) rest)

/-- Reads `this-unit`, `last-unit` or `next-unit`. -/
def relative? (cs : List Char) : Option Placeholder := do
  let (amount, rest) ← word? [("this-", (0 : Int)), ("last-", -1), ("next-", 1)] cs
  let (u, rest) ← unit? CalendarUnit.all rest
  some (.moved u amount (← oneLine rest))

/-- Reads a unit that is anchored as it is: a century, a decade or a year. -/
def plain? (cs : List Char) : Option Placeholder := do
  let (u, rest) ← unit? [.century, .decade, .year] cs
  some (.plain u (← oneLine rest))

/-- The placeholder that a value is. -/
def parse? (value : String) : Option Placeholder := do
  let cs ← after? "UNDEF-".toList value.toList
  match after? "REFDATE".toList cs with
  | some rest => some (.reference rest)
  | none => counted? cs <|> relative? cs <|> plain? cs

end Placeholder

/-! ## Resolution -/

namespace Resolution

/-- The two-digit month that a text begins with, after a hyphen. -/
def leadingMonth? (rest : List Char) : Option Nat :=
  (Mention.front? (.exactly '-' :: Mention.digits 2) rest).map fun (m, _) => digitsValue (m.drop 1)

/-- The year of a bare month in the news. In the past a month later in the year than the creation
date is one of the year before; in the future an earlier one is of the year after. -/
def yearByTense (date : Date) (tense : Option Tense) (month : Nat) (year : String) : String :=
  let amount : Int :=
    match tense with
    | some .past => if date.month < month then -1 else 0
    | some _ => if month < date.month then 1 else 0
    | none => 0
  if amount = 0 then year else (CalendarUnit.year.shift? year amount).getD year

/-- Moves the year of a plain placeholder by the tense around it, where that applies. -/
def adjustYear (context : DocumentContext) (sentences : List Sentence) (language : Language)
    (e : TimeExpression) (rest : List Char) (year : String) : String :=
  match context.newsDate?, leadingMonth? rest, sentences.find? (·.containsSpan e.span) with
  | some date, some month, some s => yearByTense date (Tense.around e s language) month year
  | _, _, _ => year

/-- What a placeholder stands for; none if it cannot be anchored. `earlier` are the expressions
before it, the most recent one first. -/
def value? (context : DocumentContext) (sentences : List Sentence) (language : Language)
    (earlier : List TimeExpression) (e : TimeExpression) : Placeholder → Option String
  | .reference rest =>
    let date := (context.newsDate?.map CalendarUnit.day.format).getD "PRESENT_REF"
    some (date ++ String.ofList rest)
  | .moved u amount rest => do
    some ((← u.shift? (← anchor? u) amount) ++ String.ofList rest)
  | .plain u rest => do
    let found ← anchor? u
    let year := if u = .year then adjustYear context sentences language e rest found else found
    some (year ++ String.ofList rest)
where
  /-- The anchor of a unit: the creation date of news, else the last mention. -/
  anchor? (u : CalendarUnit) : Option String :=
    match context.newsDate? with
    | some date => some (u.format date)
    | none => Mention.search (some e.span.start) (Granularity.ofUnit u) earlier

/-- An expression with its placeholder resolved, if it has one that can be. -/
def resolveOne (context : DocumentContext) (sentences : List Sentence) (language : Language)
    (earlier : List TimeExpression) (e : TimeExpression) : TimeExpression :=
  match (Placeholder.parse? e.value).bind (value? context sentences language earlier e) with
  | some value => { e with value := value }
  | none => e

/-- Resolves expressions in order; `earlier` are those already done, the last one first. -/
def resolveFrom (context : DocumentContext) (sentences : List Sentence) (language : Language) :
    (earlier : List TimeExpression) → List TimeExpression → List TimeExpression
  | _, [] => []
  | earlier, e :: rest =>
    let e := resolveOne context sentences language earlier e
    e :: resolveFrom context sentences language (e :: earlier) rest

end Resolution

/-- Resolves the placeholders of a document. The expressions come in order of their starts. -/
def resolvePlaceholders (context : DocumentContext) (sentences : List Sentence)
    (language : Language) (expressions : List TimeExpression) : List TimeExpression :=
  Resolution.resolveFrom context sentences language [] expressions

end TemporalTagger
