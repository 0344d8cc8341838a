/-
The shapes of date values, as expressions that the values match as a whole, and the slips of the
bundled rules: the captured texts that they turn into values of no shape.
-/
import TemporalTagger.Language.Basic
import TemporalTagger.Proofs.Regex.Matching
import TemporalTagger.Text.Number

namespace TemporalTagger

/-! ## Building shapes -/

namespace Regex

/-- Just the given characters. -/
def literalChars (cs : List Char) : Regex := catAll (cs.map fun c => set (.single c))

/-- Just the given text; its characters are found by unification. -/
def literal (s : String) {cs : List Char} (_ : s = String.ofList cs := by rfl) : Regex := literalChars cs

/-- One character from a range. -/
def between (lo hi : Char) : Regex := set (.range lo.toNat hi.toNat)

/-- One of several expressions. -/
def oneOf : List Regex → Regex
  | [] => set .empty
  | [r] => r
  | r :: rs => alt r (oneOf rs)

theorem matches_oneOf {t : List Char} : ∀ {rs : List Regex}, (oneOf rs).Matches t ↔ ∃ r ∈ rs, r.Matches t
  | [] => by
    refine ⟨fun h => ?_, fun ⟨r, hr, _⟩ => absurd hr List.not_mem_nil⟩
    cases h with
    | set h => cases h
  | [r] => by simp [oneOf]
  | r :: s :: rs => by
    rw [List.exists_mem_cons_iff, ← matches_oneOf, show oneOf (r :: s :: rs) = alt r (oneOf (s :: rs)) from rfl]
    constructor
    · intro h
      cases h with
      | left h => exact Or.inl h
      | right h => exact Or.inr h
    · exact fun h => h.elim .left .right

theorem matches_literalChars : ∀ cs : List Char, (literalChars cs).Matches cs
  | [] => .empty
  | [_] => .set (CharSet.holds_single_iff.2 rfl)
  | _ :: c :: cs => .cat (.set (CharSet.holds_single_iff.2 rfl)) (matches_literalChars (c :: cs))

end Regex

/-! ## Shapes -/

namespace DateValue

open Regex

def digit : Regex := between '0' '9'
def year : Regex := exactly digit 4
def month : Regex := oneOf [cat (literal "0") (between '1' '9'), cat (literal "1") (between '0' '2')]
def day : Regex :=
  oneOf [cat (literal "0") (between '1' '9'), cat (between '1' '2') digit, cat (literal "3") (between '0' '1')]
def quarter : Regex := cat (literal "Q") (between '1' '4')
def season : Regex := oneOf [literal "SP", literal "SU", literal "FA", literal "WI"]
def unit : Regex :=
  oneOf [literal "century", literal "decade", literal "year", literal "quarter", literal "month", literal "week",
    literal "day"]
def relation : Regex := oneOf [literal "this", literal "last", literal "next"]
def direction : Regex := oneOf [literal "PLUS", literal "MINUS"]

/-- The shapes: centuries, decades and years, parts of a year, dates, references to the present, the
past and the future, and values that depend on context. -/
def shapes : List Regex :=
  [exactly digit 2,
   exactly digit 3,
   year,
   catAll [year, literal "-", quarter],
   catAll [year, literal "-", season],
   catAll [year, literal "-", month],
   catAll [year, literal "-", month, literal "-", day],
   literal "PRESENT_REF",
   literal "PAST_REF",
   literal "FUTURE_REF",
   catAll [literal "UNDEF-year-", month],
   catAll [literal "UNDEF-year-", month, literal "-", day],
   catAll [literal "UNDEF-year-", quarter],
   catAll [literal "UNDEF-year-", season],
   catAll [literal "UNDEF-", relation, literal "-", unit, opt (cat (literal "-") season) true],
   catAll [literal "UNDEF-REF-", unit, literal "-", direction, literal "-", plus digit true]]

/-- A value has one of the shapes. -/
def WellFormed (value : String) : Prop := ∃ shape ∈ shapes, shape.Matches value.toList

/-! ## Slips -/

/-- What goes wrong with a captured text. -/
inductive Slip
  | tenthCentury
  | wrongOrdinal
  | separator
  deriving DecidableEq

/-- The ending of an ordinal number. -/
def ordinalEnding (n : Nat) : List Char :=
  if 11 ≤ n % 100 ∧ n % 100 ≤ 13 then ['t', 'h']
  else
    match n % 10 with
    | 1 => ['s', 't']
    | 2 => ['n', 'd']
    | 3 => ['r', 'd']
    | _ => ['t', 'h']

/-- The Mongolian vowel separator, which rules take for whitespace and templates do not. -/
def separator : Char := '\u180E'

namespace Slip

/-- Whether a captured text slips: one less than the tenth century is a single digit, a day with the
ending of another one is in no table, and neither is a phrase with a separator in it. -/
def holds : Slip → List Char → Bool
  | tenthCentury, t => t == ['1', '0']
  | wrongOrdinal, t =>
    let ending := t.dropWhile Char.isDigit
    !ending.isEmpty && ending != ordinalEnding (Text.digitsValue (t.takeWhile Char.isDigit))
  | separator, t => t.contains DateValue.separator

end Slip

/-- The group of a date rule that can slip, and how. -/
def slip? : Language → String → Option (Nat × Slip)
  | .english, "date_r2a" => some (2, .wrongOrdinal)
  | .english, "date_r3a" => some (1, .wrongOrdinal)
  | .english, "date_r4a" => some (2, .wrongOrdinal)
  | .english, "date_r4b" => some (1, .wrongOrdinal)
  | .english, "date_r17a" => some (1, .tenthCentury)
  | .german, "date_r17a" => some (1, .tenthCentury)
  | .french, "date_r20a" => some (1, .separator)
  | _, _ => none

end DateValue

end TemporalTagger
