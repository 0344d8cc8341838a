/-
Bare months in the news. A month without a year is placed in the year of the creation date, and the tense around it may
move it by one year, so that it lies in the twelve months up to the creation date or in the twelve from it on. Main
facts: `exists_yearByTense` and `resolvePlaceholders_bareMonth`.
-/
import TemporalTagger.Proofs.Calendar.Succession
import TemporalTagger.Proofs.Context.Chains
import TemporalTagger.Proofs.Context.Dependence

namespace TemporalTagger

open Text

/-- The tense around an expression in the first sentence that holds it. -/
def Tense.inDocument (sentences : List Sentence) (language : Language) (e : TimeExpression) : Option Tense :=
  (sentences.find? (·.containsSpan e.span)).bind fun s => around e s language

/-- Where a month may lie that is spoken of in a tense: in the past among the twelve months that end with the one of the
date, else among the twelve that begin with it. Without a tense it is one of the year of the date. -/
def Date.HasInWindow (date : Date) (tense : Option Tense) (y m : Int) : Prop :=
  match tense with
  | some .past => 12 * y + m ≤ 12 * date.year + date.month ∧ 12 * date.year + date.month ≤ 12 * y + m + 11
  | some .future | some .presentFuture =>
    12 * date.year + date.month ≤ 12 * y + m ∧ 12 * y + m ≤ 12 * date.year + date.month + 11
  | none => y = date.year

theorem CalendarUnit.shift?_year {y z : Nat} {n : Int} (hy : y < 10000) (hz : z < 10000) (h : (z : Int) = y + n) :
    year.shift? (padded 4 y) n = some (padded 4 z) := by
  have hspells : year.Spells (padded 4 y).toList y := ⟨y, isNumeral_padded (by decide) hy, rfl⟩
  rw [shift?_eq_some_iff_spells hspells, ← h]
  exact ⟨z, isNumeral_padded (by decide) hz, rfl⟩

namespace Placeholder

/-- A plain year keeps the text after it, if that is on one line. -/
theorem parse?_plain_year {value rest : String} (h : value = "UNDEF-year" ++ rest) (hline : '\n' ∉ rest.toList) :
    parse? value = some (.plain .year rest.toList) := by
  have hcs : value.toList = "UNDEF-".toList ++ ("year".toList ++ rest.toList) := by
    rw [h, String.toList_append]
    rfl
  have hplain : plain? ("year".toList ++ rest.toList) =
      (oneLine rest.toList).bind fun rest => some (.plain .year rest) := rfl
  rw [parse?, hcs, after?_append, Option.bind_eq_bind, Option.bind_some]
  show (counted? _ <|> relative? _ <|> plain? _) = _
  rw [show counted? ("year".toList ++ rest.toList) = none from rfl,
    show relative? ("year".toList ++ rest.toList) = none from rfl, hplain, oneLine_eq_some_iff.2 ⟨hline, rfl⟩]
  rfl

end Placeholder

namespace Resolution

variable {date : Date} {m : Nat}

theorem leadingMonth?_append (hm : m < 100) (rest : List Char) :
    leadingMonth? ('-' :: ((padded 2 m).toList ++ rest)) = some m := by
  have hms : IsNumeral 2 m (padded 2 m).toList := isNumeral_padded (by decide) hm
  have hshape : Mention.HasShape (.exactly '-' :: Mention.digits 2) ('-' :: (padded 2 m).toList) :=
    .cons (by decide) (Mention.hasShape_digits hms)
  rw [leadingMonth?, ← List.cons_append, Mention.front?_of_hasShape hshape, Option.map_some]
  exact congrArg some hms.value

/-- The year that a tense makes of the year of the date puts the month in its window. -/
theorem exists_yearByTense (hyear : 1 ≤ date.year ∧ date.year ≤ 9998) (tense : Option Tense)
    (hm : 1 ≤ m ∧ m ≤ 12) :
    ∃ y : Nat, y < 10000 ∧ yearByTense date tense m (CalendarUnit.year.format date) = padded 4 y ∧
      date.HasInWindow tense y m := by
  have hmonth := date.month_bounds
  obtain ⟨y, hy⟩ := Int.eq_ofNat_of_zero_le (show 0 ≤ date.year by omega)
  have hmoved : ∀ (amount : Int) (z : Nat), amount ≠ 0 → z < 10000 → (z : Int) = y + amount →
      (if amount = 0 then padded 4 y else (CalendarUnit.year.shift? (padded 4 y) amount).getD (padded 4 y)) =
        padded 4 z := by
    intro amount z hne hz hsum
    rw [if_neg hne, CalendarUnit.shift?_year (by omega) hz hsum, Option.getD_some]
  simp only [yearByTense, CalendarUnit.format, Date.HasInWindow, hy]
  cases tense with
  | none => exact ⟨y, by omega, rfl, rfl⟩
  | some tense =>
    cases tense with
    | past =>
      by_cases hlater : date.month < m
      · refine ⟨y - 1, by omega, ?_, by omega, by omega⟩
        simp only [hlater, if_true]
        exact hmoved (-1) (y - 1) (by decide) (by omega) (by omega)
      · refine ⟨y, by omega, ?_, by omega, by omega⟩
        simp only [hlater, if_false, if_true]
    | future | presentFuture =>
      by_cases hearlier : (m : Int) < date.month
      · refine ⟨y + 1, by omega, ?_, by omega, by omega⟩
        simp only [hearlier, if_true]
        exact hmoved 1 (y + 1) (by decide) (by omega) (by omega)
      · refine ⟨y, by omega, ?_, by omega, by omega⟩
        simp only [hearlier, if_false, if_true]

theorem value?_plain_year (sentences : List Sentence) (language : Language) (earlier : List TimeExpression)
    (e : TimeExpression) (rest : List Char) :
    value? ⟨.news, some date⟩ sentences language earlier e (.plain .year rest) =
      some (adjustYear ⟨.news, some date⟩ sentences language e rest (CalendarUnit.year.format date) ++
        String.ofList rest) := by
  rw [value?, value?.anchor?, DocumentContext.newsDate?]
  rfl

/-- A bare month of the news goes by the tense in the first sentence that holds it. -/
theorem adjustYear_bareMonth (hm : m < 100) (sentences : List Sentence) (language : Language) (e : TimeExpression)
    (rest : List Char) (year : String) :
    adjustYear ⟨.news, some date⟩ sentences language e ('-' :: ((padded 2 m).toList ++ rest)) year =
      yearByTense date (Tense.inDocument sentences language e) m year := by
  unfold adjustYear Tense.inDocument
  rw [leadingMonth?_append hm]
  cases sentences.find? (·.containsSpan e.span) <;> rfl

end Resolution

/-- In the news of a day of the years 1 to 9998 a bare month always gets a year, and the tense of the first sentence
that holds it says where it lies: up to eleven months back in the past, up to eleven months on otherwise, and in the
year of that day without a tense. -/
theorem resolvePlaceholders_bareMonth {date : Date} (hyear : 1 ≤ date.year ∧ date.year ≤ 9998)
    (sentences : List Sentence) (language : Language) {es : List TimeExpression} {e : TimeExpression} {i m : Nat}
    {rest : String} (he : es[i]? = some e) (hm : 1 ≤ m ∧ m ≤ 12) (hline : '\n' ∉ rest.toList)
    (hvalue : e.value = "UNDEF-year-" ++ padded 2 m ++ rest) :
    ∃ y : Nat, y < 10000 ∧
      (resolvePlaceholders ⟨.news, some date⟩ sentences language es)[i]? =
        some { e with value := padded 4 y ++ "-" ++ padded 2 m ++ rest } ∧
      date.HasInWindow (Tense.inDocument sentences language e) y m := by
  obtain ⟨y, hy, hyears, hwindow⟩ :=
    Resolution.exists_yearByTense hyear (Tense.inDocument sentences language e) hm
  refine ⟨y, hy, ?_, hwindow⟩
  have hrest : ("-" ++ padded 2 m ++ rest).toList = '-' :: ((padded 2 m).toList ++ rest.toList) := by
    simp
  have hkept : '\n' ∉ ("-" ++ padded 2 m ++ rest).toList := by
    rw [hrest, List.mem_cons, List.mem_append]
    rintro (h | h | h)
    · cases h
    · exact absurd (isDigit_of_mem_padded h) (by decide)
    · exact hline h
  have hparse : Placeholder.parse? e.value = some (.plain .year ('-' :: ((padded 2 m).toList ++ rest.toList))) := by
    rw [← hrest]
    exact Placeholder.parse?_plain_year (by rw [hvalue]; simp [← String.append_assoc]) hkept
  have hresolved : Resolution.resolveOne ⟨.news, some date⟩ sentences language [] e =
      { e with value := padded 4 y ++ "-" ++ padded 2 m ++ rest } := by
    have hplain : Resolution.value? ⟨.news, some date⟩ sentences language [] e
        (.plain .year ('-' :: ((padded 2 m).toList ++ rest.toList))) =
          some (padded 4 y ++ String.ofList ('-' :: ((padded 2 m).toList ++ rest.toList))) := by
      rw [Resolution.value?_plain_year, Resolution.adjustYear_bareMonth (by omega), hyears]
    rw [Resolution.resolveOne, hparse, Option.bind_some, hplain, ← hrest, String.ofList_toList]
    simp only [String.append_assoc]
  rw [resolvePlaceholders, Resolution.resolveFrom_of_newsDate?_eq_some sentences language rfl, List.getElem?_map, he,
    Option.map_some, hresolved]

/-- In March of 2010 something that goes on since May does so since the May before. -/
theorem resolvePlaceholders_bareMonth_since :
    (1 ≤ (Date.ofMonth 2010 3 14).year ∧ (Date.ofMonth 2010 3 14).year ≤ 9998) ∧
      [mentionAt "UNDEF-year-05-1" 6][0]? = some (mentionAt "UNDEF-year-05-1" 6) ∧ (1 ≤ 5 ∧ 5 ≤ 12) ∧
      '\n' ∉ "-1".toList ∧ (mentionAt "UNDEF-year-05-1" 6).value = "UNDEF-year-" ++ padded 2 (5 : Nat) ++ "-1" ∧
      Tense.inDocument [⟨"since May 1", 0, [⟨⟨0, 5⟩, some "IN"⟩]⟩] .english (mentionAt "UNDEF-year-05-1" 6) =
        some .past ∧
      (resolvePlaceholders ⟨.news, some (.ofMonth 2010 3 14)⟩ [⟨"since May 1", 0, [⟨⟨0, 5⟩, some "IN"⟩]⟩] .english
        [mentionAt "UNDEF-year-05-1" 6])[0]? = some (mentionAt "2009-05-1" 6) := by
  have hyear : 1 ≤ (Date.ofMonth 2010 3 14).year ∧ (Date.ofMonth 2010 3 14).year ≤ 9998 := by decide
  have hget : [mentionAt "UNDEF-year-05-1" 6][0]? = some (mentionAt "UNDEF-year-05-1" 6) := rfl
  have hvalue : (mentionAt "UNDEF-year-05-1" 6).value = "UNDEF-year-" ++ padded 2 (5 : Nat) ++ "-1" := by decide +kernel
  have htense : Tense.inDocument [⟨"since May 1", 0, [⟨⟨0, 5⟩, some "IN"⟩]⟩] .english
      (mentionAt "UNDEF-year-05-1" 6) = some .past := by
    decide +kernel
  obtain ⟨y, hy, hresolved, hwindow⟩ := resolvePlaceholders_bareMonth hyear
    [⟨"since May 1", 0, [⟨⟨0, 5⟩, some "IN"⟩]⟩] .english hget (by decide : 1 ≤ 5 ∧ 5 ≤ 12) (by decide) hvalue
  rw [htense] at hwindow
  obtain ⟨hlo, hhi⟩ := hwindow
  rw [show (Date.ofMonth 2010 3 14).year = 2010 by decide, show (Date.ofMonth 2010 3 14).month = 3 by decide] at hlo hhi
  obtain rfl : y = 2009 := by omega
  refine ⟨hyear, hget, by decide, by decide, hvalue, htense, hresolved.trans ?_⟩
  decide +kernel

end TemporalTagger
