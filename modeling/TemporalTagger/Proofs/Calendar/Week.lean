/-
Weeks of a year. The weeks of a year are those whose Thursday lies in it; counted from the first one,
each Monday is the Monday of the week that it is said to be in, and the other way round. Main facts:
`ofIsoWeek?_self` and `fields_of_ofIsoWeek?`.
-/
import TemporalTagger.Proofs.Calendar.Date

namespace TemporalTagger.Date

theorem weekday_bounds (d : Date) : 0 ≤ d.weekday ∧ d.weekday < 7 := by unfold weekday; omega

/-- The first Thursday of a year, in the week with 4 January. -/
theorem firstMonday_bounds (y : Int) :
    newYear y ≤ (firstMonday y).days + 3 ∧ (firstMonday y).days + 3 < newYear y + 7 ∧
      (firstMonday y).days % 7 = 5 := by
  have h := ofMonth_january y 3
  unfold firstMonday monday weekday
  dsimp only
  omega

/-- A Monday is in the week of its Thursday. -/
theorem thursday_monday {d : Date} (h : d.days % 7 = 5) : d.thursday.days = d.days + 3 := by
  unfold thursday monday weekday
  dsimp only
  omega

/-- The Monday of a week of a year is known by the Thursday three days later. -/
theorem ofIsoWeek?_eq_some_iff {y w : Int} {d : Date} :
    ofIsoWeek? y w = some d ↔ d.days % 7 = 5 ∧ newYear y ≤ d.days + 3 ∧ d.days + 3 < newYear (y + 1) ∧
      w = (d.days + 3 - newYear y) / 7 + 1 := by
  have hfirst := firstMonday_bounds y
  have hnext := firstMonday_bounds (y + 1)
  unfold ofIsoWeek? weeksInYear
  constructor
  · intro h
    split at h
    · obtain rfl := Option.some.inj h
      dsimp only
      omega
    · cases h
  · rintro ⟨hmonday, hlo, hhi, rfl⟩
    rw [if_pos (by omega)]
    refine congrArg some (congrArg Date.mk ?_)
    omega

theorem isoYear_monday {d : Date} (h : d.days % 7 = 5) {y : Int} :
    d.isoYear = y ↔ newYear y ≤ d.days + 3 ∧ d.days + 3 < newYear (y + 1) := by
  rw [isoYear, year_eq_iff, thursday_monday h]

/-- A Monday is that of its week. -/
theorem ofIsoWeek?_self {d : Date} (h : d.days % 7 = 5) : ofIsoWeek? d.isoYear d.isoWeek = some d := by
  obtain ⟨hlo, hhi⟩ := (isoYear_monday h).1 rfl
  rw [ofIsoWeek?_eq_some_iff]
  refine ⟨h, hlo, hhi, ?_⟩
  rw [isoWeek, thursday_monday h, ofMonth_january, Int.add_zero]

/-- The Monday of a week that a year has is in that week of that year. -/
theorem fields_of_ofIsoWeek? {y w : Int} {d : Date} (h : ofIsoWeek? y w = some d) :
    d.days % 7 = 5 ∧ d.isoYear = y ∧ d.isoWeek = w := by
  obtain ⟨hmonday, hlo, hhi, hw⟩ := ofIsoWeek?_eq_some_iff.1 h
  have hyear := (isoYear_monday hmonday).2 ⟨hlo, hhi⟩
  refine ⟨hmonday, hyear, ?_⟩
  rw [isoWeek, thursday_monday hmonday, hyear, ofMonth_january, Int.add_zero, hw]

/-- No year has more than 53 weeks. -/
theorem isoWeek_bounds (d : Date) : 1 ≤ d.isoWeek ∧ d.isoWeek ≤ 53 := by
  obtain ⟨hlo, hhi⟩ := @year_spec d.thursday
  have hlong : newYear (d.thursday.year + 1) ≤ newYear d.thursday.year + 366 := by
    have := daysBeforeYear_succ (d.thursday.year - 1)
    unfold newYear
    rw [show d.thursday.year + 1 - 1 = d.thursday.year - 1 + 1 by omega]
    split at this <;> omega
  unfold isoWeek isoYear
  rw [ofMonth_january]
  omega

end TemporalTagger.Date
