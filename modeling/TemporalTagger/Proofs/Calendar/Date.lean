/-
Days and their years, months and days of the month. A year from March to February is a range of days,
so is a year from January to December, and a month is a range of days in a year that starts in March;
a day is what its year, month and day of the month say, and the other way round. Main facts:
`year_eq_iff`, `ofYmd?_self` and `ofMonth_fields`.
-/
import TemporalTagger.Calendar.Date
import Mathlib.Tactic

namespace TemporalTagger.Date

/-! ## Years from March to February -/

/-- After 400 years the calendar repeats. -/
theorem daysBeforeYear_cycle (q y : Int) : daysBeforeYear (400 * q + y) = 146097 * q + daysBeforeYear y := by
  unfold daysBeforeYear; omega

theorem daysBeforeYear_lt {y z : Int} (h : y < z) : daysBeforeYear y + 365 ≤ daysBeforeYear z := by
  unfold daysBeforeYear; omega

theorem daysBeforeYear_mono {y z : Int} (h : y ≤ z) : daysBeforeYear y ≤ daysBeforeYear z := by
  rcases h.lt_or_eq with h | rfl
  · have := daysBeforeYear_lt h; omega
  · exact le_rfl

theorem isLeap_iff (y : Int) : isLeap y = true ↔ y % 4 = 0 ∧ (y % 100 ≠ 0 ∨ y % 400 = 0) := by
  simp [isLeap]

/-- The days of a year that starts in March; its last February is that of the year after. -/
theorem daysBeforeYear_succ (y : Int) :
    daysBeforeYear (y + 1) = daysBeforeYear y + 337 + if isLeap (y + 1) = true then 29 else 28 := by
  simp only [isLeap_iff, daysBeforeYear]
  split <;> omega

/-- The year of a day in a cycle. Apart from the last day of the cycle, each year is one of the four
that follow a multiple of four, or the one before. -/
theorem yearOfCycle_spec {n : Int} (h₀ : 0 ≤ n) (h₁ : n < 146097) :
    let y := (n - n / 1460 + n / 36524 - n / 146096) / 365
    daysBeforeYear y ≤ n ∧ n < daysBeforeYear (y + 1) := by
  intro y
  by_cases hlast : n = 146096
  · subst hlast; decide
  unfold daysBeforeYear
  have hcentury : n / 36524 = 0 ∨ n / 36524 = 1 ∨ n / 36524 = 2 ∨ n / 36524 = 3 := by omega
  obtain ⟨c, hc⟩ : ∃ c, c = n / 1460 := ⟨_, rfl⟩
  have hy : y = (n - c + n / 36524) / 365 := by
    have : n / 146096 = 0 := by omega
    simp only [y, this, hc]; omega
  clear_value y
  have hcases : y = 4 * c - 1 ∨ y = 4 * c ∨ y = 4 * c + 1 ∨ y = 4 * c + 2 ∨ y = 4 * c + 3 := by omega
  have hhundred : y / 100 = n / 36524 := by
    rcases hcentury with hg | hg | hg | hg <;> omega
  rcases hcentury with hg | hg | hg | hg <;> rw [hg] at hy hhundred <;>
    rcases hcases with rfl | rfl | rfl | rfl | rfl <;> omega

variable (d : Date)

theorem daysBeforeYear_marchYear : daysBeforeYear d.marchYear ≤ d.days ∧ d.days < daysBeforeYear (d.marchYear + 1) := by
  have hspec := yearOfCycle_spec (n := d.days % 146097) (by omega) (by omega)
  have hdays : d.days = 146097 * (d.days / 146097) + d.days % 146097 := by omega
  rw [marchYear, Int.add_assoc, daysBeforeYear_cycle, daysBeforeYear_cycle]
  simp only [yearOfCycle, dayOfCycle] at hspec ⊢
  omega

variable {d}

theorem marchYear_eq_iff {y : Int} :
    d.marchYear = y ↔ daysBeforeYear y ≤ d.days ∧ d.days < daysBeforeYear (y + 1) := by
  have hspec := daysBeforeYear_marchYear d
  constructor
  · rintro rfl; exact hspec
  · rintro ⟨hlo, hhi⟩
    rcases lt_trichotomy d.marchYear y with h | h | h
    · have := daysBeforeYear_mono (show d.marchYear + 1 ≤ y by omega); omega
    · exact h
    · have := daysBeforeYear_mono (show y + 1 ≤ d.marchYear by omega); omega

/-! ## Months from March to February -/

variable (d)

theorem dayFromMarch_bounds :
    0 ≤ d.dayFromMarch ∧ d.dayFromMarch < 337 + if isLeap (d.marchYear + 1) = true then 29 else 28 := by
  have hspec := daysBeforeYear_marchYear d
  rw [daysBeforeYear_succ] at hspec
  unfold dayFromMarch
  omega

theorem monthFromMarch_bounds : 0 ≤ d.monthFromMarch ∧ d.monthFromMarch ≤ 11 := by
  have := dayFromMarch_bounds d
  unfold monthFromMarch
  split at this <;> omega

/-- A month is a range of the days since March. -/
theorem daysBeforeMonth_monthFromMarch :
    daysBeforeMonth d.monthFromMarch ≤ d.dayFromMarch ∧
      d.dayFromMarch < daysBeforeMonth (d.monthFromMarch + 1) := by
  have := (dayFromMarch_bounds d).1
  unfold monthFromMarch daysBeforeMonth
  omega

/-! ## Years from January to December -/

/-- The first of January, as days since March of the year 0. -/
def newYear (year : Int) : Int := daysBeforeYear (year - 1) + 306

theorem ofMonth_january (year days : Int) : (ofMonth year 1 days).days = newYear year + days := rfl

theorem newYear_mono {y z : Int} (h : y ≤ z) : newYear y ≤ newYear z := by
  have := daysBeforeYear_mono (show y - 1 ≤ z - 1 by omega)
  unfold newYear; omega

variable {d}

theorem year_spec : newYear d.year ≤ d.days ∧ d.days < newYear (d.year + 1) := by
  have hmonth : d.monthFromMarch = (5 * d.dayFromMarch + 2) / 153 := rfl
  have hday : d.dayFromMarch = d.days - daysBeforeYear d.marchYear := rfl
  have hspec := daysBeforeYear_marchYear d
  have hnext := daysBeforeYear_lt (show d.marchYear - 1 < d.marchYear by omega)
  have hnext' := daysBeforeYear_lt (show d.marchYear < d.marchYear + 1 by omega)
  unfold year newYear
  split
  · rw [show d.marchYear + 1 - 1 = d.marchYear by omega]; omega
  · rw [show d.marchYear + 1 - 1 = d.marchYear by omega, show d.marchYear + 1 + 1 - 1 = d.marchYear + 1 by omega]
    omega

/-- A year is a range of days. -/
theorem year_eq_iff {y : Int} : d.year = y ↔ newYear y ≤ d.days ∧ d.days < newYear (y + 1) := by
  constructor
  · rintro rfl; exact year_spec
  · rintro ⟨hlo, hhi⟩
    have hspec := @year_spec d
    rcases lt_trichotomy d.year y with h | h | h
    · have := newYear_mono (show d.year + 1 ≤ y by omega); omega
    · exact h
    · have := newYear_mono (show y + 1 ≤ d.year by omega); omega

theorem year_le_iff {y : Int} : d.year ≤ y ↔ d.days < newYear (y + 1) := by
  have hspec := @year_spec d
  constructor
  · intro h
    have := newYear_mono (show d.year + 1 ≤ y + 1 by omega); omega
  · intro h
    by_contra hlt
    have := newYear_mono (show y + 1 ≤ d.year by omega); omega

theorem le_year_iff {y : Int} : y ≤ d.year ↔ newYear y ≤ d.days := by
  have := @year_le_iff d (y - 1)
  rw [show y - 1 + 1 = y by omega] at this
  omega

/-! ## Days of the month -/

variable (d)

theorem month_bounds : 1 ≤ d.month ∧ d.month ≤ 12 := by
  have := monthFromMarch_bounds d
  unfold month
  split <;> omega

theorem daysInMonth_le (y m : Int) : daysInMonth y m ≤ 31 := by
  unfold daysInMonth
  split_ifs <;> omega

/-- The months from March on have the days up to the next one, but for February. -/
theorem daysInMonth_fromMarch (y : Int) {m : Int} (h : 0 ≤ m ∧ m ≤ 11) :
    daysInMonth (if m < 10 then y else y + 1) (if m < 10 then m + 3 else m - 9) =
      if m = 11 then if isLeap (y + 1) = true then 29 else 28
      else daysBeforeMonth (m + 1) - daysBeforeMonth m := by
  obtain ⟨hlo, hhi⟩ := h
  interval_cases m <;> simp [daysInMonth, daysBeforeMonth]

theorem day_bounds : 1 ≤ d.day ∧ d.day ≤ daysInMonth d.year d.month := by
  have hmonth := monthFromMarch_bounds d
  have hday := daysBeforeMonth_monthFromMarch d
  have hyear := dayFromMarch_bounds d
  unfold day month year
  rw [daysInMonth_fromMarch _ hmonth]
  refine ⟨by omega, ?_⟩
  split
  next h =>
    rw [h, daysBeforeMonth]
    omega
  next => omega

/-- The date of a month is that of the year and the month that are counted from March. -/
theorem ofMonth_fromMarch (days : Int) :
    ofMonth d.year d.month days = ⟨daysBeforeYear d.marchYear + daysBeforeMonth d.monthFromMarch + days⟩ := by
  obtain ⟨hlo, hhi⟩ := monthFromMarch_bounds d
  unfold ofMonth month year
  by_cases h : d.monthFromMarch < 10
  · have hlate : ¬ d.monthFromMarch + 3 ≤ 2 := by omega
    simp only [h, hlate, if_true, if_false, Int.add_sub_cancel]
  · have hearly : d.monthFromMarch - 9 ≤ 2 := by omega
    simp only [h, hearly, if_true, if_false, Int.add_sub_cancel, Int.sub_add_cancel]

theorem ofMonth_self : ofMonth d.year d.month (d.day - 1) = d := by
  rw [ofMonth_fromMarch]
  apply congrArg Date.mk
  unfold day dayFromMarch
  omega

/-- A day is the day of its year, month and day of the month. -/
theorem ofYmd?_self (h : minYear ≤ d.year ∧ d.year ≤ maxYear) : ofYmd? d.year d.month d.day = some d := by
  have hmonth := month_bounds d
  have hday := day_bounds d
  rw [ofYmd?, if_pos ⟨h.1, h.2, hmonth.1, hmonth.2, hday.1, hday.2⟩, ofMonth_self]

/-- A day of a month has that year, that month and its place in it. -/
theorem ofMonth_fields {y m k : Int} (hm : 1 ≤ m ∧ m ≤ 12) (hk : 0 ≤ k ∧ k < daysInMonth y m) :
    (ofMonth y m k).year = y ∧ (ofMonth y m k).month = m ∧ (ofMonth y m k).day = k + 1 := by
  obtain ⟨y', m', hd, rfl, rfl, hm'⟩ : ∃ y' m', ofMonth y m k = ⟨daysBeforeYear y' + daysBeforeMonth m' + k⟩ ∧
      (if m' < 10 then y' else y' + 1) = y ∧ (if m' < 10 then m' + 3 else m' - 9) = m ∧ 0 ≤ m' ∧ m' ≤ 11 := by
    by_cases h : m ≤ 2
    · refine ⟨y - 1, m + 9, by simp only [ofMonth, h, if_true], ?_, ?_, by omega⟩ <;> split <;> omega
    · refine ⟨y, m - 3, by simp only [ofMonth, h, if_false], ?_, ?_, by omega⟩ <;> split <;> omega
  rw [daysInMonth_fromMarch _ hm'] at hk
  rw [hd]
  have hmarch : (Date.mk (daysBeforeYear y' + daysBeforeMonth m' + k)).marchYear = y' := by
    rw [marchYear_eq_iff, daysBeforeYear_succ]
    dsimp only
    unfold daysBeforeMonth at *
    split at hk
    · omega
    · split <;> omega
  have hdays : (Date.mk (daysBeforeYear y' + daysBeforeMonth m' + k)).dayFromMarch = daysBeforeMonth m' + k := by
    rw [dayFromMarch, hmarch]
    show daysBeforeYear y' + daysBeforeMonth m' + k - daysBeforeYear y' = _
    omega
  have hmonth : (Date.mk (daysBeforeYear y' + daysBeforeMonth m' + k)).monthFromMarch = m' := by
    rw [monthFromMarch, hdays]
    unfold daysBeforeMonth at *
    split at hk
    · split at hk <;> omega
    · omega
  refine ⟨?_, ?_, ?_⟩
  · rw [year, hmonth, hmarch]
  · rw [month, hmonth]
  · rw [day, hmonth, hdays]; omega

/-- The date of a year, month and day has these. -/
theorem fields_of_ofYmd? {y m k : Int} {d : Date} (h : ofYmd? y m k = some d) :
    d.year = y ∧ d.month = m ∧ d.day = k := by
  obtain ⟨⟨-, -, hm₁, hm₂, hk₁, hk₂⟩, hd⟩ := Option.ite_none_right_eq_some.1 h
  obtain ⟨hyear, hmonth, hday⟩ := ofMonth_fields ⟨hm₁, hm₂⟩ (show 0 ≤ k - 1 ∧ k - 1 < daysInMonth y m by omega)
  rw [Option.some.inj hd] at hyear hmonth hday
  exact ⟨hyear, hmonth, by omega⟩

end TemporalTagger.Date
