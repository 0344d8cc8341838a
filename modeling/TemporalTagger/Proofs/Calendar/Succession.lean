/-
How values follow one another. The numbers of a value count as on an odometer: the last one goes up by one, and past
the end of its month or year it starts again and the number before it goes up. Each value is one point after the
value before it, so a shift counts on or back. Main fact: `shift?_eq_some_iff_after`.
-/
import TemporalTagger.Proofs.Calendar.Unit

namespace TemporalTagger

open Text

/-! ## Lengths of years and months -/

namespace Date

theorem newYear_succ (y : Int) : newYear (y + 1) = newYear y + if isLeap y = true then 366 else 365 := by
  have := daysBeforeYear_succ (y - 1)
  unfold newYear
  rw [Int.sub_add_cancel] at this
  rw [Int.add_sub_cancel, this]
  split <;> omega

/-- A year has 53 weeks if it begins on a Thursday, or on a Wednesday and has a leap day. -/
theorem weeksInYear_eq (y : Int) : weeksInYear y =
    if (ofMonth y 1 0).weekday = 3 ∨ (ofMonth y 1 0).weekday = 2 ∧ isLeap y = true then 53 else 52 := by
  have hyear := newYear_succ y
  have hfirst := firstMonday_bounds y
  have hnext := firstMonday_bounds (y + 1)
  unfold weeksInYear weekday
  rw [ofMonth_january]
  cases hleap : isLeap y <;> simp only [hleap, Bool.false_eq_true, if_true, if_false, and_true, and_false, or_false]
    at hyear ⊢ <;> split <;> omega

/-- After the last day of a month comes the first of the next one. -/
theorem ofMonth_daysInMonth (y : Int) {m : Int} (hlo : 1 ≤ m) (hhi : m < 12) :
    ofMonth y m (daysInMonth y m) = ofMonth y (m + 1) 0 := by
  have hleap := daysBeforeYear_succ (y - 1)
  rw [Int.sub_add_cancel] at hleap
  have hfebruary : ofMonth y 2 (if isLeap y = true then 29 else 28) = ofMonth y 3 0 := by
    refine congrArg mk ?_
    simp [daysBeforeMonth]
    omega
  interval_cases m
  case «2» => exact hfebruary
  all_goals
    refine congrArg mk ?_
    simp [daysInMonth, daysBeforeMonth] <;> omega

theorem one_le_daysInMonth (y m : Int) : 1 ≤ daysInMonth y m := by
  unfold daysInMonth
  split_ifs <;> decide

/-- After the last day of a year comes the first of the next one. -/
theorem ofMonth_december (y : Int) : ofMonth y 12 31 = ofMonth (y + 1) 1 0 := by
  refine congrArg mk ?_
  simp [daysBeforeMonth]
  omega

end Date

namespace CalendarUnit

/-! ## The numbers of a value -/

/-- The numbers that a value is made of: a count of centuries, decades or years; a year with a quarter, month or week
of it; or a year, a month and a day. -/
inductive Numbers
  | whole (n : Nat)
  | inYear (year n : Nat)
  | inMonth (year month day : Nat)
  deriving DecidableEq, Repr

/-- How many values of a unit a year has. -/
def perYear : CalendarUnit → Nat → Int
  | quarter, _ => 4
  | week, y => Date.weeksInYear y
  | _, _ => 12

/-- The numbers that the calendar has. -/
def Has (u : CalendarUnit) : Numbers → Prop
  | .whole _ => u ∈ [century, decade, year]
  | .inYear y n => u ∈ [quarter, month, week] ∧ 1 ≤ n ∧ n ≤ u.perYear y
  | .inMonth y m d => u = day ∧ 1 ≤ m ∧ m ≤ 12 ∧ 1 ≤ d ∧ d ≤ Date.daysInMonth y m

instance (u : CalendarUnit) : DecidablePred u.Has
  | .whole _ => inferInstanceAs (Decidable (_ ∈ _))
  | .inYear .. | .inMonth .. => inferInstanceAs (Decidable (_ ∧ _))

/-- The numbers of the years 0 to 9999. -/
def InYears : CalendarUnit → Numbers → Prop
  | century, .whole n => n < 100
  | decade, .whole n => n < 1000
  | _, .whole y | _, .inYear y _ | _, .inMonth y _ _ => y < 10000

instance (u : CalendarUnit) : DecidablePred u.InYears := fun f => by unfold InYears; split <;> infer_instance

/-- The value with these numbers. -/
def text : CalendarUnit → Numbers → String
  | century, .whole n => padded 2 n
  | decade, .whole n => padded 3 n
  | quarter, .inYear y q => padded 4 y ++ "-Q" ++ toString q
  | week, .inYear y w => padded 4 y ++ "-W" ++ padded 2 w
  | _, .whole y => padded 4 y
  | _, .inYear y m => padded 4 y ++ "-" ++ padded 2 m
  | _, .inMonth y m d => padded 4 y ++ "-" ++ padded 2 m ++ "-" ++ padded 2 d

/-- The numbers of the next value. -/
def next (u : CalendarUnit) : Numbers → Numbers
  | .whole n => .whole (n + 1)
  | .inYear y n => if n < u.perYear y then .inYear y (n + 1) else .inYear (y + 1) 1
  | .inMonth y m d =>
    if d < Date.daysInMonth y m then .inMonth y m (d + 1)
    else if m < 12 then .inMonth y (m + 1) 1
    else .inMonth (y + 1) 1 1

/-- The point of the value with these numbers. -/
def point : CalendarUnit → Numbers → Int
  | week, .inYear y w => ((Date.firstMonday y).days + 7 * (w - 1)) / 7
  | u, .inYear y n => u.perYear y * y + (n - 1)
  | _, .whole n => n
  | _, .inMonth y m d => (Date.ofMonth y m (d - 1)).days

variable {u : CalendarUnit} {f g : Numbers}

/-! ## One value on -/

theorem one_le_perYear (u : CalendarUnit) (y : Nat) : 1 ≤ u.perYear y := by
  unfold perYear
  split
  · decide
  · rw [Date.weeksInYear_eq]
    split <;> decide
  · decide

theorem has_next (h : u.Has f) : u.Has (u.next f) := by
  cases f with
  | whole n => exact h
  | inYear y n =>
    obtain ⟨hu, hlo, hhi⟩ := h
    rw [next]
    split
    next hlt => exact ⟨hu, by omega, by push_cast; omega⟩
    next => exact ⟨hu, le_rfl, one_le_perYear u (y + 1)⟩
  | inMonth y m d =>
    obtain ⟨rfl, hm, hm', hd, hd'⟩ := h
    rw [next]
    split
    next hlt => exact ⟨rfl, hm, hm', by omega, by push_cast; omega⟩
    next =>
      split
      next hlt => exact ⟨rfl, by omega, by omega, le_rfl, Date.one_le_daysInMonth _ _⟩
      next => exact ⟨rfl, le_rfl, by omega, le_rfl, Date.one_le_daysInMonth _ _⟩

/-- The next value is one point on. -/
theorem point_next (h : u.Has f) : u.point (u.next f) = u.point f + 1 := by
  cases f with
  | whole n => cases u <;> exact Int.natCast_succ n
  | inYear y n =>
    obtain ⟨hu, hlo, hhi⟩ := h
    have hfirst := Date.firstMonday_bounds y
    have hnext := Date.firstMonday_bounds (y + 1)
    simp only [List.mem_cons, List.not_mem_nil, or_false] at hu
    rw [next]
    rcases hu with rfl | rfl | rfl <;> split <;> simp only [point, perYear, Date.weeksInYear, not_lt] at * <;>
      push_cast at * <;> omega
  | inMonth y m d =>
    obtain ⟨rfl, hm, hm', hd, hd'⟩ := h
    have hshift : ∀ k, (Date.ofMonth y m k).days = (Date.ofMonth y m 0).days + k := fun k => by
      simp only [Date.ofMonth]
      omega
    rw [next]
    split
    · simp only [point]
      rw [hshift, hshift (d - 1)]
      push_cast
      omega
    next hlast =>
      -- the last day of the month, and of the year if the month is the twelfth
      obtain hlast : (d : Int) = Date.daysInMonth y m := by omega
      split
      next hlt =>
        have hcarry := congrArg Date.days (@Date.ofMonth_daysInMonth y m (by omega) (by omega))
        rw [← hlast, hshift] at hcarry
        simp only [point, Nat.cast_add, Nat.cast_one, Int.sub_self, ← hcarry]
        rw [hshift (d - 1)]
        omega
      next hge =>
        obtain rfl : m = 12 := by omega
        have hcarry : (Date.ofMonth y (12 : Nat) 31).days = (Date.ofMonth (y + 1) 1 0).days :=
          congrArg Date.days (Date.ofMonth_december y)
        have hlong : Date.daysInMonth y (12 : Nat) = 31 := rfl
        rw [hshift] at hcarry
        simp only [point, Nat.cast_add, Nat.cast_one, Int.sub_self, ← hcarry]
        rw [hshift (d - 1)]
        omega

/-- Numbers that the calendar has are known by their point. -/
theorem point_injective (hf : u.Has f) (hg : u.Has g) (h : u.point f = u.point g) : f = g := by
  cases f <;> cases g
  case whole.whole n k => cases u <;> exact congrArg Numbers.whole (Int.ofNat.inj h)
  case inYear.inYear y n y' n' =>
    obtain ⟨hu, hlo, hhi⟩ := hf
    obtain ⟨-, hlo', hhi'⟩ := hg
    simp only [List.mem_cons, List.not_mem_nil, or_false] at hu
    rcases hu with rfl | rfl | rfl
    case inr.inr =>
      -- a week is known by its Monday, of which seven days make a point
      have hmonday := Date.firstMonday_bounds y
      have hmonday' := Date.firstMonday_bounds y'
      have hweek : Date.ofIsoWeek? y n = some ⟨(Date.firstMonday y).days + 7 * (n - 1)⟩ :=
        if_pos ⟨by omega, hhi⟩
      have hweek' : Date.ofIsoWeek? y' n' = some ⟨(Date.firstMonday y').days + 7 * (n' - 1)⟩ :=
        if_pos ⟨by omega, hhi'⟩
      have hsame : (Date.firstMonday y).days + 7 * ((n : Int) - 1) = (Date.firstMonday y').days + 7 * (n' - 1) := by
        simp only [point] at h
        omega
      obtain ⟨-, hy, hn⟩ := Date.fields_of_ofIsoWeek? hweek
      obtain ⟨-, hy', hn'⟩ := Date.fields_of_ofIsoWeek? hweek'
      rw [hsame] at hy hn
      congr 1 <;> omega
    all_goals
      simp only [point, perYear] at h hhi hhi'
      congr 1 <;> omega
  case inMonth.inMonth y m d y' m' d' =>
    obtain ⟨rfl, hm, hm', hd, hd'⟩ := hf
    obtain ⟨-, hn, hn', he, he'⟩ := hg
    have hfields := @Date.ofMonth_fields y m (d - 1) ⟨by omega, by omega⟩ ⟨by omega, by omega⟩
    have hfields' := @Date.ofMonth_fields y' m' (d' - 1) ⟨by omega, by omega⟩ ⟨by omega, by omega⟩
    rw [show Date.ofMonth y m (d - 1) = Date.ofMonth y' m' (d' - 1) from congrArg Date.mk h] at hfields
    congr 1 <;> omega
  -- numbers of different kinds belong to different units
  all_goals cases u <;> simp [Has] at hf hg

theorem has_iterate (h : u.Has f) : ∀ n : Nat, u.Has (u.next^[n] f)
  | 0 => h
  | n + 1 => by
    rw [Function.iterate_succ_apply']
    exact has_next (has_iterate h n)

theorem point_iterate (h : u.Has f) : ∀ n : Nat, u.point (u.next^[n] f) = u.point f + n
  | 0 => (Int.add_zero _).symm
  | n + 1 => by
    rw [Function.iterate_succ_apply', point_next (has_iterate h n), point_iterate h n, Nat.cast_succ, Int.add_assoc]

/-! ## Values and their numbers -/

theorem spells_text (h : u.Has f) (hf : u.InYears f) : u.Spells (u.text f).toList (u.point f) := by
  cases f with
  | whole n =>
    simp only [Has, List.mem_cons, List.not_mem_nil, or_false] at h
    rcases h with rfl | rfl | rfl <;> exact ⟨n, isNumeral_padded (by decide) hf, rfl⟩
  | inYear y n =>
    obtain ⟨hu, hlo, hhi⟩ := h
    have hyear : IsNumeral 4 y (padded 4 y).toList := isNumeral_padded (by decide) (by cases u <;> exact hf)
    simp only [List.mem_cons, List.not_mem_nil, or_false] at hu
    rcases hu with rfl | rfl | rfl <;> simp only [perYear] at hhi
    · exact ⟨y, n, _, _, by simp only [text, String.toList_append]; rfl, hyear, isNumeral_toString (by omega), hlo,
        by omega, rfl⟩
    · exact ⟨y, n, _, _, by simp only [text, String.toList_append]; rfl, hyear,
        isNumeral_padded (by decide) (by omega), hlo, by omega, rfl⟩
    · have hweeks := Date.weeksInYear_eq y
      exact ⟨y, n, _, _, _, by simp only [text, String.toList_append]; rfl, hyear,
        isNumeral_padded (by decide) (by split at hweeks <;> omega), if_pos ⟨by omega, hhi⟩, rfl⟩
  | inMonth y m d =>
    obtain ⟨rfl, hm, hm', hd, hd'⟩ := h
    have hyear : y < 10000 := hf
    have hlong := Date.daysInMonth_le y m
    refine ⟨y, m, d, _, _, _, by simp only [text, String.toList_append]; rfl, isNumeral_padded (by decide) hyear,
      isNumeral_padded (by decide) (by omega), isNumeral_padded (by decide) (by omega), ?_⟩
    rw [Date.ofYmd?, if_pos ⟨by unfold Date.minYear; omega, by unfold Date.maxYear; omega, by omega, by omega, by omega,
      hd'⟩]
    rfl

theorem exists_text {v : String} {p : Int} (h : u.Spells v.toList p) :
    ∃ f, u.Has f ∧ u.InYears f ∧ u.text f = v ∧ u.point f = p := by
  have hunpadded : ∀ {w n : Nat} {cs : List Char}, IsNumeral (w + 1) n cs → (padded (w + 1) n).toList = cs :=
    fun h => h.toList_padded (Nat.succ_pos _)
  cases u with
  | century | decade | year =>
    obtain ⟨n, hn, rfl⟩ := h
    exact ⟨.whole n, by simp [Has], hn.lt, String.toList_inj.1 (hunpadded hn), rfl⟩
  | quarter =>
    obtain ⟨y, q, ys, qs, hcs, hy, hq, hlo, hhi, rfl⟩ := h
    refine ⟨.inYear y q, ⟨by decide, hlo, by simp only [perYear]; omega⟩, hy.lt, String.toList_inj.1 ?_, rfl⟩
    rw [hcs, text, String.toList_append, String.toList_append, hunpadded hy,
      (isNumeral_toString (by omega)).unique hq]
    rfl
  | month =>
    obtain ⟨y, m, ys, ms, hcs, hy, hm, hlo, hhi, rfl⟩ := h
    refine ⟨.inYear y m, ⟨by decide, hlo, by simp only [perYear]; omega⟩, hy.lt, String.toList_inj.1 ?_, rfl⟩
    show (padded 4 y ++ "-" ++ padded 2 m).toList = _
    rw [hcs, String.toList_append, String.toList_append, hunpadded hy, hunpadded hm]
    rfl
  | week =>
    obtain ⟨y, w, ys, ws, monday, hcs, hy, hw, hmonday, rfl⟩ := h
    obtain ⟨hweeks, hmonday⟩ := Option.ite_none_right_eq_some.1 hmonday
    refine ⟨.inYear y w, ⟨by decide, by omega, hweeks.2⟩, hy.lt, String.toList_inj.1 ?_, ?_⟩
    · rw [hcs, text, String.toList_append, String.toList_append, hunpadded hy, hunpadded hw]
      rfl
    · rw [← Option.some.inj hmonday]
      rfl
  | day =>
    obtain ⟨y, m, d, ys, ms, ds, hcs, hy, hm, hd, hdate⟩ := h
    obtain ⟨hfits, hdate⟩ := Option.ite_none_right_eq_some.1 hdate
    refine ⟨.inMonth y m d, ⟨rfl, by omega, by omega, by omega, hfits.2.2.2.2.2⟩, hy.lt, String.toList_inj.1 ?_, ?_⟩
    · rw [hcs, text, String.toList_append, String.toList_append, String.toList_append, String.toList_append,
        hunpadded hy, hunpadded hm, hunpadded hd]
      rfl
    · exact congrArg Date.days (Option.some.inj hdate)

/-- The well-formed values are those with numbers that the calendar has, in the years 0 to 9999. -/
theorem wellFormed_iff_text {v : String} : u.WellFormed v ↔ ∃ f, u.Has f ∧ u.InYears f ∧ u.text f = v := by
  constructor
  · rintro ⟨p, hp⟩
    obtain ⟨f, hf, hyears, htext, -⟩ := exists_text hp
    exact ⟨f, hf, hyears, htext⟩
  · rintro ⟨f, hf, hyears, rfl⟩
    exact ⟨u.point f, spells_text hf hyears⟩

/-- A point is spelled in one way. -/
theorem eq_of_spells {v w : String} {p : Int} (hv : u.Spells v.toList p) (hw : u.Spells w.toList p) : v = w := by
  obtain ⟨f, hf, -, rfl, hp⟩ := exists_text hv
  obtain ⟨g, hg, -, rfl, hq⟩ := exists_text hw
  rw [point_injective hf hg (hp.trans hq.symm)]

/-! ## Shifts -/

/-- A value comes so many places after another one, or before it if the number is negative. -/
def After (u : CalendarUnit) (n : Int) (v w : String) : Prop :=
  ∃ f g, (u.Has f ∧ u.InYears f ∧ u.text f = v) ∧ (u.Has g ∧ u.InYears g ∧ u.text g = w) ∧
    u.next^[n.toNat] f = u.next^[(-n).toNat] g

theorem after_iff {v w : String} {p : Int} (hv : u.Spells v.toList p) (n : Int) :
    u.After n v w ↔ u.Spells w.toList (p + n) := by
  constructor
  · rintro ⟨f, g, ⟨hf, hyears, rfl⟩, ⟨hg, hyears', rfl⟩, hmeet⟩
    have hp : u.point f = p :=
      Option.some.inj ((read?_of_spells (spells_text hf hyears)).symm.trans (read?_of_spells hv))
    have hpoint := congrArg u.point hmeet
    rw [point_iterate hf, point_iterate hg] at hpoint
    rw [show p + n = u.point g by omega]
    exact spells_text hg hyears'
  · intro hw
    obtain ⟨f, hf, hyears, htext, hp⟩ := exists_text hv
    obtain ⟨g, hg, hyears', htext', hq⟩ := exists_text hw
    refine ⟨f, g, ⟨hf, hyears, htext⟩, ⟨hg, hyears', htext'⟩, point_injective (has_iterate hf _) (has_iterate hg _) ?_⟩
    rw [point_iterate hf, point_iterate hg]
    omega

theorem shift?_eq_some_iff_spells {v w : String} {p : Int} (hv : u.Spells v.toList p) (n : Int) :
    u.shift? v n = some w ↔ u.Spells w.toList (p + n) := by
  rw [shift?_eq_write? (read?_of_spells hv) (inBounds_of_spells hv)]
  constructor
  · exact spells_of_write?
  · intro hw
    obtain ⟨w', hw'⟩ := Option.isSome_iff_exists.1 (write?_isSome_iff.2 (inBounds_of_spells hw))
    rw [hw', eq_of_spells hw (spells_of_write? hw')]

/-- Shifting a well-formed value leads to the value so many units after it in the order of the calendar, and nowhere
if the years 0 to 9999 have none. So shifts add up, and the opposite shift leads back. -/
theorem shift?_eq_some_iff_after {v : String} (hv : u.WellFormed v) (n : Int) :
    (∀ w, u.shift? v n = some w ↔ u.After n v w) ∧
      (∀ m w, u.shift? v m = some w → u.shift? w n = u.shift? v (m + n)) ∧
      ∀ w, u.shift? v n = some w → u.shift? w (-n) = some v := by
  obtain ⟨p, hp⟩ := hv
  refine ⟨fun w => (shift?_eq_some_iff_spells hp n).trans (after_iff hp n).symm, fun m w hw => ?_, fun w hw => ?_⟩
  · have hw := (shift?_eq_some_iff_spells hp m).1 hw
    refine Option.ext fun x => ?_
    rw [shift?_eq_some_iff_spells hw, shift?_eq_some_iff_spells hp, Int.add_assoc]
  · have hw := (shift?_eq_some_iff_spells hp n).1 hw
    rwa [shift?_eq_some_iff_spells hw, Int.add_neg_cancel_right]

/-- One week after the last week of a long year comes the first week of the next one, and no week comes after the last
one of the year 9999. -/
theorem shift?_eq_some_iff_after_weeks :
    week.WellFormed "2009-W53" ∧ week.WellFormed "9999-W52" ∧ week.shift? "2009-W53" 1 = some "2010-W01" ∧
      week.After 1 "2009-W53" "2010-W01" ∧ ∀ w, ¬ week.After 1 "9999-W52" w := by
  have hlong : week.WellFormed "2009-W53" := wellFormed_iff_text.2 ⟨.inYear 2009 53, by decide, by decide, by decide⟩
  have hlast : week.WellFormed "9999-W52" := wellFormed_iff_text.2 ⟨.inYear 9999 52, by decide, by decide, by decide⟩
  have hshift : week.shift? "2009-W53" 1 = some "2010-W01" := by decide +kernel
  have hend : week.shift? "9999-W52" 1 = none := by decide +kernel
  refine ⟨hlong, hlast, hshift, ((shift?_eq_some_iff_after hlong 1).1 _).1 hshift, fun w hw => ?_⟩
  rw [← (shift?_eq_some_iff_after hlast 1).1, hend] at hw
  cases hw

end CalendarUnit

end TemporalTagger
