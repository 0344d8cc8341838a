/-
Values of calendar units. A value spells a point; the points that can be spelled are a range, each value
in it is read as the point that it spells, and what is written for a point spells it. Main facts:
`read?_of_spells`, `spells_of_write?` and `write?_isSome_iff`.
-/
import TemporalTagger.Calendar.Unit
import TemporalTagger.Proofs.Calendar.Week
import TemporalTagger.Proofs.Text.Beginnings
import TemporalTagger.Proofs.Text.Digits
import TemporalTagger.Proofs.Text.Lines

namespace TemporalTagger

open Text

namespace CalendarUnit

/-! ## Reading digits -/

theorem digits?_eq_some_iff {count : Nat} {cs rest : List Char} {n : Int} :
    digits? count cs = some (n, rest) ↔ ∃ ds m, cs = ds ++ rest ∧ IsNumeral count m ds ∧ n = m := by
  unfold digits?
  dsimp only
  constructor
  · intro h
    split at h
    next hd =>
      obtain ⟨rfl, rfl⟩ := Prod.mk.inj (Option.some.inj h)
      exact ⟨cs.take count, _, (List.take_append_drop count cs).symm,
        ⟨hd.1, by simpa using hd.2, rfl⟩, rfl⟩
    next => cases h
  · rintro ⟨ds, m, rfl, hds, rfl⟩
    obtain rfl := hds.length
    rw [List.take_left, List.drop_left, if_pos ⟨rfl, by simpa using hds.digits⟩, hds.value]

theorem digits?_append {count n : Nat} {ds : List Char} (h : IsNumeral count n ds) (rest : List Char) :
    digits? count (ds ++ rest) = some ((n : Int), rest) :=
  digits?_eq_some_iff.2 ⟨ds, n, rfl, h, rfl⟩

theorem onlyDigits?_eq_some_iff {count : Nat} {cs : List Char} {n : Int} :
    onlyDigits? count cs = some n ↔ ∃ m, IsNumeral count m cs ∧ n = m := by
  constructor
  · intro h
    obtain ⟨⟨n', rest⟩, hd, h⟩ := Option.bind_eq_some_iff.1 h
    obtain ⟨ds, m, rfl, hds, rfl⟩ := digits?_eq_some_iff.1 hd
    dsimp only at h
    split at h
    next hrest =>
      obtain rfl := Option.some.inj h
      rw [List.isEmpty_iff.1 hrest, List.append_nil]
      exact ⟨m, hds, rfl⟩
    next => cases h
  · rintro ⟨m, hcs, rfl⟩
    have hd := digits?_append hcs []
    rw [List.append_nil] at hd
    rw [onlyDigits?, hd]
    rfl

end CalendarUnit

namespace Date

theorem readNumber?_append {width n : Nat} {ds : List Char} (h : IsNumeral width n ds) (hw : 0 < width)
    (rest : List Char) : readNumber? width (ds ++ rest) = some (n, rest) := by
  obtain rfl := h.length
  have hfront : ((ds ++ rest).take ds.length).takeWhile Char.isDigit = ds := by
    rw [List.take_left, takeWhile_of_isDigit h.digits]
  have hne : ds.isEmpty = false := List.isEmpty_eq_false_iff.2 (List.ne_nil_of_length_pos hw)
  rw [readNumber?, hfront]
  simp only [hne, Bool.false_eq_true, if_false, h.value, List.drop_left]

theorem trimStart_append {width n : Nat} {ds : List Char} (h : IsNumeral width n ds) (hw : 0 < width)
    (rest : List Char) : trimStart (ds ++ rest) = ds ++ rest := by
  obtain ⟨c, ds, rfl⟩ := List.exists_cons_of_length_pos (h.length ▸ hw)
  rw [List.cons_append, trimStart, List.dropWhile_cons_of_neg]
  rw [isSpace_of_isDigit (h.digits c List.mem_cons_self)]
  exact Bool.false_ne_true

theorem readYear?_append {y : Nat} {ys : List Char} (h : IsNumeral 4 y ys) (rest : List Char) :
    readYear? (ys ++ rest) = some ((y : Int), rest) := by
  have hread := readNumber?_append h (by decide) rest
  obtain ⟨c, ys, rfl⟩ := List.exists_cons_of_length_pos (h.length ▸ (by decide : 0 < 4))
  have hc := h.digits c List.mem_cons_self
  unfold readYear?
  split
  next heq => obtain ⟨rfl, -⟩ := List.cons.inj heq; cases hc
  next heq => obtain ⟨rfl, -⟩ := List.cons.inj heq; cases hc
  next => rw [hread]; rfl

/-- A date is read from its year, month and day in four, two and two digits. -/
theorem parse?_of_isNumeral {value : String} {y m d : Nat} {ys ms ds : List Char}
    (hvalue : value.toList = ys ++ '-' :: (ms ++ '-' :: ds)) (hy : IsNumeral 4 y ys) (hm : IsNumeral 2 m ms)
    (hd : IsNumeral 2 d ds) : parse? value = ofYmd? y m d := by
  have hday := readNumber?_append hd (by decide) []
  have hspace := trimStart_append hd (by decide) []
  rw [List.append_nil] at hday hspace
  simp only [parse?, hvalue, trimStart_append hy (by decide), readYear?_append hy, Option.bind_eq_bind, Option.bind_some,
    show ∀ cs, after? ['-'] ('-' :: cs) = some cs from after?_append ['-'], trimStart_append hm (by decide),
    readNumber?_append hm (by decide), hspace, hday, List.isEmpty_nil, if_true]

end Date

namespace CalendarUnit

/-! ## Values and their points -/

/-- A value spells a point: a century `YY`, a decade `YYY`, a year `YYYY`, a quarter `YYYY-Qn`, a month
`YYYY-MM`, a week `YYYY-Www` that the year has, or a date `YYYY-MM-DD` that there is. -/
def Spells : CalendarUnit → List Char → Int → Prop
  | century, cs, p => ∃ n, IsNumeral 2 n cs ∧ p = n
  | decade, cs, p => ∃ n, IsNumeral 3 n cs ∧ p = n
  | year, cs, p => ∃ y, IsNumeral 4 y cs ∧ p = y
  | quarter, cs, p => ∃ y q ys qs, cs = ys ++ ['-', 'Q'] ++ qs ∧ IsNumeral 4 y ys ∧ IsNumeral 1 q qs ∧
      1 ≤ q ∧ q ≤ 4 ∧ p = 4 * y + (q - 1)
  | month, cs, p => ∃ y m ys ms, cs = ys ++ ['-'] ++ ms ∧ IsNumeral 4 y ys ∧ IsNumeral 2 m ms ∧
      1 ≤ m ∧ m ≤ 12 ∧ p = 12 * y + (m - 1)
  | week, cs, p => ∃ (y w : Nat) (ys ws : List Char) (monday : Date), cs = ys ++ ['-', 'W'] ++ ws ∧ IsNumeral 4 y ys ∧
      IsNumeral 2 w ws ∧ Date.ofIsoWeek? y w = some monday ∧ p = monday.days / 7
  | day, cs, p => ∃ (y m d : Nat) (ys ms ds : List Char), cs = ys ++ ['-'] ++ ms ++ ['-'] ++ ds ∧ IsNumeral 4 y ys ∧
      IsNumeral 2 m ms ∧ IsNumeral 2 d ds ∧ Date.ofYmd? y m d = some ⟨p⟩

/-- A value of a unit, in the years 0 to 9999. -/
def WellFormed (u : CalendarUnit) (value : String) : Prop := ∃ p, u.Spells value.toList p

/-- The first point of a unit that can be spelled. -/
def firstPoint : CalendarUnit → Int
  | week => -9
  | day => -60
  | _ => 0

/-- The point after the last one that can be spelled. -/
def endPoint : CalendarUnit → Int
  | century => 100
  | decade => 1000
  | year => 10000
  | quarter => 40000
  | month => 120000
  | week => 521766
  | day => 3652365

/-- The points that can be spelled. -/
def InBounds (u : CalendarUnit) (p : Int) : Prop := u.firstPoint ≤ p ∧ p < u.endPoint

variable {u : CalendarUnit} {value : String} {p : Int}

theorem newYear_zero : Date.newYear 0 = -60 := by decide

theorem newYear_end : Date.newYear 10000 = 3652365 := by decide

/-- What a value spells is what is read from it. -/
theorem read?_of_spells (h : u.Spells value.toList p) : u.read? value = some p := by
  cases u with
  | century | decade | year =>
    obtain ⟨n, hn, rfl⟩ := h
    exact onlyDigits?_eq_some_iff.2 ⟨n, hn, rfl⟩
  | quarter =>
    obtain ⟨y, q, ys, qs, hcs, hy, hq, hlo, hhi, rfl⟩ := h
    have hn := onlyDigits?_eq_some_iff.2 ⟨q, hq, rfl⟩
    simp only [read?, hcs, List.append_assoc, digits?_append hy, after?_append, hn, Option.bind_eq_bind,
      Option.bind_some]
    rw [if_pos (by omega)]
  | month =>
    obtain ⟨y, m, ys, ms, hcs, hy, hm, -, -, rfl⟩ := h
    have hn := onlyDigits?_eq_some_iff.2 ⟨m, hm, rfl⟩
    simp only [read?, hcs, List.append_assoc, digits?_append hy, after?_append, hn, Option.bind_eq_bind,
      Option.bind_some]
  | week =>
    obtain ⟨y, w, ys, ws, monday, hcs, hy, hw, hmonday, rfl⟩ := h
    have hn := onlyDigits?_eq_some_iff.2 ⟨w, hw, rfl⟩
    simp only [read?, hcs, List.append_assoc, digits?_append hy, after?_append, hn, Option.bind_eq_bind,
      Option.bind_some, hmonday]
  | day =>
    obtain ⟨y, m, d, ys, ms, ds, hcs, hy, hm, hd, hdate⟩ := h
    rw [read?, Date.parse?_of_isNumeral (by rw [hcs]; simp) hy hm hd, hdate]
    rfl

/-- What is read as a century, decade, year, quarter or week spells what is read. -/
theorem spells_of_read? (hmonth : u ≠ month) (hday : u ≠ day) (h : u.read? value = some p) :
    u.Spells value.toList p := by
  cases u with
  | century | decade | year => exact onlyDigits?_eq_some_iff.1 h
  | quarter =>
    obtain ⟨⟨_, rest⟩, hyear, h⟩ := Option.bind_eq_some_iff.1 h
    obtain ⟨rest', hrest, h⟩ := Option.bind_eq_some_iff.1 h
    obtain ⟨_, hquarter, h⟩ := Option.bind_eq_some_iff.1 h
    obtain ⟨ys, y, hcs, hy, rfl⟩ := digits?_eq_some_iff.1 hyear
    obtain ⟨q, hq, rfl⟩ := onlyDigits?_eq_some_iff.1 hquarter
    obtain ⟨hrange, hp⟩ := Option.ite_none_right_eq_some.1 h
    exact ⟨y, q, ys, rest', by rw [hcs, after?_eq_some_iff.1 hrest, List.append_assoc], hy, hq, by omega, by omega,
      (Option.some.inj hp).symm⟩
  | week =>
    obtain ⟨⟨_, rest⟩, hyear, h⟩ := Option.bind_eq_some_iff.1 h
    obtain ⟨rest', hrest, h⟩ := Option.bind_eq_some_iff.1 h
    obtain ⟨_, hweek, h⟩ := Option.bind_eq_some_iff.1 h
    obtain ⟨monday, hmonday, hp⟩ := Option.bind_eq_some_iff.1 h
    obtain ⟨ys, y, hcs, hy, rfl⟩ := digits?_eq_some_iff.1 hyear
    obtain ⟨w, hw, rfl⟩ := onlyDigits?_eq_some_iff.1 hweek
    exact ⟨y, w, ys, rest', monday, by rw [hcs, after?_eq_some_iff.1 hrest, List.append_assoc], hy, hw, hmonday,
      (Option.some.inj hp).symm⟩
  | month => exact absurd rfl hmonth
  | day => exact absurd rfl hday

theorem inBounds_of_spells {cs : List Char} (h : u.Spells cs p) : u.InBounds p := by
  cases u with
  | century | decade | year =>
    obtain ⟨n, hn, rfl⟩ := h
    have := hn.lt
    simp only [InBounds, firstPoint, endPoint]
    omega
  | quarter =>
    obtain ⟨y, q, _, _, -, hy, -, hlo, hhi, rfl⟩ := h
    have := hy.lt
    simp only [InBounds, firstPoint, endPoint]
    omega
  | month =>
    obtain ⟨y, m, _, _, -, hy, -, hlo, hhi, rfl⟩ := h
    have := hy.lt
    simp only [InBounds, firstPoint, endPoint]
    omega
  | week =>
    obtain ⟨y, w, _, _, monday, -, hy, -, hmonday, rfl⟩ := h
    have hlt := hy.lt
    obtain ⟨hmod, hlo, hhi, -⟩ := Date.ofIsoWeek?_eq_some_iff.1 hmonday
    have hfirst := Date.newYear_mono (show (0 : Int) ≤ y by omega)
    have hend := Date.newYear_mono (show (y : Int) + 1 ≤ 10000 by omega)
    rw [newYear_zero] at hfirst
    rw [newYear_end] at hend
    simp only [InBounds, firstPoint, endPoint]
    omega
  | day =>
    obtain ⟨y, m, d, _, _, _, -, hy, -, -, hdate⟩ := h
    have hlt := hy.lt
    obtain ⟨hlo, hhi⟩ := Date.year_eq_iff.1 (Date.fields_of_ofYmd? hdate).1
    have hfirst := Date.newYear_mono (show (0 : Int) ≤ y by omega)
    have hend := Date.newYear_mono (show (y : Int) + 1 ≤ 10000 by omega)
    rw [newYear_zero] at hfirst
    rw [newYear_end] at hend
    simp only [InBounds, firstPoint, endPoint]
    dsimp only at hlo hhi
    omega

/-- The points that can be spelled are those that something is written for. -/
theorem write?_isSome_iff : (u.write? p).isSome = true ↔ u.InBounds p := by
  have hyears : ∀ d : Date, inRange d.year = true ↔ -60 ≤ d.days ∧ d.days < 3652365 := by
    intro d
    rw [inRange, Bool.and_eq_true, decide_eq_true_eq, decide_eq_true_eq, Date.le_year_iff, Date.year_le_iff]
    exact newYear_zero ▸ newYear_end ▸ Iff.rfl
  have hrange : ∀ y : Int, inRange y = true ↔ 0 ≤ y ∧ y ≤ 9999 := by simp [inRange]
  cases u <;> simp only [write?, InBounds, firstPoint, endPoint, Option.isSome_ite, hyears] <;>
    try simp only [hrange]
  all_goals omega

/-- The years 0 to 9999 begin and end in the middle of a week, so no week of theirs is of another year. -/
theorem isoYear_bounds {d : Date} (hmonday : d.days % 7 = 5) (h : -60 ≤ d.days ∧ d.days < 3652365) :
    0 ≤ d.isoYear ∧ d.isoYear ≤ 9999 := by
  rw [Date.isoYear, Date.le_year_iff, Date.year_le_iff, Date.thursday_monday hmonday, newYear_zero,
    show (9999 : Int) + 1 = 10000 from rfl, newYear_end]
  omega

/-- What is written for a point spells it. -/
theorem spells_of_write? (h : u.write? p = some value) : u.Spells value.toList p := by
  obtain ⟨hlo, hhi⟩ := write?_isSome_iff.1 (h ▸ rfl : (u.write? p).isSome = true)
  cases u <;> simp only [write?, Option.ite_none_right_eq_some, Option.some.injEq] at h <;> obtain ⟨hrange, rfl⟩ := h <;>
    simp only [firstPoint, endPoint] at hlo hhi
  case century | decade | year =>
    obtain ⟨n, rfl⟩ := Int.eq_ofNat_of_zero_le hlo
    exact ⟨n, isNumeral_padded (by decide) (by omega), rfl⟩
  case quarter =>
    obtain ⟨y, hy⟩ := Int.eq_ofNat_of_zero_le (show 0 ≤ p / 4 by omega)
    obtain ⟨q, hq⟩ := Int.eq_ofNat_of_zero_le (show 0 ≤ p % 4 + 1 by omega)
    rw [hy, hq]
    exact ⟨y, q, _, _, by simp only [String.toList_append]; rfl, isNumeral_padded (by decide) (by omega),
      isNumeral_toString (by omega), by omega, by omega, by omega⟩
  case month =>
    obtain ⟨y, hy⟩ := Int.eq_ofNat_of_zero_le (show 0 ≤ p / 12 by omega)
    obtain ⟨m, hm⟩ := Int.eq_ofNat_of_zero_le (show 0 ≤ p % 12 + 1 by omega)
    rw [hy, hm]
    exact ⟨y, m, _, _, by simp only [String.toList_append]; rfl, isNumeral_padded (by decide) (by omega),
      isNumeral_padded (by decide) (by omega), by omega, by omega, by omega⟩
  case week =>
    have hmonday : (Date.mk (7 * p + 5)).days % 7 = 5 := by dsimp only; omega
    obtain ⟨hylo, hyhi⟩ := isoYear_bounds hmonday (by dsimp only; omega)
    have hweek := Date.isoWeek_bounds ⟨7 * p + 5⟩
    have hself := Date.ofIsoWeek?_self hmonday
    obtain ⟨y, hy⟩ := Int.eq_ofNat_of_zero_le hylo
    obtain ⟨w, hw⟩ := Int.eq_ofNat_of_zero_le (show 0 ≤ (Date.mk (7 * p + 5)).isoWeek by omega)
    rw [format, hy, hw]
    rw [hy, hw] at hself
    exact ⟨y, w, _, _, _, by simp only [String.toList_append]; rfl, isNumeral_padded (by decide) (by omega),
      isNumeral_padded (by decide) (by omega), hself, by dsimp only; omega⟩
  case day =>
    have hyear : 0 ≤ (Date.mk p).year ∧ (Date.mk p).year ≤ 9999 := by simpa [inRange] using hrange
    have hmonth := Date.month_bounds ⟨p⟩
    have hday := Date.day_bounds ⟨p⟩
    have hself := Date.ofYmd?_self ⟨p⟩ (by simp only [Date.minYear, Date.maxYear]; omega)
    obtain ⟨y, hy⟩ := Int.eq_ofNat_of_zero_le hyear.1
    obtain ⟨m, hm⟩ := Int.eq_ofNat_of_zero_le (show 0 ≤ (Date.mk p).month by omega)
    obtain ⟨d, hd⟩ := Int.eq_ofNat_of_zero_le (show 0 ≤ (Date.mk p).day by omega)
    have hlong := Date.daysInMonth_le (Date.mk p).year (Date.mk p).month
    rw [format, Date.toText, if_pos hyear, hy, hm, hd]
    rw [hy, hm, hd] at hself
    exact ⟨y, m, d, _, _, _, by simp only [String.toList_append]; rfl, isNumeral_padded (by decide) (by omega),
      isNumeral_padded (by decide) (by omega), isNumeral_padded (by decide) (by omega), hself⟩

/-! ## Shifts -/

/-- An amount beyond 32 bits leads out of the bounds of every unit. -/
theorem shift?_eq_write? {value : String} (hread : u.read? value = some p) (hp : u.InBounds p) (amount : Int) :
    u.shift? value amount = u.write? (p + amount) := by
  unfold shift?
  split
  · rw [hread]
    rfl
  next hfits =>
    cases hw : u.write? (p + amount) with
    | none => rfl
    | some v =>
      have hbounds := write?_isSome_iff.1 (hw ▸ rfl : (u.write? (p + amount)).isSome = true)
      simp only [fitsSigned, Bool.and_eq_true, decide_eq_true_eq, not_and] at hfits
      cases u <;> simp only [InBounds, firstPoint, endPoint] at hp hbounds <;> omega

theorem shift?_eq_none {value : String} (hread : u.read? value = none) (amount : Int) :
    u.shift? value amount = none := by
  rw [shift?, hread]
  exact ite_self _

end CalendarUnit

end TemporalTagger
