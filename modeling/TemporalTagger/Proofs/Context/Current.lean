/-
Mentions of the current unit. `this month` stands for the month that it is anchored on, as that is written, and stays
open if the anchor is none. The one anchor that is taken for another value is a month that no year has, of which the
month at the same place is made. Main facts: `shift?_zero_cases` and `resolvePlaceholders_this`.
-/
import TemporalTagger.Proofs.Context.Dates
import TemporalTagger.Proofs.Context.Nearest

namespace TemporalTagger

open Text

/-! ## Dates beyond the years of values -/

namespace Date

variable {d d' : Date}

theorem readNumber?_padded (n : Nat) (rest : List Char) :
    readNumber? ((padded 4 n).toList ++ '-' :: rest).length ((padded 4 n).toList ++ '-' :: rest) =
      some (n, '-' :: rest) := by
  have hdigits : ((padded 4 n).toList ++ '-' :: rest).takeWhile Char.isDigit = (padded 4 n).toList := by
    rw [List.takeWhile_append_of_pos (fun c => isDigit_of_mem_padded), List.takeWhile_cons_of_neg (by decide),
      List.append_nil]
  have hne : (padded 4 n).toList.isEmpty = false := by
    rw [toList_padded, List.isEmpty_eq_false_iff]
    exact List.append_ne_nil_of_right_ne_nil _ Nat.toDigits_ne_nil
  have hvalue : digitsValue (padded 4 n).toList = n := by
    rw [toList_padded, digitsValue_zeros, digitsValue_toDigits]
  rw [readNumber?, List.take_length, hdigits]
  simp only [hne, Bool.false_eq_true, if_false, hvalue, List.drop_left]

/-- A year that needs a sign is read with it. -/
theorem exists_readYear? (hd : ¬ (0 ≤ d.year ∧ d.year ≤ 9999)) :
    ∃ rest, readYear? (trimStart d.toText.toList) = some (d.year, rest) := by
  by_cases hneg : d.year < 0
  · have htext : d.toText.toList = '-' :: ((padded 4 d.year.natAbs).toList ++
        '-' :: ((padded 2 d.month).toList ++ '-' :: (padded 2 d.day).toList)) := by
      simp [toText, hd, hneg]
    rw [htext, trimStart, List.dropWhile_cons_of_neg (by decide), readYear?, readNumber?_padded, Option.map_some]
    exact ⟨_, congrArg some (Prod.ext (by dsimp only; omega) rfl)⟩
  · have htext : d.toText.toList = '+' :: ((padded 4 d.year.natAbs).toList ++
        '-' :: ((padded 2 d.month).toList ++ '-' :: (padded 2 d.day).toList)) := by
      simp [toText, hd, hneg]
    rw [htext, trimStart, List.dropWhile_cons_of_neg (by decide), readYear?, readNumber?_padded, Option.map_some]
    exact ⟨_, congrArg some (Prod.ext (by dsimp only; omega) rfl)⟩

theorem year_of_parse? {text : String} {y : Int} {rest : List Char} (h : parse? text = some d')
    (hyear : readYear? (trimStart text.toList) = some (y, rest)) : d'.year = y := by
  obtain ⟨⟨y', rest'⟩, hread, h⟩ := Option.bind_eq_some_iff.1 h
  rw [hyear] at hread
  cases hread
  obtain ⟨_, -, h⟩ := Option.bind_eq_some_iff.1 h
  obtain ⟨_, -, h⟩ := Option.bind_eq_some_iff.1 h
  obtain ⟨_, -, h⟩ := Option.bind_eq_some_iff.1 h
  obtain ⟨_, -, h⟩ := Option.bind_eq_some_iff.1 h
  obtain ⟨-, hdate⟩ := Option.ite_none_right_eq_some.1 h
  exact (fields_of_ofYmd? hdate).1

end Date

namespace CalendarUnit

open Mention

variable {u : CalendarUnit} {a : String} {p : Int} {y m : Nat}

/-! ## Months that are read -/

/-- A month is read by its digits, also where no year has it. -/
theorem read?_month_iff : month.read? a = some p ↔
    ∃ y m : Nat, month.Fits (.inYear y m) ∧ month.text (.inYear y m) = a ∧ month.point (.inYear y m) = p := by
  constructor
  · intro h
    obtain ⟨⟨_, rest⟩, hyear, h⟩ := Option.bind_eq_some_iff.1 h
    obtain ⟨rest', hrest, h⟩ := Option.bind_eq_some_iff.1 h
    obtain ⟨_, hmonth, h⟩ := Option.bind_eq_some_iff.1 h
    cases h
    obtain ⟨ys, y, hcs, hy, rfl⟩ := digits?_eq_some_iff.1 hyear
    obtain ⟨m, hm, rfl⟩ := onlyDigits?_eq_some_iff.1 hmonth
    refine ⟨y, m, ⟨hy.lt, hm.lt⟩, String.toList_inj.1 ?_, rfl⟩
    rw [hcs, after?_eq_some_iff.1 hrest]
    show (padded 4 y ++ "-" ++ padded 2 m).toList = _
    rw [String.toList_append, String.toList_append, hy.toList_padded (by decide), hm.toList_padded (by decide),
      List.append_assoc]
    rfl
  · rintro ⟨y, m, ⟨hy, hm⟩, rfl, rfl⟩
    have hys : IsNumeral 4 y (padded 4 y).toList := isNumeral_padded (by decide) hy
    have hms : onlyDigits? 2 (padded 2 m).toList = some (m : Int) :=
      onlyDigits?_eq_some_iff.2 ⟨m, isNumeral_padded (by decide) hm, rfl⟩
    have htext : (month.text (.inYear y m)).toList = (padded 4 y).toList ++ (['-'] ++ (padded 2 m).toList) := by
      simp [text]
    simp only [read?, htext, digits?_append hys, after?_append, hms, Option.bind_eq_bind, Option.bind_some]
    rfl

/-- The digits of a month are those of a well-formed value if a year has the month. -/
theorem has_of_wellFormed_month (hfits : month.Fits (.inYear y m))
    (h : month.WellFormed (month.text (.inYear y m))) : month.Has (.inYear y m) := by
  obtain ⟨p, y', m', ys, ms, hcs, hy, hm, hlo, hhi, -⟩ := h
  have htext : (padded 4 y).toList ++ (['-'] ++ (padded 2 m).toList) = ys ++ (['-'] ++ ms) := by
    rw [← List.append_assoc ys, ← hcs]
    simp [text]
  have hys : IsNumeral 4 y (padded 4 y).toList := isNumeral_padded (by decide) hfits.1
  have hms : IsNumeral 2 m (padded 2 m).toList := isNumeral_padded (by decide) hfits.2
  obtain ⟨-, hmonths⟩ := List.append_inj htext (hys.length.trans hy.length.symm)
  obtain rfl : m = m' := by rw [← hms.value, ← hm.value, List.append_cancel_left hmonths]
  exact ⟨by decide, hlo, by simp only [perYear]; omega⟩

/-! ## Shifts by nothing -/

/-- What anchors a unit: a date at that unit, or what a mention gives. -/
def IsAnchor (u : CalendarUnit) (a : String) : Prop :=
  (∃ d, a = u.format d) ∨ ∃ value, Gives (.ofUnit u) value (some a)

/-- A month of a year that has none such, but that can be counted from the year 0. -/
structure Overruns (u : CalendarUnit) (a : String) (y m : Nat) : Prop where
  unit : u = month
  fits : month.Fits (.inYear y m)
  not_has : ¬ month.Has (.inYear y m)
  inBounds : month.InBounds (month.point (.inYear y m))
  text : a = month.text (.inYear y m)

theorem Overruns.read?_eq (h : u.Overruns a y m) : month.read? a = some (month.point (.inYear y m)) :=
  read?_month_iff.2 ⟨y, m, h.fits, h.text.symm, rfl⟩

theorem Overruns.not_wellFormed (h : u.Overruns a y m) : ¬ u.WellFormed a := by
  intro hwell
  rw [h.unit, h.text] at hwell
  exact h.not_has (has_of_wellFormed_month h.fits hwell)

theorem shift?_zero (h : u.WellFormed a) : u.shift? a 0 = some a := by
  obtain ⟨p, hp⟩ := h
  rw [shift?_eq_some_iff_spells hp, Int.add_zero]
  exact hp

theorem shift?_zero_eq_bind (u : CalendarUnit) (a : String) : u.shift? a 0 = (u.read? a).bind u.write? := by
  show (u.read? a).bind (fun p => u.write? (p + 0)) = _
  simp only [Int.add_zero]

/-- Of what anchors a day, only a date that there is, in the years of values, is read and written again. -/
theorem wellFormed_of_shift?_day {b : String} (h : day.IsAnchor a) (hshift : day.shift? a 0 = some b) :
    day.WellFormed a := by
  rw [shift?_zero_eq_bind] at hshift
  obtain ⟨p, hread, hwrite⟩ := Option.bind_eq_some_iff.1 hshift
  obtain ⟨d', hparse, rfl⟩ := Option.map_eq_some_iff.1 hread
  rcases h with ⟨d, rfl⟩ | ⟨value, _ | _ | ⟨y, m, n⟩, ⟨hfits, -⟩, hgives⟩
  · by_cases hd : 0 ≤ d.year ∧ d.year ≤ 9999
    · exact ⟨_, Date.spells_toText hd⟩
    · obtain ⟨rest, hyear⟩ := Date.exists_readYear? hd
      rw [write?, show Date.mk d'.days = d' from rfl, Date.year_of_parse? hparse hyear] at hwrite
      obtain ⟨hrange, -⟩ := Option.ite_none_right_eq_some.1 hwrite
      exact absurd (by simpa [inRange] using hrange) hd
  · exact hfits.elim
  · exact hfits.elim
  · obtain rfl := Option.some.inj hgives
    rw [parse?_text hfits] at hparse
    obtain ⟨hdate, -⟩ := Option.ite_none_right_eq_some.1 hparse
    have hhas : day.Has (.inMonth y m n) := ⟨rfl, by omega, by omega, by omega, hdate.2.2.2.2.2⟩
    exact wellFormed_iff_text.2 ⟨_, hhas, hfits.1, rfl⟩

/-- Shifted by nothing, an anchor is what it was, or nothing if it is no value of its unit, unless it is an impossible
month: that becomes the month at the same point. -/
theorem shift?_zero_cases (h : u.IsAnchor a) :
    (u.WellFormed a ∧ u.shift? a 0 = some a) ∨
      (¬ u.WellFormed a ∧ u.shift? a 0 = none ∧ ∀ y m, ¬ u.Overruns a y m) ∨
      ∃ y m f, u.Overruns a y m ∧ month.Has f ∧ month.InYears f ∧ month.point f = month.point (.inYear y m) ∧
        u.shift? a 0 = some (month.text f) := by
  by_cases hwell : u.WellFormed a
  · exact .inl ⟨hwell, shift?_zero hwell⟩
  right
  cases hshift : u.shift? a 0 with
  | none =>
    refine .inl ⟨hwell, rfl, ?_⟩
    intro y m hover
    have hin := write?_isSome_iff.2 hover.inBounds
    rw [shift?_zero_eq_bind, hover.unit, hover.read?_eq, Option.bind_some] at hshift
    rw [hshift] at hin
    cases hin
  | some b =>
    right
    by_cases hday : u = day
    · subst hday
      exact absurd (wellFormed_of_shift?_day h hshift) hwell
    rw [shift?_zero_eq_bind] at hshift
    obtain ⟨p, hread, hwrite⟩ := Option.bind_eq_some_iff.1 hshift
    by_cases hmonth : u = month
    · subst hmonth
      obtain ⟨y, m, hfits, rfl, rfl⟩ := read?_month_iff.1 hread
      obtain ⟨f, hf, hyears, rfl, hpoint⟩ := exists_text (spells_of_write? hwrite)
      have hhas : ¬ month.Has (.inYear y m) := fun hhas => hwell (wellFormed_iff_text.2 ⟨_, hhas, hfits.1, rfl⟩)
      exact ⟨y, m, f, ⟨rfl, hfits, hhas, write?_isSome_iff.1 (hwrite ▸ rfl), rfl⟩, hf, hyears, hpoint, rfl⟩
    · exact absurd ⟨p, spells_of_read? hmonth hday hread⟩ hwell

end CalendarUnit

/-! ## Placeholders of the current unit -/

theorem Placeholder.parse?_this {value rest : String} {u : CalendarUnit}
    (h : value = "UNDEF-this-" ++ u.name ++ rest) :
    parse? value = (oneLine rest.toList).map (.moved u 0) := by
  have hcs : value.toList = "UNDEF-".toList ++ ("this-".toList ++ (u.name.toList ++ rest.toList)) := by
    rw [h, String.toList_append, String.toList_append, List.append_assoc]
    rfl
  have hcounted : counted? ("this-".toList ++ (u.name.toList ++ rest.toList)) = none := rfl
  have hrelative : relative? ("this-".toList ++ (u.name.toList ++ rest.toList)) =
      (oneLine rest.toList).bind fun rest => some (.moved u 0 rest) := by
    cases u <;> rfl
  have hplain : plain? ("this-".toList ++ (u.name.toList ++ rest.toList)) = none := rfl
  rw [parse?, hcs, after?_append, Option.bind_eq_bind, Option.bind_some]
  show (counted? _ <|> relative? _ <|> plain? _) = _
  rw [hcounted, hrelative, hplain]
  cases oneLine rest.toList <;> rfl

namespace Resolution

variable (context : DocumentContext) (sentences : List Sentence) (language : Language)

/-- The expressions as they stand when a place is reached: those before it are resolved, the others are not. -/
def standing (es : List TimeExpression) (i : Nat) : List TimeExpression :=
  (resolvePlaceholders context sentences language es).take i ++ es.drop i

/-- The anchor of a unit for an expression: the creation date of news at that unit, else what the last mention before
it gives. -/
def anchorAt? (es : List TimeExpression) (i : Nat) (u : CalendarUnit) : Option String :=
  match context.newsDate? with
  | some date => some (u.format date)
  | none => Mention.last? es i (.ofUnit u)

variable {context sentences language} {es : List TimeExpression} {e : TimeExpression} {i : Nat} {u : CalendarUnit}

theorem isAnchor_of_anchorAt? {a : String} (h : anchorAt? context es i u = some a) : u.IsAnchor a := by
  unfold anchorAt? at h
  split at h
  next date _ => exact .inl ⟨date, (Option.some.inj h).symm⟩
  next =>
    obtain ⟨j, e, -, hgives⟩ := Mention.exists_gives_of_last? h
    exact .inr ⟨e.value, hgives⟩

/-- The anchor of an expression is that of the list as it stands when the expression is reached. -/
theorem anchor?_eq_anchorAt? (he : es[i]? = some e) :
    value?.anchor? context ((resolvePlaceholders context sentences language es).take i).reverse e u =
      anchorAt? context (standing context sentences language es i) i u := by
  obtain ⟨hi, -⟩ := List.getElem?_eq_some_iff.1 he
  have hlength : ((resolvePlaceholders context sentences language es).take i).length = i := by
    rw [List.length_take, resolvePlaceholders, length_resolveFrom, Nat.min_eq_left hi.le]
  have htake : (standing context sentences language es i).take i =
      (resolvePlaceholders context sentences language es).take i := by
    rw [standing, List.take_append_of_le_length hlength.ge, List.take_of_length_le hlength.le]
  have hget : (standing context sentences language es i)[i]? = some e := by
    rw [standing, List.getElem?_append_right hlength.le, hlength, Nat.sub_self, List.getElem?_drop, Nat.add_zero, he]
  unfold value?.anchor? anchorAt?
  rw [Mention.last?, htake, hget]
  rfl

/-- The value of a mention of the current unit, from its anchor. -/
def currentValue? (u : CalendarUnit) (anchor : Option String) (rest : String) : Option String :=
  (Placeholder.oneLine rest.toList).bind fun line =>
    anchor.bind fun a => (u.shift? a 0).map (· ++ String.ofList line)

theorem value_resolveOne_this {rest : String} (he : es[i]? = some e)
    (hvalue : e.value = "UNDEF-this-" ++ u.name ++ rest) :
    (resolveOne context sentences language
        ((resolvePlaceholders context sentences language es).take i).reverse e).value =
      (currentValue? u (anchorAt? context (standing context sentences language es i) i u) rest).getD e.value := by
  unfold resolveOne currentValue?
  rw [Placeholder.parse?_this hvalue, ← anchor?_eq_anchorAt? he]
  cases Placeholder.oneLine rest.toList with
  | none => rfl
  | some line =>
    rw [Option.map_some, Option.bind_some, Option.bind_some, value?]
    cases value?.anchor? context ((resolvePlaceholders context sentences language es).take i).reverse e u with
    | none => rfl
    | some a =>
      rw [Option.bind_eq_bind, Option.bind_some, Option.bind_some]
      cases u.shift? a 0 <;> rfl

/-- What a mention of the current unit stands for: the anchor as it is and the text that follows, if the anchor is a
value of the unit. Else it stays as it was, and so it does where the text goes on in another line. -/
def StandsFor (u : CalendarUnit) (anchor : Option String) (rest old new : String) : Prop :=
  (∃ a, anchor = some a ∧ u.WellFormed a ∧ '\n' ∉ rest.toList ∧ new = a ++ rest) ∨
    (∀ a, anchor = some a → u.WellFormed a → '\n' ∈ rest.toList) ∧ new = old

/-- The anchor of a mention of the current unit is an impossible month that is taken for another one. -/
def Misread (u : CalendarUnit) (anchor : Option String) (rest : String) (y m : Nat) : Prop :=
  '\n' ∉ rest.toList ∧ ∃ a, anchor = some a ∧ u.Overruns a y m

open CalendarUnit

variable {anchor : Option String} {rest : String}

theorem currentValue?_cases (hanchor : ∀ a, anchor = some a → u.IsAnchor a) :
    (∃ a, anchor = some a ∧ u.WellFormed a ∧ '\n' ∉ rest.toList ∧ currentValue? u anchor rest = some (a ++ rest)) ∨
      (currentValue? u anchor rest = none ∧ (∀ a, anchor = some a → u.WellFormed a → '\n' ∈ rest.toList) ∧
        ∀ y m, ¬ Misread u anchor rest y m) ∨
      ∃ y m f, Misread u anchor rest y m ∧ month.Has f ∧ month.InYears f ∧
        month.point f = month.point (.inYear y m) ∧ currentValue? u anchor rest = some (month.text f ++ rest) := by
  by_cases hline : '\n' ∈ rest.toList
  · have hnone : Placeholder.oneLine rest.toList = none := by
      simp [Placeholder.oneLine, hline]
    right; left
    refine ⟨by rw [currentValue?, hnone, Option.bind_none], fun a _ _ => hline, ?_⟩
    rintro y m ⟨hrest, -⟩
    exact hrest hline
  have hcurrent : currentValue? u anchor rest = anchor.bind fun a => (u.shift? a 0).map (· ++ rest) := by
    rw [currentValue?, Placeholder.oneLine_eq_some_iff.2 ⟨hline, rfl⟩, Option.bind_some, String.ofList_toList]
  rw [hcurrent]
  cases anchor with
  | none =>
    right; left
    refine ⟨rfl, ?_, ?_⟩
    · intro a ha
      cases ha
    · rintro y m ⟨-, a, ha, -⟩
      cases ha
  | some a =>
    rw [Option.bind_some]
    rcases shift?_zero_cases (hanchor a rfl) with
      ⟨hwell, hshift⟩ | ⟨hwell, hshift, hnone⟩ | ⟨y, m, f, hover, hf, hyears, hpoint, hshift⟩
    · left
      exact ⟨a, rfl, hwell, hline, by rw [hshift, Option.map_some]⟩
    · right; left
      refine ⟨by rw [hshift, Option.map_none], ?_, ?_⟩
      · rintro _ ⟨⟩ hwell'
        exact absurd hwell' hwell
      · rintro y m ⟨-, _, ⟨⟩, hover⟩
        exact hnone y m hover
    · right; right
      exact ⟨y, m, f, ⟨hline, a, rfl, hover⟩, hf, hyears, hpoint, by rw [hshift, Option.map_some]⟩

theorem Misread.not_wellFormed {y m : Nat} (h : Misread u anchor rest y m) {a : String} (ha : anchor = some a) :
    ¬ u.WellFormed a := by
  obtain ⟨-, b, hb, hover⟩ := h
  obtain rfl : b = a := Option.some.inj (hb.symm.trans ha)
  exact hover.not_wellFormed

theorem Misread.point_eq {y m y' m' : Nat} (h : Misread u anchor rest y m) (h' : Misread u anchor rest y' m') :
    month.point (.inYear y m) = month.point (.inYear y' m') := by
  obtain ⟨-, a, ha, hover⟩ := h
  obtain ⟨-, b, hb, hover'⟩ := h'
  obtain rfl : a = b := Option.some.inj (ha.symm.trans hb)
  exact Option.some.inj (hover.read?_eq.symm.trans hover'.read?_eq)

end Resolution

open Resolution CalendarUnit

/-- A mention of the current unit becomes its anchor, unchanged, with the text that follows, or it stays open where
there is no anchor or one that is no value of the unit; only an impossible month as the anchor is taken for the month at
the same point. -/
theorem resolvePlaceholders_this (context : DocumentContext) (sentences : List Sentence) (language : Language)
    {es : List TimeExpression} {e : TimeExpression} {i : Nat} {u : CalendarUnit} {rest : String} (he : es[i]? = some e)
    (hvalue : e.value = "UNDEF-this-" ++ u.name ++ rest) :
    ∃ anchor new, anchor = anchorAt? context (standing context sentences language es i) i u ∧
      (resolvePlaceholders context sentences language es)[i]? = some { e with value := new } ∧
      (StandsFor u anchor rest e.value new ↔ ∀ y m, ¬ Misread u anchor rest y m) ∧
      ∀ y m, Misread u anchor rest y m →
        ∃ f, month.Has f ∧ month.point f = month.point (.inYear y m) ∧ new = month.text f ++ rest := by
  have hresolved := getElem?_resolveFrom context sentences language [] es i
  rw [List.append_nil, he, Option.map_some, ← resolvePlaceholders,
    (rewrites_resolveOne context sentences language _ e).fields, value_resolveOne_this he hvalue] at hresolved
  refine ⟨_, _, rfl, hresolved, ?_⟩
  have hanchor : ∀ a, anchorAt? context (standing context sentences language es i) i u = some a → u.IsAnchor a :=
    fun a => isAnchor_of_anchorAt?
  generalize anchorAt? context (standing context sentences language es i) i u = anchor at hanchor
  rcases @currentValue?_cases u anchor rest hanchor with
    ⟨a, ha, hwell, hline, hnew⟩ | ⟨hnew, hopen, hnone⟩ | ⟨y, m, f, hmisread, hf, hyears, hpoint, hnew⟩
  · have hnone : ∀ y m, ¬ Misread u anchor rest y m := fun y m h => h.not_wellFormed ha hwell
    rw [hnew, Option.getD_some]
    constructor
    · exact iff_of_true (.inl ⟨a, ha, hwell, hline, rfl⟩) hnone
    · intro y m h
      exact absurd h (hnone y m)
  · rw [hnew, Option.getD_none]
    constructor
    · exact iff_of_true (.inr ⟨hopen, rfl⟩) hnone
    · intro y m h
      exact absurd h (hnone y m)
  · rw [hnew, Option.getD_some]
    constructor
    · refine iff_of_false ?_ (fun h => h y m hmisread)
      rintro (⟨a, ha, hwell, -⟩ | ⟨-, heq⟩)
      · exact hmisread.not_wellFormed ha hwell
      · -- what is written begins with a digit, and the placeholder does not
        have hbegun : Begun (month.text f ++ rest) := (Mention.begun_of_spells (spells_text hf hyears)).append rest
        refine hbegun.not_undefined ?_
        rw [heq, hvalue]
        exact ⟨_, by simp only [String.toList_append]; rfl⟩
    · intro y' m' h
      exact ⟨f, hf, hpoint.trans (hmisread.point_eq h), rfl⟩

/-- A month 13 is taken for the January after it. -/
theorem resolvePlaceholders_this_month_thirteen :
    [mentionAt "2010-13" 0, mentionAt "UNDEF-this-month" 20][1]? = some (mentionAt "UNDEF-this-month" 20) ∧
      (mentionAt "UNDEF-this-month" 20).value = "UNDEF-this-" ++ month.name ++ "" ∧
      anchorAt? {} (standing {} [] .english [mentionAt "2010-13" 0, mentionAt "UNDEF-this-month" 20] 1) 1 month =
        some "2010-13" ∧
      (resolvePlaceholders {} [] .english [mentionAt "2010-13" 0, mentionAt "UNDEF-this-month" 20])[1]? =
        some (mentionAt "2011-01" 20) ∧
      ¬ StandsFor month (some "2010-13") "" "UNDEF-this-month" "2011-01" := by
  have he : [mentionAt "2010-13" 0, mentionAt "UNDEF-this-month" 20][1]? = some (mentionAt "UNDEF-this-month" 20) := rfl
  have hvalue : (mentionAt "UNDEF-this-month" 20).value = "UNDEF-this-" ++ month.name ++ "" := by decide
  have hanchor : anchorAt? {} (standing {} [] .english [mentionAt "2010-13" 0, mentionAt "UNDEF-this-month" 20] 1) 1
      month = some "2010-13" := by decide +kernel
  have hresolved : (resolvePlaceholders {} [] .english
      [mentionAt "2010-13" 0, mentionAt "UNDEF-this-month" 20])[1]? = some (mentionAt "2011-01" 20) := by
    decide +kernel
  have hover : month.Overruns "2010-13" 2010 13 :=
    ⟨rfl, ⟨by decide, by decide⟩, by decide, ⟨by decide, by decide⟩, by decide +kernel⟩
  obtain ⟨anchor, new, hfound, hnew, hiff, -⟩ := resolvePlaceholders_this {} [] .english he hvalue
  obtain rfl : new = "2011-01" := congrArg TimeExpression.value (Option.some.inj (hnew.symm.trans hresolved))
  rw [hfound, hanchor] at hiff
  refine ⟨he, hvalue, hanchor, hresolved, ?_⟩
  intro hstands
  exact hiff.1 hstands 2010 13 ⟨by decide, _, rfl, hover⟩

end TemporalTagger
