/-
What values offer as anchors. Every granularity asks for values of certain shapes; a value of such a shape gives its
front, the whole of it, or the week, quarter or season that it lies in. Main facts: `hasShape_shapeOf_iff` and
`offer_eq_shape_iff`.
-/
import TemporalTagger.Proofs.Calendar.Succession
import TemporalTagger.Proofs.Context.Mentions

namespace TemporalTagger

open Text

/-- Numbers that fit the places of a value, whether or not the calendar has them. -/
def CalendarUnit.Fits : CalendarUnit → Numbers → Prop
  | century, .whole n => n < 100
  | decade, .whole n => n < 1000
  | year, .whole n => n < 10000
  | quarter, .inYear y q => y < 10000 ∧ 1 ≤ q ∧ q ≤ 4
  | month, .inYear y n | week, .inYear y n => y < 10000 ∧ n < 100
  | day, .inMonth y m d => y < 10000 ∧ m < 100 ∧ d < 100
  | _, _ => False

namespace Mention

open CalendarUnit

/-! ## Texts of a shape -/

theorem hasShape_append_iff {ms ns : List Mark} {cs : List Char} :
    HasShape (ms ++ ns) cs ↔ ∃ as bs, as ++ bs = cs ∧ HasShape ms as ∧ HasShape ns bs := by
  constructor
  · intro h
    induction ms generalizing cs with
    | nil => exact ⟨[], cs, rfl, .nil, h⟩
    | cons m ms ih =>
      rcases h with _ | ⟨hc, h⟩
      obtain ⟨as, bs, rfl, has, hbs⟩ := ih h
      exact ⟨_ :: as, bs, rfl, .cons hc has, hbs⟩
  · rintro ⟨as, bs, rfl, has, hbs⟩
    exact List.rel_append has hbs

theorem hasShape_literal_iff {ds cs : List Char} : HasShape (ds.map .exactly) cs ↔ ds = cs := by
  have hsame : ∀ d c : Char, (Mark.exactly d).accepts c = true ↔ d = c := by
    intro d c
    rw [Mark.accepts, decide_eq_true_eq, eq_comm]
  simp only [HasShape, List.forall₂_map_left_iff, hsame, List.forall₂_eq_eq_eq]

theorem hasShape_digits_iff {width : Nat} (hw : 0 < width) {cs : List Char} :
    HasShape (digits width) cs ↔ ∃ n : Nat, n < 10 ^ width ∧ (padded width n).toList = cs := by
  constructor
  · intro h
    have hdigits : ∀ c ∈ cs, c.isDigit = true := by
      intro c hc
      obtain ⟨m, hm, haccepts⟩ := exists_accepts h hc
      rwa [List.eq_of_mem_replicate hm] at haccepts
    have hnumeral : IsNumeral width (digitsValue cs) cs :=
      ⟨by simpa [digits] using h.length_eq.symm, hdigits, rfl⟩
    exact ⟨digitsValue cs, hnumeral.lt, hnumeral.toList_padded hw⟩
  · rintro ⟨n, hn, rfl⟩
    exact hasShape_digits (isNumeral_padded hw hn)

theorem hasShape_quarter_iff {cs : List Char} :
    HasShape [.oneOf ['1', '2', '3', '4']] cs ↔ ∃ q : Nat, (1 ≤ q ∧ q ≤ 4) ∧ (toString q).toList = cs := by
  constructor
  · rintro (_ | ⟨hc, _ | _⟩)
    have hmem := List.contains_iff_mem.1 hc
    simp only [List.mem_cons, List.not_mem_nil, or_false] at hmem
    rcases hmem with rfl | rfl | rfl | rfl
    exacts [⟨1, by decide⟩, ⟨2, by decide⟩, ⟨3, by decide⟩, ⟨4, by decide⟩]
  · rintro ⟨q, ⟨hlo, hhi⟩, rfl⟩
    interval_cases q <;> exact .cons (by decide) .nil

/-- A text has two shapes with a fixed text between them if it is put together from texts of these shapes. -/
theorem hasShape_joined_iff {α β : Type} {ms ns : List Mark} {p : α → Prop} {q : β → Prop} {a : α → String}
    {b : β → String} (sep : String) (hms : ∀ {cs}, HasShape ms cs ↔ ∃ x, p x ∧ (a x).toList = cs)
    (hns : ∀ {cs}, HasShape ns cs ↔ ∃ y, q y ∧ (b y).toList = cs) {cs : List Char} :
    HasShape (ms ++ (sep.toList.map .exactly ++ ns)) cs ↔ ∃ x y, (p x ∧ q y) ∧ (a x ++ sep ++ b y).toList = cs := by
  simp only [hasShape_append_iff, hasShape_literal_iff, hms, hns]
  constructor
  · rintro ⟨_, _, rfl, ⟨x, hx, rfl⟩, _, _, rfl, rfl, ⟨y, hy, rfl⟩⟩
    exact ⟨x, y, ⟨hx, hy⟩, by simp⟩
  · rintro ⟨x, y, ⟨hx, hy⟩, rfl⟩
    exact ⟨_, _, by simp, ⟨x, hx, rfl⟩, _, _, rfl, rfl, ⟨y, hy, rfl⟩⟩

theorem exists_numbers_iff {p : Numbers → Prop} :
    (∃ f, p f) ↔ (∃ n, p (.whole n)) ∨ (∃ y n, p (.inYear y n)) ∨ ∃ y m d, p (.inMonth y m d) := by
  constructor
  · rintro ⟨n | ⟨y, n⟩ | ⟨y, m, d⟩, h⟩
    · exact .inl ⟨n, h⟩
    · exact .inr (.inl ⟨y, n, h⟩)
    · exact .inr (.inr ⟨y, m, d, h⟩)
  · rintro (⟨n, h⟩ | ⟨y, n, h⟩ | ⟨y, m, d, h⟩) <;> exact ⟨_, h⟩

/-- The shape of a unit is that of its values, with any digits in their places. -/
theorem hasShape_shapeOf_iff {u : CalendarUnit} {cs : List Char} :
    HasShape (shapeOf u) cs ↔ ∃ f, u.Fits f ∧ (u.text f).toList = cs := by
  have hdigits₂ : ∀ {cs}, HasShape (digits 2) cs ↔ ∃ n : Nat, n < 100 ∧ (padded 2 n).toList = cs :=
    hasShape_digits_iff (by decide)
  have hdigits₄ : ∀ {cs}, HasShape (digits 4) cs ↔ ∃ n : Nat, n < 10000 ∧ (padded 4 n).toList = cs :=
    hasShape_digits_iff (by decide)
  have hmonth : ∀ {cs}, HasShape monthShape cs ↔
      ∃ x : Nat × Nat, (x.1 < 10000 ∧ x.2 < 100) ∧ (padded 4 x.1 ++ "-" ++ padded 2 x.2).toList = cs := by
    intro cs
    rw [Prod.exists]
    exact hasShape_joined_iff "-" hdigits₄ hdigits₂
  rw [exists_numbers_iff]
  cases u with
  | century => simpa [shapeOf, Fits, text] using hdigits₂
  | decade => simpa [shapeOf, Fits, text] using @hasShape_digits_iff 3 (by decide) cs
  | year => simpa [shapeOf, yearShape, Fits, text] using hdigits₄
  | quarter =>
    have hquarter := @hasShape_joined_iff _ _ _ _ _ _ _ _ "-Q" hdigits₄ hasShape_quarter_iff cs
    simpa [shapeOf, quarterShape, yearShape, Fits, text] using hquarter
  | month => simpa [shapeOf, Fits, text] using hmonth
  | week =>
    have hweek := @hasShape_joined_iff _ _ _ _ _ _ _ _ "-W" hdigits₄ hdigits₂ cs
    simpa [shapeOf, weekShape, yearShape, Fits, text] using hweek
  | day =>
    have hday := @hasShape_joined_iff _ _ _ _ _ _ _ _ "-" hmonth hdigits₂ cs
    simpa [shapeOf, dayShape, Fits, text, and_assoc] using hday

theorem front?_eq_some_iff {marks : List Mark} {cs part rest : List Char} :
    front? marks cs = some (part, rest) ↔ HasShape marks part ∧ cs = part ++ rest := by
  constructor
  · intro h
    induction marks generalizing cs part with
    | nil =>
      cases h
      exact ⟨.nil, rfl⟩
    | cons m marks ih =>
      cases cs with
      | nil => cases h
      | cons c cs =>
        obtain ⟨hc, h⟩ := Option.ite_none_right_eq_some.1 h
        obtain ⟨⟨part, rest⟩, hfront, h⟩ := Option.map_eq_some_iff.1 h
        cases h
        obtain ⟨hpart, rfl⟩ := ih hfront
        exact ⟨.cons hc hpart, rfl⟩
  · rintro ⟨hpart, rfl⟩
    exact front?_of_hasShape hpart rest

theorem ofShape?_eq_some_iff {marks : List Mark} {cs part : List Char} :
    ofShape? marks cs = some part ↔ HasShape marks part ∧ part <+: cs := by
  constructor
  · intro h
    obtain ⟨⟨_, rest⟩, hfront, rfl⟩ := Option.map_eq_some_iff.1 h
    obtain ⟨hpart, rfl⟩ := front?_eq_some_iff.1 hfront
    exact ⟨hpart, List.prefix_append _ _⟩
  · rintro ⟨hpart, rest, rfl⟩
    exact ofShape?_append hpart rest

/-! ## What values give -/

/-- The marks of the eras that a value may begin with: none, and the one for the years before Christ. -/
def eras : List String := ["", "BC"]

/-- The months of the seasons. -/
def seasons : List (String × List Nat) :=
  [("WI", [12, 1, 2]), ("SP", [3, 4, 5]), ("SU", [6, 7, 8]), ("FA", [9, 10, 11])]

def seasonOf? (month : Nat) : Option String := (seasons.find? (month ∈ ·.2)).map (·.1)

/-- The quarter of a month. What is no month counts as one of the first quarter. -/
def quarterOf (month : Nat) : Nat := if 1 ≤ month ∧ month ≤ 12 then (month - 1) / 3 + 1 else 1

/-- A value begins with the value of a unit that has these numbers, whether or not the calendar has them. -/
def HasFront (value : String) (u : CalendarUnit) (f : Numbers) : Prop :=
  u.Fits f ∧ (u.text f).toList <+: value.toList

/-- A value begins so after the mark of an era. -/
def HasEraFront (value : String) (era : String) (u : CalendarUnit) (f : Numbers) : Prop :=
  era ∈ eras ∧ u.Fits f ∧ (era ++ u.text f).toList <+: value.toList

/-- What a value gives as an anchor at a granularity, if it has a shape that the granularity asks for. A date gives its
week if there is such a date, and a month its season if there is such a month; else they give nothing. -/
def Gives : Granularity → String → Option String → Prop
  | .century, value, anchor => ∃ era f, HasEraFront value era century f ∧ anchor = some (era ++ century.text f)
  | .decade, value, anchor => ∃ era f, HasEraFront value era decade f ∧ anchor = some (era ++ decade.text f)
  | .year, value, anchor => ∃ era f, HasEraFront value era year f ∧ anchor = some (era ++ year.text f)
  | .dateYear, value, anchor => (∃ era f, HasEraFront value era year f) ∧ anchor = some value
  | .month, value, anchor => ∃ era f, HasEraFront value era month f ∧ anchor = some (era ++ month.text f)
  | .monthWithDetails, value, anchor => (∃ f, HasFront value month f) ∧ anchor = some value
  | .day, value, anchor => ∃ f, HasFront value day f ∧ anchor = some (day.text f)
  | .week, value, anchor =>
    (∃ y m d, HasFront value day (.inMonth y m d) ∧ anchor = (Date.ofYmd? y m d).map week.format) ∨
      ∃ f, HasFront value week f ∧ anchor = some (week.text f)
  | .quarter, value, anchor =>
    (∃ y m, HasFront value month (.inYear y m) ∧ anchor = some (quarter.text (.inYear y (quarterOf m)))) ∨
      ∃ f, HasFront value quarter f ∧ anchor = some (quarter.text f)
  | .dateQuarter, value, anchor => ∃ f, HasFront value quarter f ∧ anchor = some (quarter.text f)
  | .season, value, anchor =>
    (∃ y m, HasFront value month (.inYear y m) ∧ anchor = (seasonOf? m).map (padded 4 y ++ "-" ++ ·)) ∨
      ∃ y : Nat, ∃ s ∈ seasons, y < 10000 ∧ (padded 4 y ++ "-" ++ s.1).toList <+: value.toList ∧
        anchor = some (padded 4 y ++ "-" ++ s.1)

variable {value : String} {u : CalendarUnit}

theorem ofShape?_shapeOf_iff {part : List Char} :
    ofShape? (shapeOf u) value.toList = some part ↔ ∃ f, HasFront value u f ∧ (u.text f).toList = part := by
  rw [ofShape?_eq_some_iff, hasShape_shapeOf_iff]
  constructor
  · rintro ⟨⟨f, hf, rfl⟩, hbegins⟩
    exact ⟨f, ⟨hf, hbegins⟩, rfl⟩
  · rintro ⟨f, ⟨hf, hbegins⟩, rfl⟩
    exact ⟨⟨f, hf, rfl⟩, hbegins⟩

/-- A value that begins with a digit has no mark of an era. -/
theorem after?_era_eq_none {cs part : List Char} (hpart : HasShape (shapeOf u) part) (hbegins : part <+: cs) :
    after? ['B', 'C'] cs = none := by
  obtain ⟨ms, hms⟩ := exists_shapeOf_eq u
  rw [hms] at hpart
  rcases hpart with _ | ⟨hc, -⟩
  obtain ⟨rest, rfl⟩ := hbegins
  refine if_neg fun hera => ?_
  obtain ⟨t, ht⟩ := List.isPrefixOf_iff_prefix.1 hera
  obtain ⟨rfl, -⟩ := List.cons.inj ht
  cases hc

theorem ofEraShape?_shapeOf_iff {part : List Char} :
    ofEraShape? (shapeOf u) value.toList = some part ↔
      ∃ era f, HasEraFront value era u f ∧ (era ++ u.text f).toList = part := by
  constructor
  · intro h
    unfold ofEraShape? at h
    split at h
    next rest hrest =>
      obtain ⟨part', hpart', rfl⟩ := Option.map_eq_some_iff.1 h
      obtain ⟨hshape, hbegins⟩ := ofShape?_eq_some_iff.1 hpart'
      obtain ⟨f, hf, rfl⟩ := hasShape_shapeOf_iff.1 hshape
      refine ⟨"BC", f, ⟨by decide, hf, ?_⟩, by simp⟩
      rw [after?_eq_some_iff.1 hrest, String.toList_append]
      exact (List.prefix_append_right_inj _).2 hbegins
    next =>
      obtain ⟨f, ⟨hf, hbegins⟩, rfl⟩ := ofShape?_shapeOf_iff.1 h
      exact ⟨"", f, ⟨by decide, hf, by simpa using hbegins⟩, by simp⟩
  · rintro ⟨era, f, ⟨hera, hf, hbegins⟩, rfl⟩
    have hshape : HasShape (shapeOf u) (u.text f).toList := hasShape_shapeOf_iff.2 ⟨f, hf, rfl⟩
    simp only [eras, List.mem_cons, List.not_mem_nil, or_false] at hera
    unfold ofEraShape?
    rcases hera with rfl | rfl
    · rw [String.empty_append] at hbegins ⊢
      rw [after?_era_eq_none hshape hbegins]
      exact ofShape?_eq_some_iff.2 ⟨hshape, hbegins⟩
    · rw [String.toList_append] at hbegins ⊢
      obtain ⟨rest, hrest⟩ := hbegins
      rw [← hrest, List.append_assoc, show "BC".toList = ['B', 'C'] from rfl, after?_append]
      simp only [ofShape?_append hshape, Option.map_some, List.cons_append, List.nil_append]

theorem ofFront_eq_shape_iff {found : Option (List Char)} {anchor : Option String} :
    Offer.ofFront found = .shape anchor ↔ ∃ part, found = some part ∧ anchor = some (String.ofList part) := by
  cases found with
  | none => simp [Offer.ofFront]
  | some part => simp [Offer.ofFront, eq_comm]

theorem ofFront_shapeOf_iff (u : CalendarUnit) {anchor : Option String} :
    Offer.ofFront (ofShape? (shapeOf u) value.toList) = .shape anchor ↔
      ∃ f, HasFront value u f ∧ anchor = some (u.text f) := by
  simp only [ofFront_eq_shape_iff, ofShape?_shapeOf_iff]
  constructor
  · rintro ⟨_, ⟨f, hf, rfl⟩, rfl⟩
    exact ⟨f, hf, by rw [String.ofList_toList]⟩
  · rintro ⟨f, hf, rfl⟩
    exact ⟨_, ⟨f, hf, rfl⟩, by rw [String.ofList_toList]⟩

theorem ofFront_eraShapeOf_iff (u : CalendarUnit) {anchor : Option String} :
    Offer.ofFront (ofEraShape? (shapeOf u) value.toList) = .shape anchor ↔
      ∃ era f, HasEraFront value era u f ∧ anchor = some (era ++ u.text f) := by
  simp only [ofFront_eq_shape_iff, ofEraShape?_shapeOf_iff]
  constructor
  · rintro ⟨_, ⟨era, f, hf, rfl⟩, rfl⟩
    exact ⟨era, f, hf, by rw [String.ofList_toList]⟩
  · rintro ⟨era, f, hf, rfl⟩
    exact ⟨_, ⟨era, f, hf, rfl⟩, by rw [String.ofList_toList]⟩

/-- A month is read at the front of a value where its shape is. -/
theorem yearAndMonth?_eq_some_iff {ys ms : List Char} :
    yearAndMonth? value.toList = some (ys, ms) ↔
      ∃ y m : Nat, HasFront value month (.inYear y m) ∧ (padded 4 y).toList = ys ∧ (padded 2 m).toList = ms := by
  constructor
  · intro h
    obtain ⟨⟨ys, rest⟩, hyear, h⟩ := Option.bind_eq_some_iff.1 h
    obtain ⟨⟨part, rest'⟩, hmonth, h⟩ := Option.bind_eq_some_iff.1 h
    cases h
    obtain ⟨hys, hcs⟩ := front?_eq_some_iff.1 hyear
    obtain ⟨hpart, rfl⟩ := front?_eq_some_iff.1 hmonth
    have hpart : HasShape (['-'].map .exactly ++ digits 2) part := hpart
    obtain ⟨_, ms, rfl, hhyphen, hms⟩ := hasShape_append_iff.1 hpart
    obtain rfl := hasShape_literal_iff.1 hhyphen
    obtain ⟨y, hy, rfl⟩ := (hasShape_digits_iff (by decide)).1 hys
    obtain ⟨m, hm, rfl⟩ := (hasShape_digits_iff (by decide)).1 hms
    exact ⟨y, m, ⟨⟨hy, hm⟩, rest', by rw [hcs]; simp [text]⟩, rfl, rfl⟩
  · rintro ⟨y, m, ⟨⟨hy, hm⟩, rest, hrest⟩, rfl, rfl⟩
    have hys : HasShape (digits 4) (padded 4 y).toList := hasShape_digits (isNumeral_padded (by decide) hy)
    have hms : HasShape (.exactly '-' :: digits 2) ('-' :: (padded 2 m).toList) :=
      .cons (by decide) (hasShape_digits (isNumeral_padded (by decide) hm))
    have hcs : value.toList = (padded 4 y).toList ++ ('-' :: (padded 2 m).toList ++ rest) := by
      rw [← hrest]
      simp [text]
    simp only [yearAndMonth?, hcs, yearShape, front?_of_hasShape hys, front?_of_hasShape hms, Option.bind_eq_bind,
      Option.bind_some, List.drop_succ_cons, List.drop_zero]

theorem seasonPart?_eq_some_iff {part : List Char} :
    seasonPart? value.toList = some part ↔
      ∃ y : Nat, ∃ s ∈ seasons, y < 10000 ∧ (padded 4 y ++ "-" ++ s.1).toList <+: value.toList ∧
        (padded 4 y ++ "-" ++ s.1).toList = part := by
  have hshape : ∀ cs, HasShape (yearShape ++ [.exactly '-']) cs ↔
      ∃ y : Nat, y < 10000 ∧ (padded 4 y ++ "-").toList = cs := by
    intro cs
    show HasShape (digits 4 ++ ['-'].map .exactly) cs ↔ _
    simp only [hasShape_append_iff, hasShape_digits_iff (show 0 < 4 by decide), hasShape_literal_iff]
    constructor
    · rintro ⟨_, _, rfl, ⟨y, hy, rfl⟩, rfl⟩
      exact ⟨y, hy, by simp⟩
    · rintro ⟨y, hy, rfl⟩
      exact ⟨_, _, by simp, ⟨y, hy, rfl⟩, rfl⟩
  constructor
  · intro h
    obtain ⟨⟨_, rest⟩, hfront, h⟩ := Option.bind_eq_some_iff.1 h
    obtain ⟨hcode, h⟩ := Option.ite_none_right_eq_some.1 h
    cases h
    obtain ⟨hys, hcs⟩ := front?_eq_some_iff.1 hfront
    obtain ⟨y, hy, rfl⟩ := (hshape _).1 hys
    obtain ⟨s, hs, hcode⟩ : ∃ s ∈ seasons, s.1.toList = rest.take 2 := by
      simp only [List.mem_cons, List.not_mem_nil, or_false] at hcode
      rcases hcode with h | h | h | h <;> rw [h] <;> decide
    refine ⟨y, s, hs, hy, ?_, by rw [String.toList_append, hcode]⟩
    rw [hcs, String.toList_append, hcode]
    exact (List.prefix_append_right_inj _).2 (List.take_prefix 2 rest)
  · rintro ⟨y, s, hs, hy, ⟨rest, hrest⟩, rfl⟩
    have hcode : (s.1.toList ++ rest).take 2 = s.1.toList ∧
        s.1.toList ∈ [['S', 'P'], ['S', 'U'], ['F', 'A'], ['W', 'I']] := by
      simp only [seasons, List.mem_cons, List.not_mem_nil, or_false] at hs
      rcases hs with rfl | rfl | rfl | rfl <;> exact ⟨rfl, by decide⟩
    rw [seasonPart?, ← hrest, String.toList_append, List.append_assoc,
      front?_of_hasShape ((hshape _).2 ⟨y, hy, rfl⟩)]
    show (if (s.1.toList ++ rest).take 2 ∈ _ then _ else none) = _
    rw [hcode.1, if_pos hcode.2, String.toList_append]

/-- The quarter of a month as a digit. -/
theorem toString_quarterOf {m : Nat} {ms : List Char} (hms : IsNumeral 2 m ms) :
    (toString (quarterOf m)).toList = [quarterOfMonth ms] := by
  have hquarter : quarterOf m =
      if 4 ≤ m ∧ m ≤ 6 then 2 else if 7 ≤ m ∧ m ≤ 9 then 3 else if 10 ≤ m ∧ m ≤ 12 then 4 else 1 := by
    unfold quarterOf
    split_ifs <;> omega
  rw [hquarter, quarterOfMonth, hms.value]
  split_ifs <;> rfl

theorem seasonOfMonth?_eq {m : Nat} {ms : List Char} (hms : IsNumeral 2 m ms) :
    seasonOfMonth? ms = (seasonOf? m).map String.toList := by
  have hall : ∀ m < 100, (seasonOf? m).map String.toList =
      if m = 12 ∨ m = 1 ∨ m = 2 then some ['W', 'I']
      else if 3 ≤ m ∧ m ≤ 5 then some ['S', 'P']
      else if 6 ≤ m ∧ m ≤ 8 then some ['S', 'U']
      else if 9 ≤ m ∧ m ≤ 11 then some ['F', 'A']
      else none := by
    decide
  rw [hall m hms.lt, seasonOfMonth?, hms.value]

/-- The sixth character of a value is the one after the hyphen that follows its year. -/
theorem sixth_eq {y : Nat} {c : Char} {tail : List Char} (hy : y < 10000)
    (h : (padded 4 y).toList ++ '-' :: c :: tail <+: value.toList) : value.toList[5]? = some c := by
  have hlength : (padded 4 y).toList.length = 4 := (isNumeral_padded (by decide) hy).length
  obtain ⟨rest, hrest⟩ := h
  rw [← hrest, List.append_assoc, List.getElem?_append_right (by omega), hlength]
  rfl

theorem isDigit_sixth {y m : Nat} (h : HasFront value month (.inYear y m)) :
    ∃ c, value.toList[5]? = some c ∧ c.isDigit = true := by
  obtain ⟨⟨hy, hm⟩, hbegins⟩ := h
  have hms : IsNumeral 2 m (padded 2 m).toList := isNumeral_padded (by decide) hm
  obtain ⟨c, tail, hcs⟩ := List.exists_cons_of_length_pos (hms.length ▸ (by decide : 0 < 2))
  have hdigit : (padded 4 y).toList ++ '-' :: c :: tail <+: value.toList := by
    simpa [text, hcs] using hbegins
  exact ⟨c, sixth_eq hy hdigit, hms.digits c (hcs ▸ List.mem_cons_self)⟩

theorem hasFront_month_of_day {y m d : Nat} (h : HasFront value day (.inMonth y m d)) :
    HasFront value month (.inYear y m) := by
  obtain ⟨⟨hy, hm, -⟩, hbegins⟩ := h
  refine ⟨⟨hy, hm⟩, List.IsPrefix.trans ?_ hbegins⟩
  simp [text]

/-- A letter after the year keeps a value from being taken for a month. -/
theorem not_hasFront_month {y : Nat} {c : Char} {tail : List Char} (hy : y < 10000) (hc : c.isDigit = false)
    (h : (padded 4 y).toList ++ '-' :: c :: tail <+: value.toList) (y' m' : Nat) :
    ¬ HasFront value month (.inYear y' m') := by
  intro hfront
  obtain ⟨c', hsixth, hc'⟩ := isDigit_sixth hfront
  rw [sixth_eq hy h] at hsixth
  cases hsixth
  rw [hc] at hc'
  cases hc'

theorem yearAndMonth?_eq_none (h : ∀ y m, ¬ HasFront value month (.inYear y m)) :
    yearAndMonth? value.toList = none := by
  cases hfound : yearAndMonth? value.toList with
  | none => rfl
  | some found =>
    obtain ⟨y, m, hf, -⟩ := yearAndMonth?_eq_some_iff.1 hfound
    exact absurd hf (h y m)

theorem ofShape?_day_eq_none (h : ∀ y m, ¬ HasFront value month (.inYear y m)) :
    ofShape? (shapeOf day) value.toList = none := by
  cases hfound : ofShape? (shapeOf day) value.toList with
  | none => rfl
  | some found =>
    obtain ⟨_ | _ | ⟨y, m, d⟩, hf, -⟩ := ofShape?_shapeOf_iff.1 hfound
    · exact hf.1.elim
    · exact hf.1.elim
    · exact absurd (hasFront_month_of_day hf) (h y m)

theorem parse?_text {y m d : Nat} (h : day.Fits (.inMonth y m d)) :
    Date.parse? (day.text (.inMonth y m d)) = Date.ofYmd? y m d :=
  Date.parse?_of_isNumeral (by simp [text]) (isNumeral_padded (by decide) h.1) (isNumeral_padded (by decide) h.2.1)
    (isNumeral_padded (by decide) h.2.2)

theorem ofList_quarter {y m : Nat} (hm : m < 100) :
    String.ofList ((padded 4 y).toList ++ ['-', 'Q', quarterOfMonth (padded 2 m).toList]) =
      quarter.text (.inYear y (quarterOf m)) := by
  rw [← String.toList_inj, String.toList_ofList]
  simp only [text, String.toList_append, toString_quarterOf (isNumeral_padded (by decide) hm), List.append_assoc]
  rfl

theorem map_season (y : Nat) {m : Nat} (hm : m < 100) :
    ((seasonOfMonth? (padded 2 m).toList).map fun code => String.ofList ((padded 4 y).toList ++ '-' :: code)) =
      (seasonOf? m).map (padded 4 y ++ "-" ++ ·) := by
  rw [seasonOfMonth?_eq (isNumeral_padded (by decide) hm), Option.map_map]
  refine congrArg (Option.map · _) (funext fun s => ?_)
  rw [Function.comp_apply, ← String.toList_inj]
  simp

/-- What a value offers is what it gives, and it offers nothing where it has no shape that is asked for. -/
theorem offer_eq_shape_iff {g : Granularity} {anchor : Option String} :
    offer value g = .shape anchor ↔ Gives g value anchor := by
  have hwhole : ∀ found : Option (List Char),
      (if found.isSome then Offer.shape (some value) else .noShape) = .shape anchor ↔
        (∃ part, found = some part) ∧ anchor = some value := by
    intro found
    cases found <;> simp [eq_comm]
  cases g with
  | century => exact ofFront_eraShapeOf_iff century
  | decade => exact ofFront_eraShapeOf_iff decade
  | year => exact ofFront_eraShapeOf_iff year
  | month => exact ofFront_eraShapeOf_iff month
  | day => exact ofFront_shapeOf_iff day
  | dateQuarter => exact ofFront_shapeOf_iff quarter
  | dateYear =>
    refine (hwhole _).trans (and_congr_left fun _ => ?_)
    simp only [show yearShape = shapeOf year from rfl, ofEraShape?_shapeOf_iff]
    constructor
    · rintro ⟨_, era, f, hf, rfl⟩
      exact ⟨era, f, hf⟩
    · rintro ⟨era, f, hf⟩
      exact ⟨_, era, f, hf, rfl⟩
  | monthWithDetails =>
    refine (hwhole _).trans (and_congr_left fun _ => ?_)
    simp only [show monthShape = shapeOf month from rfl, ofShape?_shapeOf_iff]
    constructor
    · rintro ⟨_, f, hf, rfl⟩
      exact ⟨f, hf⟩
    · rintro ⟨f, hf⟩
      exact ⟨_, f, hf, rfl⟩
  | week =>
    simp only [offer, show dayShape = shapeOf day from rfl, show weekShape = shapeOf week from rfl]
    constructor
    · intro h
      split at h
      next date hdate =>
        obtain ⟨_ | _ | ⟨y, m, d⟩, hf, rfl⟩ := ofShape?_shapeOf_iff.1 hdate
        · exact hf.1.elim
        · exact hf.1.elim
        · rw [String.ofList_toList, parse?_text hf.1] at h
          exact .inl ⟨y, m, d, hf, (Offer.shape.inj h).symm⟩
      next => exact .inr ((ofFront_shapeOf_iff week).1 h)
    · rintro (⟨y, m, d, hf, rfl⟩ | ⟨_ | ⟨y, w⟩ | _, hf, rfl⟩)
      · rw [ofShape?_shapeOf_iff.2 ⟨_, hf, rfl⟩]
        dsimp only
        rw [String.ofList_toList, parse?_text hf.1]
      · exact hf.1.elim
      · have hbegins := hf.2
        simp only [text, String.toList_append, List.append_assoc] at hbegins
        rw [ofShape?_day_eq_none (not_hasFront_month hf.1.1 (by decide : 'W'.isDigit = false) hbegins)]
        exact (ofFront_shapeOf_iff week).2 ⟨_, hf, rfl⟩
      · exact hf.1.elim
  | quarter =>
    simp only [offer, show quarterShape = shapeOf quarter from rfl]
    constructor
    · intro h
      split at h
      next ys ms hfound =>
        obtain ⟨y, m, hf, rfl, rfl⟩ := yearAndMonth?_eq_some_iff.1 hfound
        rw [ofList_quarter hf.1.2] at h
        exact .inl ⟨y, m, hf, (Offer.shape.inj h).symm⟩
      next => exact .inr ((ofFront_shapeOf_iff quarter).1 h)
    · rintro (⟨y, m, hf, rfl⟩ | ⟨_ | ⟨y, q⟩ | _, hf, rfl⟩)
      · rw [yearAndMonth?_eq_some_iff.2 ⟨y, m, hf, rfl, rfl⟩]
        dsimp only
        rw [ofList_quarter hf.1.2]
      · exact hf.1.elim
      · have hbegins := hf.2
        simp only [text, String.toList_append, List.append_assoc] at hbegins
        rw [yearAndMonth?_eq_none (not_hasFront_month hf.1.1 (by decide : 'Q'.isDigit = false) hbegins)]
        exact (ofFront_shapeOf_iff quarter).2 ⟨_, hf, rfl⟩
      · exact hf.1.elim
  | season =>
    simp only [offer]
    constructor
    · intro h
      split at h
      next ys ms hfound =>
        obtain ⟨y, m, hf, rfl, rfl⟩ := yearAndMonth?_eq_some_iff.1 hfound
        rw [map_season y hf.1.2] at h
        exact .inl ⟨y, m, hf, (Offer.shape.inj h).symm⟩
      next =>
        obtain ⟨_, hpart, rfl⟩ := ofFront_eq_shape_iff.1 h
        obtain ⟨y, s, hs, hy, hbegins, rfl⟩ := seasonPart?_eq_some_iff.1 hpart
        exact .inr ⟨y, s, hs, hy, hbegins, by rw [String.ofList_toList]⟩
    · rintro (⟨y, m, hf, rfl⟩ | ⟨y, s, hs, hy, hbegins, rfl⟩)
      · rw [yearAndMonth?_eq_some_iff.2 ⟨y, m, hf, rfl, rfl⟩]
        dsimp only
        rw [map_season y hf.1.2]
      · obtain ⟨c, tail, hcode, hc⟩ : ∃ c tail, s.1.toList = c :: tail ∧ c.isDigit = false := by
          simp only [seasons, List.mem_cons, List.not_mem_nil, or_false] at hs
          rcases hs with rfl | rfl | rfl | rfl <;> exact ⟨_, _, rfl, by decide⟩
        have hletter : (padded 4 y).toList ++ '-' :: c :: tail <+: value.toList := by
          simpa [hcode] using hbegins
        rw [yearAndMonth?_eq_none (not_hasFront_month hy hc hletter)]
        have hpart := seasonPart?_eq_some_iff.2 ⟨y, s, hs, hy, hbegins, rfl⟩
        exact ofFront_eq_shape_iff.2 ⟨_, hpart, by rw [String.ofList_toList]⟩

theorem offer_eq_noShape_iff {g : Granularity} : offer value g = .noShape ↔ ∀ anchor, ¬ Gives g value anchor := by
  simp only [← offer_eq_shape_iff]
  cases offer value g <;> simp

/-- A placeholder gives nothing at any granularity. -/
theorem not_gives_of_undefined {g : Granularity} {anchor : Option String} (h : Undefined value) :
    ¬ Gives g value anchor :=
  offer_eq_noShape_iff.1 (offer_of_undefined h) anchor

theorem isFunction_iff : isFunction value = true ↔ "funcDate".toList <:+: value.toList := by
  constructor
  · intro h
    obtain ⟨⟨a, b⟩, hcut⟩ := Option.isSome_iff_exists.1 h
    exact ⟨a, b, (eq_append_of_cutAt? hcut).symm⟩
  · rintro ⟨a, b, hvalue⟩
    obtain ⟨a', b', hcut, -⟩ := exists_cutAt?_append "funcDate".toList b a
    rw [isFunction, ← hvalue, List.append_assoc, hcut]
    rfl

end Mention

end TemporalTagger
