/-
Dates as anchors. A date that a narrative mentions offers at every unit what the creation date of a news
document gives at that unit, so a placeholder after the date is resolved as in the news of that day. Main facts:
`offer_toText` and `resolvePlaceholders_after_date`.
-/
import TemporalTagger.Proofs.Context.Chains

namespace TemporalTagger

open Text

/-! ## Dates as texts -/

/-- The text of a date in its parts. -/
structure Date.Written (d : Date) (y m n : Nat) (ys ms ds : List Char) : Prop where
  toList : d.toText.toList = ys ++ ['-'] ++ ms ++ ['-'] ++ ds
  year : d.year = y
  month : d.month = m
  years : IsNumeral 4 y ys
  months : IsNumeral 2 m ms
  days : IsNumeral 2 n ds

namespace Date

variable {d : Date}

theorem spells_toText (hd : 0 ≤ d.year ∧ d.year ≤ 9999) : CalendarUnit.day.Spells d.toText.toList d.days := by
  refine CalendarUnit.spells_of_write? ?_
  rw [CalendarUnit.write?, if_pos (by simpa [CalendarUnit.inRange] using hd)]
  rfl

theorem exists_written (hd : 0 ≤ d.year ∧ d.year ≤ 9999) : ∃ y m n ys ms ds, d.Written y m n ys ms ds := by
  obtain ⟨y, m, n, ys, ms, ds, htext, hys, hms, hds, hdate⟩ := spells_toText hd
  obtain ⟨hyear, hmonth, -⟩ := fields_of_ofYmd? hdate
  exact ⟨y, m, n, ys, ms, ds, htext, hyear, hmonth, hys, hms, hds⟩

/-- A date is read from its text. -/
theorem parse?_toText (hd : 0 ≤ d.year ∧ d.year ≤ 9999) : parse? d.toText = some d := by
  obtain ⟨d', hparse, hdays⟩ := Option.map_eq_some_iff.1 (CalendarUnit.read?_of_spells (spells_toText hd))
  obtain rfl : d' = d := congrArg Date.mk hdays
  exact hparse

end Date

namespace Mention

theorem ofFront_eq {value : String} {cs : List Char} (h : value.toList = cs) :
    Offer.ofFront (some cs) = .shape (some value) := by
  rw [Offer.ofFront, ← h, String.ofList_toList]

/-- The quarter of a month is counted as the one of a date. -/
theorem toString_quarter {m : Nat} {ms : List Char} (hms : IsNumeral 2 m ms) (hlo : 1 ≤ m) (hhi : m ≤ 12) :
    (toString (((m : Int) - 1) / 3 + 1)).toList = [quarterOfMonth ms] := by
  rw [quarterOfMonth, hms.value]
  interval_cases m <;> rfl

/-- A date offers at each unit what it is at that unit. -/
theorem offer_toText {d : Date} (hd : 0 ≤ d.year ∧ d.year ≤ 9999) (u : CalendarUnit) :
    offer d.toText (.ofUnit u) = .shape (some (u.format d)) := by
  have hspells := Date.spells_toText hd
  have hera := ofEraShape?_of_spells hspells
  obtain ⟨y, m, n, ys, ms, ds, ht⟩ := Date.exists_written hd
  -- the first digits of the year are the number of its century or decade
  have hyear : ∀ a b : Nat, a + b = 4 → 0 < a →
      Offer.ofFront (ofShape? (digits a) d.toText.toList) = .shape (some (padded a (y / 10 ^ b : Nat))) := by
    intro a b hab ha
    have hfront := (show IsNumeral (a + b) y ys from hab ▸ ht.years).take_drop.1
    have hsplit : d.toText.toList = ys.take a ++ (ys.drop a ++ '-' :: (ms ++ '-' :: ds)) := by
      rw [← List.append_assoc (ys.take a), List.take_append_drop, ht.toList]
      simp only [List.append_assoc, List.cons_append, List.nil_append]
    rw [hsplit, ofShape?_append (hasShape_digits hfront)]
    exact ofFront_eq (hfront.toList_padded ha)
  cases u with
  | century =>
    simp only [offer, Granularity.ofUnit, hera, CalendarUnit.format, ht.year]
    exact hyear 2 2 rfl (by decide)
  | decade =>
    simp only [offer, Granularity.ofUnit, hera, CalendarUnit.format, ht.year]
    exact hyear 3 1 rfl (by decide)
  | year =>
    simp only [offer, Granularity.ofUnit, hera, CalendarUnit.format, ht.year]
    have h := hyear 4 0 rfl (by decide)
    rwa [pow_zero, Nat.div_one] at h
  | quarter =>
    -- here the month is read and its quarter looked up, there the quarter is computed
    have hmonth : yearAndMonth? d.toText.toList = some (ys, ms) := by
      have hfront := front?_of_hasShape (List.rel_append (hasShape_exactly '-') (hasShape_digits ht.months)) (['-'] ++ ds)
      rw [ht.toList, yearAndMonth?, List.append_assoc, List.append_assoc, List.append_assoc, yearShape,
        front?_of_hasShape (hasShape_digits ht.years)]
      rw [List.append_assoc] at hfront
      show (front? ([.exactly '-'] ++ digits 2) _).bind _ = _
      rw [hfront]
      rfl
    have hbounds := d.month_bounds
    rw [ht.month] at hbounds
    have hquarter := toString_quarter ht.months (by omega) (by omega)
    simp only [offer, Granularity.ofUnit, hmonth, CalendarUnit.format, ht.year, ht.month]
    refine ofFront_eq ?_
    simp only [String.toList_append, ht.years.toList_padded (by decide), hquarter, List.append_assoc]
    rfl
  | month =>
    have hmonth : ofShape? monthShape d.toText.toList = some (ys ++ ['-'] ++ ms) := by
      rw [ht.toList, List.append_assoc (ys ++ ['-'] ++ ms)]
      exact ofShape?_append (hasShape_yearAndMonth ht.years ht.months) _
    simp only [offer, Granularity.ofUnit, hera, hmonth, CalendarUnit.format, ht.year, ht.month]
    refine ofFront_eq ?_
    simp only [String.toList_append, ht.years.toList_padded (by decide), ht.months.toList_padded (by decide)]
    rfl
  | week =>
    -- the text is read back as the date, so the week is that of the date even at a turn of the year
    have hdate : ofShape? dayShape d.toText.toList = some d.toText.toList := ofShape?_self (hasShape_of_spells hspells)
    simp only [offer, Granularity.ofUnit, hdate, String.ofList_toList, Date.parse?_toText hd, Option.map_some]
  | day => exact offer_of_spells hspells

end Mention

/-! ## Placeholders after a date -/

namespace Placeholder

variable {cs rest : List Char}

theorem counted?_ne_reference : counted? cs ≠ some (.reference rest) := by
  intro h
  obtain ⟨_, -, h⟩ := Option.bind_eq_some_iff.1 h
  obtain ⟨_, -, h⟩ := Option.bind_eq_some_iff.1 h
  obtain ⟨_, -, h⟩ := Option.bind_eq_some_iff.1 h
  obtain ⟨_, -, h⟩ := Option.bind_eq_some_iff.1 h
  split at h <;> cases h

theorem relative?_ne_reference : relative? cs ≠ some (.reference rest) := by
  intro h
  obtain ⟨_, -, h⟩ := Option.bind_eq_some_iff.1 h
  obtain ⟨_, -, h⟩ := Option.bind_eq_some_iff.1 h
  obtain ⟨_, -, h⟩ := Option.bind_eq_some_iff.1 h
  cases h

theorem plain?_ne_reference : plain? cs ≠ some (.reference rest) := by
  intro h
  obtain ⟨_, -, h⟩ := Option.bind_eq_some_iff.1 h
  obtain ⟨_, -, h⟩ := Option.bind_eq_some_iff.1 h
  cases h

/-- Only a value that starts as one is a reference date. -/
theorem prefix_of_reference {value : String} (h : parse? value = some (.reference rest)) :
    "UNDEF-REFDATE".toList <+: value.toList := by
  obtain ⟨cs, hcs, h⟩ := Option.bind_eq_some_iff.1 h
  split at h
  next rest' hrest =>
    refine ⟨rest', ?_⟩
    rw [after?_eq_some_iff.1 hcs, after?_eq_some_iff.1 hrest]
    rfl
  next =>
    rcases (Option.orElse_eq_some ..).1 h with h | ⟨-, h⟩
    · exact absurd h counted?_ne_reference
    · rcases (Option.orElse_eq_some ..).1 h with h | ⟨-, h⟩
      · exact absurd h relative?_ne_reference
      · exact absurd h plain?_ne_reference

end Placeholder

namespace Resolution

variable {d : Date} {e f : TimeExpression}

/-- After a date, a narrative has the anchors that the news of that day have. -/
theorem anchor?_after_date (hd : 0 ≤ d.year ∧ d.year ≤ 9999) (hvalue : f.value = d.toText)
    (hstart : f.span.start ≠ e.span.start) (creation : Option Date) (u : CalendarUnit) :
    value?.anchor? ⟨.narrative, creation⟩ [f] e u = value?.anchor? ⟨.news, some d⟩ [] e u := by
  have hfun : Mention.isFunction f.value = false := hvalue ▸ Mention.isFunction_of_spells (Date.spells_toText hd)
  show Mention.search (some e.span.start) (.ofUnit u) [f] = some (u.format d)
  rw [Mention.search, if_neg (by simpa [hfun] using hstart), hvalue, Mention.offer_toText hd]

theorem adjustYear_narrative (creation : Option Date) (sentences : List Sentence) (language : Language)
    (rest : List Char) (year : String) : adjustYear ⟨.narrative, creation⟩ sentences language e rest year = year := rfl

/-- Without sentences there is no tense to go by. -/
theorem adjustYear_nil (context : DocumentContext) (language : Language) (rest : List Char) (year : String) :
    adjustYear context [] language e rest year = year := by
  -- the tense counts only where a sentence holds the expression
  unfold adjustYear
  cases context.newsDate? <;> cases leadingMonth? rest <;> rfl

theorem value?_after_date (hd : 0 ≤ d.year ∧ d.year ≤ 9999) (hvalue : f.value = d.toText)
    (hstart : f.span.start ≠ e.span.start) (creation : Option Date) (sentences : List Sentence)
    (language language' : Language) {p : Placeholder} (hp : ∀ rest, p ≠ .reference rest) :
    value? ⟨.narrative, creation⟩ sentences language [f] e p = value? ⟨.news, some d⟩ [] language' [] e p := by
  have hanchor := anchor?_after_date hd hvalue hstart creation
  cases p with
  | reference rest => exact absurd rfl (hp rest)
  | moved u amount rest => rw [value?, value?, hanchor u]
  | plain u rest => simp only [value?, hanchor u, adjustYear_narrative, adjustYear_nil]

end Resolution

/-- A placeholder after a date is resolved in a narrative as it is alone in the news of that day. The reference
date itself is left out: a narrative has none. -/
theorem resolvePlaceholders_after_date {d : Date} {e f : TimeExpression} (hd : 0 ≤ d.year ∧ d.year ≤ 9999)
    (hvalue : f.value = d.toText) (hstart : f.span.start ≠ e.span.start)
    (hreference : ¬ "UNDEF-REFDATE".toList <+: e.value.toList) (creation : Option Date) (sentences : List Sentence)
    (language language' : Language) :
    resolvePlaceholders ⟨.narrative, creation⟩ sentences language [f, e] =
      f :: resolvePlaceholders ⟨.news, some d⟩ [] language' [e] := by
  have hfirst : Resolution.resolveOne ⟨.narrative, creation⟩ sentences language [] f = f :=
    Resolution.resolveOne_of_begun _ _ _ (hvalue ▸ d.begun_toText)
  -- `e` has only `f` before it, which gives every anchor that the creation date gives
  have hsecond : Resolution.resolveOne ⟨.narrative, creation⟩ sentences language [f] e =
      Resolution.resolveOne ⟨.news, some d⟩ [] language' [] e := by
    unfold Resolution.resolveOne
    cases hp : Placeholder.parse? e.value with
    | none => rfl
    | some p =>
      have hne : ∀ rest, p ≠ .reference rest := by
        rintro rest rfl
        exact hreference (Placeholder.prefix_of_reference hp)
      simp only [Option.bind_some,
        Resolution.value?_after_date hd hvalue hstart creation sentences language language' hne]
  rw [resolvePlaceholders, resolvePlaceholders, Resolution.resolveFrom, Resolution.resolveFrom, Resolution.resolveFrom,
    Resolution.resolveFrom, Resolution.resolveFrom, hfirst, hsecond]

/-- New Year's Day of 2005 is in the last week of 2004. -/
theorem resolvePlaceholders_after_date_new_year :
    (0 ≤ (Date.ofMonth 2005 1 0).year ∧ (Date.ofMonth 2005 1 0).year ≤ 9999) ∧
      (mentionAt "2005-01-01" 0).value = (Date.ofMonth 2005 1 0).toText ∧
      (mentionAt "2005-01-01" 0).span.start ≠ (mentionAt "UNDEF-this-week" 20).span.start ∧
      ¬ "UNDEF-REFDATE".toList <+: (mentionAt "UNDEF-this-week" 20).value.toList ∧
      resolvePlaceholders ⟨.narrative, none⟩ [] .english [mentionAt "2005-01-01" 0, mentionAt "UNDEF-this-week" 20] =
        mentionAt "2005-01-01" 0 ::
          resolvePlaceholders ⟨.news, some (Date.ofMonth 2005 1 0)⟩ [] .english [mentionAt "UNDEF-this-week" 20] ∧
      resolvePlaceholders ⟨.news, some (Date.ofMonth 2005 1 0)⟩ [] .english [mentionAt "UNDEF-this-week" 20] =
        [mentionAt "2004-W53" 20] := by
  have hyear : 0 ≤ (Date.ofMonth 2005 1 0).year ∧ (Date.ofMonth 2005 1 0).year ≤ 9999 := by decide
  have hvalue : (mentionAt "2005-01-01" 0).value = (Date.ofMonth 2005 1 0).toText := by decide +kernel
  have hreference : ¬ "UNDEF-REFDATE".toList <+: (mentionAt "UNDEF-this-week" 20).value.toList := by decide
  have hstart : (mentionAt "2005-01-01" 0).span.start ≠ (mentionAt "UNDEF-this-week" 20).span.start := by decide
  exact ⟨hyear, hvalue, hstart, hreference,
    resolvePlaceholders_after_date hyear hvalue hstart hreference none [] .english .english, by decide +kernel⟩

end TemporalTagger
