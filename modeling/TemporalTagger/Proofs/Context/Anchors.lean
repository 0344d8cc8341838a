/-
Anchors and the values put in place of placeholders: none of them begins as a placeholder does. Main
fact: `begun_value?`.
-/
import TemporalTagger.Context.Resolution
import TemporalTagger.Proofs.Text.Beginnings
import TemporalTagger.Proofs.Text.Digits

namespace TemporalTagger

open Text

/-- A value that starts as placeholders do. -/
def Undefined (value : String) : Prop := "UNDEF".toList <+: value.toList

/-- A value that has a first character, and another one than placeholders. -/
def Begun (value : String) : Prop := ∃ c cs, value.toList = c :: cs ∧ c ≠ 'U'

namespace Begun

variable {value : String}

theorem not_undefined (h : Begun value) : ¬ Undefined value := by
  obtain ⟨c, cs, hv, hc⟩ := h
  rintro ⟨rest, hu⟩
  rw [hv] at hu
  exact hc (List.cons.inj hu).1.symm

theorem append (h : Begun value) (rest : String) : Begun (value ++ rest) := by
  obtain ⟨c, cs, hv, hc⟩ := h
  exact ⟨c, cs ++ rest.toList, by rw [String.toList_append, hv, List.cons_append], hc⟩

theorem of_digit {c : Char} {cs : List Char} (hv : value.toList = c :: cs) (hc : c.isDigit = true) : Begun value :=
  ⟨c, cs, hv, by rintro rfl; exact absurd hc (by decide)⟩

end Begun

/-! ## Calendar values -/

theorem begun_padded (width : Nat) (n : Int) : Begun (padded width n) := by
  by_cases hneg : n < 0
  · exact ⟨'-', _, by simp only [padded, hneg, if_true, String.toList_append]; rfl, by decide⟩
  · obtain ⟨k, rfl⟩ := Int.eq_ofNat_of_zero_le (not_lt.1 hneg)
    obtain ⟨c, cs, hv⟩ := List.exists_cons_of_ne_nil (l := (padded width k).toList) (by
      rw [toList_padded]
      exact List.append_ne_nil_of_right_ne_nil _ Nat.toDigits_ne_nil)
    exact .of_digit hv (isDigit_of_mem_padded (by rw [hv]; exact List.mem_cons_self))

theorem Date.begun_toText (d : Date) : Begun d.toText := by
  unfold Date.toText
  dsimp only
  split
  · exact (((begun_padded 4 _).append _).append _).append _ |>.append _
  · split <;> exact ⟨_, _, by simp only [String.toList_append]; rfl, by decide⟩

namespace CalendarUnit

theorem begun_format (u : CalendarUnit) (d : Date) : Begun (u.format d) := by
  cases u with
  | century | decade | year => exact begun_padded _ _
  | quarter | month | week => exact ((begun_padded _ _).append _).append _
  | day => exact d.begun_toText

theorem begun_of_write? {u : CalendarUnit} {point : Int} {value : String} (h : u.write? point = some value) :
    Begun value := by
  cases u <;> simp only [write?, Option.ite_none_right_eq_some, Option.some.injEq] at h <;> obtain ⟨-, rfl⟩ := h
  case century | decade | year => exact begun_padded _ _
  case quarter | month => exact ((begun_padded _ _).append _).append _
  case week => exact week.begun_format _
  case day => exact day.begun_format _

theorem begun_of_shift? {u : CalendarUnit} {anchor value : String} {amount : Int}
    (h : u.shift? anchor amount = some value) : Begun value := by
  unfold shift? at h
  split at h
  · obtain ⟨point, -, hw⟩ := Option.bind_eq_some_iff.1 h
    exact begun_of_write? hw
  · cases h

end CalendarUnit

/-! ## Mentions -/

namespace Mention

theorem front?_cons {m : Mark} {marks : List Mark} {cs part rest : List Char}
    (h : front? (m :: marks) cs = some (part, rest)) : ∃ c part', part = c :: part' ∧ m.accepts c = true := by
  cases cs with
  | nil => cases h
  | cons c cs =>
    rw [front?] at h
    split at h
    next hc =>
      obtain ⟨⟨a, b⟩, -, hp⟩ := Option.map_eq_some_iff.1 h
      exact ⟨c, a, (Prod.mk.inj hp).1.symm, hc⟩
    next => cases h

theorem begun_of_ofShape? {marks : List Mark} {cs part : List Char} (h : ofShape? (.digit :: marks) cs = some part) :
    Begun (String.ofList part) := by
  obtain ⟨⟨_, rest⟩, hf, rfl⟩ := Option.map_eq_some_iff.1 h
  obtain ⟨c, part', rfl, hc⟩ := front?_cons hf
  exact .of_digit String.toList_ofList hc

theorem begun_of_ofEraShape? {marks : List Mark} {cs part : List Char}
    (h : ofEraShape? (.digit :: marks) cs = some part) : Begun (String.ofList part) := by
  unfold ofEraShape? at h
  split at h
  · obtain ⟨part', -, rfl⟩ := Option.map_eq_some_iff.1 h
    exact ⟨'B', _, String.toList_ofList, by decide⟩
  · exact begun_of_ofShape? h

theorem begun_of_ofFront {part : Option (List Char)} {anchor : String}
    (hpart : ∀ cs, part = some cs → Begun (String.ofList cs)) (h : Offer.ofFront part = .shape (some anchor)) :
    Begun anchor := by
  cases part with
  | none => cases h
  | some cs =>
    obtain rfl := Option.some.inj (Offer.shape.inj h)
    exact hpart cs rfl

/-- The anchors of units begin with a digit, a sign or `BC`. -/
theorem begun_of_offer {value anchor : String} {u : CalendarUnit}
    (h : offer value (.ofUnit u) = .shape (some anchor)) : Begun anchor := by
  cases u with
  | century | decade | year | month => exact begun_of_ofFront (fun _ => begun_of_ofEraShape?) h
  | day => exact begun_of_ofFront (fun _ => begun_of_ofShape?) h
  | week =>
    simp only [offer, Granularity.ofUnit] at h
    split at h
    · obtain ⟨date, -, rfl⟩ := Option.map_eq_some_iff.1 (Offer.shape.inj h)
      exact CalendarUnit.week.begun_format date
    · exact begun_of_ofFront (fun _ => begun_of_ofShape?) h
  | quarter =>
    simp only [offer, Granularity.ofUnit] at h
    split at h
    next year month hym =>
      obtain rfl := Option.some.inj (Offer.shape.inj h)
      obtain ⟨⟨_, _⟩, hf, hm⟩ := Option.bind_eq_some_iff.1 hym
      obtain ⟨_, -, hp⟩ := Option.bind_eq_some_iff.1 hm
      obtain ⟨rfl, -⟩ := Prod.mk.inj (Option.some.inj hp)
      obtain ⟨c, year', rfl, hc⟩ := front?_cons hf
      exact .of_digit (String.toList_ofList.trans (List.cons_append ..)) hc
    · exact begun_of_ofFront (fun _ => begun_of_ofShape?) h

theorem begun_of_search {start : Option Nat} {u : CalendarUnit} {anchor : String} :
    ∀ {earlier : List TimeExpression}, search start (.ofUnit u) earlier = some anchor → Begun anchor
  | [], h => by cases h
  | e :: earlier, h => by
    rw [search] at h
    split at h
    · exact begun_of_search h
    · split at h
      · exact begun_of_search h
      next ho => exact begun_of_offer (h ▸ ho)

end Mention

/-! ## Placeholders -/

theorem Placeholder.oneLine_eq_some_iff {cs rest : List Char} :
    oneLine cs = some rest ↔ '\n' ∉ cs ∧ rest = cs := by
  by_cases h : '\n' ∈ cs
  · simp [oneLine, h]
  · simp [oneLine, h, eq_comm]

theorem Placeholder.undefined_of_parse? {value : String} {p : Placeholder} (h : parse? value = some p) :
    Undefined value := by
  obtain ⟨cs, hcs, -⟩ := Option.bind_eq_some_iff.1 h
  exact ⟨'-' :: cs, by rw [after?_eq_some_iff.1 hcs]; rfl⟩

namespace Resolution

variable {context : DocumentContext} {sentences : List Sentence} {language : Language}
  {earlier : List TimeExpression} {e : TimeExpression}

theorem begun_of_anchor? {u : CalendarUnit} {anchor : String} (h : value?.anchor? context earlier e u = some anchor) :
    Begun anchor := by
  unfold value?.anchor? at h
  split at h
  · obtain rfl := Option.some.inj h
    exact u.begun_format _
  · exact Mention.begun_of_search h

theorem begun_yearByTense {date : Date} {tense : Option Tense} {month : Nat} {year : String} (h : Begun year) :
    Begun (yearByTense date tense month year) := by
  unfold yearByTense
  extract_lets amount
  split
  · exact h
  · cases hs : CalendarUnit.year.shift? year amount with
    | none => exact h
    | some year' => exact CalendarUnit.begun_of_shift? hs

theorem begun_adjustYear {rest : List Char} {year : String} (h : Begun year) :
    Begun (adjustYear context sentences language e rest year) := by
  unfold adjustYear
  split
  · exact begun_yearByTense h
  · exact h

/-- What is written in place of a placeholder does not begin as one. -/
theorem begun_value? {p : Placeholder} {value : String}
    (h : value? context sentences language earlier e p = some value) : Begun value := by
  cases p with
  | reference rest =>
    obtain rfl := Option.some.inj h
    refine Begun.append ?_ _
    cases context.newsDate? with
    | none => exact ⟨'P', _, rfl, by decide⟩
    | some date => exact CalendarUnit.day.begun_format date
  | moved u amount rest =>
    obtain ⟨anchor, -, h⟩ := Option.bind_eq_some_iff.1 h
    obtain ⟨shifted, hs, h⟩ := Option.bind_eq_some_iff.1 h
    obtain rfl := Option.some.inj h
    exact (CalendarUnit.begun_of_shift? hs).append _
  | plain u rest =>
    obtain ⟨anchor, ha, h⟩ := Option.bind_eq_some_iff.1 h
    obtain rfl := Option.some.inj h
    refine Begun.append ?_ _
    split
    · exact begun_adjustYear (begun_of_anchor? ha)
    · exact begun_of_anchor? ha

end Resolution

end TemporalTagger
