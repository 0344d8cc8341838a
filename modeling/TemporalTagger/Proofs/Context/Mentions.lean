/-
What well-formed values offer as anchors. A value of a unit offers itself at that unit, and what it offers
at another unit, if it can be read there at all, is a point in the bounds of that unit. Main facts:
`offer_of_spells` and `inBounds_of_offer`.
-/
import TemporalTagger.Proofs.Calendar.Unit
import TemporalTagger.Proofs.Context.Anchors

namespace TemporalTagger

open Text

namespace Mention

/-! ## Shapes -/

/-- A text has a shape: each character is one that its mark accepts. -/
abbrev HasShape (marks : List Mark) (cs : List Char) : Prop := List.Forall₂ (fun m c => m.accepts c = true) marks cs

theorem front?_append {marks ms : List Mark} {cs : List Char} (h : HasShape marks cs) (rest : List Char) :
    front? (marks ++ ms) (cs ++ rest) = (front? ms rest).map fun (a, b) => (cs ++ a, b) := by
  induction h with
  | nil =>
    show front? ms rest = _
    cases front? ms rest <;> rfl
  | cons hc _ ih =>
    rw [List.cons_append, List.cons_append, front?, if_pos hc, ih]
    cases front? ms rest <;> rfl

/-- A text has a shape at its front, and nothing else is taken for it. -/
theorem front?_of_hasShape {marks : List Mark} {cs : List Char} (h : HasShape marks cs) (rest : List Char) :
    front? marks (cs ++ rest) = some (cs, rest) := by
  have := @front?_append _ [] _ h rest
  rw [List.append_nil, front?, Option.map_some] at this
  dsimp only at this
  rwa [List.append_nil] at this

theorem front?_eq_none_of_length : ∀ {marks : List Mark} {cs : List Char}, cs.length < marks.length →
    front? marks cs = none
  | [], _, h => by cases h
  | _ :: _, [], _ => rfl
  | m :: marks, c :: cs, h => by
    rw [front?, front?_eq_none_of_length (Nat.lt_of_succ_lt_succ h), Option.map_none, ite_self]

theorem front?_append_eq_none {ms : List Mark} : ∀ {marks : List Mark} {cs : List Char}, front? marks cs = none →
    front? (marks ++ ms) cs = none
  | [], _, h => by cases h
  | _ :: _, [], _ => rfl
  | m :: marks, c :: cs, h => by
    rw [front?] at h
    rw [List.cons_append, front?]
    split
    next hc =>
      rw [if_pos hc, Option.map_eq_none_iff] at h
      rw [front?_append_eq_none h, Option.map_none]
    next => rfl

theorem hasShape_digits {width n : Nat} {ds : List Char} (h : IsNumeral width n ds) : HasShape (digits width) ds := by
  obtain rfl := h.length
  have hdigits := h.digits
  clear h
  induction ds with
  | nil => exact .nil
  | cons c ds ih =>
    obtain ⟨hc, hds⟩ := List.forall_mem_cons.1 hdigits
    exact .cons hc (ih hds)

theorem hasShape_exactly (c : Char) : HasShape [.exactly c] [c] := .cons (decide_eq_true rfl) .nil

theorem exists_accepts {marks : List Mark} {cs : List Char} {c : Char} (h : HasShape marks cs) (hc : c ∈ cs) :
    ∃ m ∈ marks, m.accepts c = true := by
  induction h with
  | nil => cases hc
  | cons hd _ ih =>
    rcases List.mem_cons.1 hc with rfl | hc
    · exact ⟨_, List.mem_cons_self, hd⟩
    · obtain ⟨m, hm, haccepts⟩ := ih hc
      exact ⟨m, List.mem_cons_of_mem _ hm, haccepts⟩

/-- A text that begins with a digit has no era. -/
theorem ofEraShape?_of_hasShape {ms : List Mark} {cs : List Char} (h : HasShape (.digit :: ms) cs)
    (marks : List Mark) : ofEraShape? marks cs = ofShape? marks cs := by
  obtain _ | ⟨hc, -⟩ := h
  rename_i c cs
  rw [ofEraShape?, show after? ['B', 'C'] (c :: cs) = none from if_neg fun hp => ?_]
  obtain ⟨t, ht⟩ := List.isPrefixOf_iff_prefix.1 hp
  obtain ⟨rfl, -⟩ := List.cons.inj ht
  cases hc

theorem ofShape?_append {marks : List Mark} {cs : List Char} (h : HasShape marks cs) (rest : List Char) :
    ofShape? marks (cs ++ rest) = some cs := by
  rw [ofShape?, front?_of_hasShape h]
  rfl

theorem ofShape?_self {marks : List Mark} {cs : List Char} (h : HasShape marks cs) : ofShape? marks cs = some cs := by
  rw [← ofShape?_append h [], List.append_nil]

/-! ## Units and their shapes -/

open CalendarUnit

/-- The shape of the values of a unit. -/
def shapeOf : CalendarUnit → List Mark
  | century => digits 2
  | decade => digits 3
  | year => yearShape
  | quarter => quarterShape
  | month => monthShape
  | week => weekShape
  | day => dayShape

variable {u : CalendarUnit} {value : String} {cs : List Char} {p : Int}

theorem hasShape_yearAndMonth {y m : Nat} {ys ms : List Char} (hy : IsNumeral 4 y ys) (hm : IsNumeral 2 m ms) :
    HasShape monthShape (ys ++ ['-'] ++ ms) := by
  rw [List.append_assoc]
  exact List.rel_append (hasShape_digits hy) (List.rel_append (hasShape_exactly '-') (hasShape_digits hm))

/-- The digit of a quarter. -/
theorem mem_quarters {q : Nat} {c : Char} (h : IsNumeral 1 q [c]) (hlo : 1 ≤ q) (hhi : q ≤ 4) :
    c ∈ ['1', '2', '3', '4'] := by
  rw [List.singleton_inj.1 h.eq_singleton]
  interval_cases q <;> decide

theorem hasShape_of_spells (h : u.Spells cs p) : HasShape (shapeOf u) cs := by
  cases u with
  | century | decade | year =>
    obtain ⟨n, hn, -⟩ := h
    exact hasShape_digits hn
  | quarter =>
    obtain ⟨y, q, ys, qs, rfl, hy, hq, hlo, hhi, -⟩ := h
    obtain ⟨c, rfl⟩ := List.length_eq_one_iff.1 hq.length
    have hdigit : HasShape [.oneOf ['1', '2', '3', '4']] [c] :=
      .cons (List.contains_iff_mem.2 (mem_quarters hq hlo hhi)) .nil
    rw [List.append_assoc]
    exact List.rel_append (hasShape_digits hy)
      (List.rel_append (hasShape_exactly '-') (List.rel_append (hasShape_exactly 'Q') hdigit))
  | month =>
    obtain ⟨y, m, ys, ms, rfl, hy, hm, -⟩ := h
    exact hasShape_yearAndMonth hy hm
  | week =>
    obtain ⟨y, w, ys, ws, monday, rfl, hy, hw, -⟩ := h
    exact List.rel_append (List.rel_append (hasShape_digits hy)
      (List.rel_append (hasShape_exactly '-') (hasShape_exactly 'W'))) (hasShape_digits hw)
  | day =>
    obtain ⟨y, m, d, ys, ms, ds, rfl, hy, hm, hd, -⟩ := h
    rw [List.append_assoc]
    exact List.rel_append (hasShape_yearAndMonth hy hm) (List.rel_append (hasShape_exactly '-') (hasShape_digits hd))

/-- A well-formed value is no value of a function. -/
theorem isFunction_of_spells (h : u.Spells value.toList p) : isFunction value = false := by
  have hmarks : ∀ m ∈ shapeOf u, m.accepts 'f' = false := by cases u <;> decide
  by_contra hfun
  rw [Bool.not_eq_false] at hfun
  obtain ⟨m, hm, haccepts⟩ := exists_accepts (hasShape_of_spells h) (@mem_of_cutAt? 'f' "uncDate".toList _ hfun)
  rw [hmarks m hm] at haccepts
  cases haccepts

/-! ## Shapes of other units -/

/-- Only months and dates begin with a month. -/
theorem front?_monthShape_eq_none (h : u.Spells cs p) (hmonth : u ≠ month) (hday : u ≠ day) :
    front? monthShape cs = none := by
  have hnone : ∀ {y : Nat} {ys rest : List Char}, IsNumeral 4 y ys → front? (.exactly '-' :: digits 2) rest = none →
      front? monthShape (ys ++ rest) = none := fun hy hrest => by
    rw [monthShape, yearShape, front?_append (hasShape_digits hy), hrest]
    rfl
  cases u with
  | century | decade | year =>
    exact front?_eq_none_of_length (by rw [← (hasShape_of_spells h).length_eq]; decide)
  | quarter =>
    obtain ⟨y, q, ys, qs, rfl, hy, -⟩ := h
    rw [List.append_assoc]
    exact hnone hy rfl
  | week =>
    obtain ⟨y, w, ys, ws, monday, rfl, hy, -⟩ := h
    rw [List.append_assoc]
    exact hnone hy rfl
  | month => exact absurd rfl hmonth
  | day => exact absurd rfl hday

/-- The month that a well-formed value begins with is well-formed. -/
theorem exists_spells_month {part rest : List Char} (h : u.Spells cs p)
    (hf : front? monthShape cs = some (part, rest)) : ∃ q, month.Spells part q := by
  by_cases hmonth : u = month
  · subst hmonth
    have hm := h
    obtain ⟨y, m, ys, ms, rfl, hy, hms, -⟩ := h
    rw [← List.append_nil (ys ++ ['-'] ++ ms), front?_of_hasShape (hasShape_yearAndMonth hy hms)] at hf
    obtain ⟨rfl, -⟩ := Prod.mk.inj (Option.some.inj hf)
    exact ⟨p, hm⟩
  by_cases hday : u = day
  · subst hday
    obtain ⟨y, m, d, ys, ms, ds, rfl, hy, hms, -, hdate⟩ := h
    have hbounds := Date.month_bounds ⟨p⟩
    rw [(Date.fields_of_ofYmd? hdate).2.1] at hbounds
    rw [List.append_assoc, front?_of_hasShape (hasShape_yearAndMonth hy hms)] at hf
    obtain ⟨rfl, -⟩ := Prod.mk.inj (Option.some.inj hf)
    exact ⟨_, y, m, ys, ms, rfl, hy, hms, by omega, by omega, rfl⟩
  · rw [front?_monthShape_eq_none h hmonth hday] at hf
    cases hf

/-- Only dates begin with a date. -/
theorem front?_dayShape_eq_none (h : u.Spells cs p) (hday : u ≠ day) : front? dayShape cs = none := by
  by_cases hmonth : u = month
  · subst hmonth
    exact front?_eq_none_of_length (by rw [← (hasShape_of_spells h).length_eq]; decide)
  · exact front?_append_eq_none (front?_monthShape_eq_none h hmonth hday)

/-! ## Offers -/

theorem exists_shapeOf_eq (u : CalendarUnit) : ∃ ms, shapeOf u = .digit :: ms := by cases u <;> exact ⟨_, rfl⟩

theorem begun_of_spells (h : u.Spells value.toList p) : Begun value := by
  have hshape := hasShape_of_spells h
  obtain ⟨ms, hms⟩ := exists_shapeOf_eq u
  rw [hms] at hshape
  generalize hcs : value.toList = cs at hshape
  cases hshape with
  | cons hc _ => exact .of_digit hcs hc

theorem ofEraShape?_of_spells (h : u.Spells cs p) (marks : List Mark) : ofEraShape? marks cs = ofShape? marks cs := by
  have hshape := hasShape_of_spells h
  obtain ⟨ms, hms⟩ := exists_shapeOf_eq u
  rw [hms] at hshape
  exact ofEraShape?_of_hasShape hshape marks

/-- A well-formed value offers itself at its own unit. -/
theorem offer_of_spells (h : u.Spells value.toList p) : offer value (.ofUnit u) = .shape (some value) := by
  have hwhole : Offer.ofFront (ofShape? (shapeOf u) value.toList) = .shape (some value) := by
    rw [ofShape?_self (hasShape_of_spells h), Offer.ofFront, String.ofList_toList]
  have hera := ofEraShape?_of_spells h
  cases u with
  | century | decade | year | month =>
    simp only [offer, Granularity.ofUnit, hera]
    exact hwhole
  | day => exact hwhole
  | week =>
    have hdate : ofShape? dayShape value.toList = none := by
      rw [ofShape?, front?_dayShape_eq_none h (by decide), Option.map_none]
    simp only [offer, Granularity.ofUnit, hdate]
    exact hwhole
  | quarter =>
    have hmonth : yearAndMonth? value.toList = none := by
      obtain ⟨y, _, ys, qs, hcs, hy, -⟩ := h
      rw [hcs, List.append_assoc, yearAndMonth?, yearShape, front?_of_hasShape (hasShape_digits hy)]
      rfl
    simp only [offer, Granularity.ofUnit, hmonth]
    exact hwhole

/-- A placeholder offers nothing at any granularity. -/
theorem offer_of_undefined {g : Granularity} (h : Undefined value) : offer value g = .noShape := by
  obtain ⟨rest, hrest⟩ := h
  unfold offer
  rw [← hrest]
  cases g <;> rfl

theorem eq_of_ofFront {marks : List Mark} {cs : List Char} {anchor : String}
    (h : Offer.ofFront (ofShape? marks cs) = .shape (some anchor)) : ∃ rest, front? marks cs = some (anchor.toList, rest) := by
  unfold ofShape? at h
  cases hf : front? marks cs with
  | none =>
    rw [hf] at h
    cases h
  | some found =>
    rw [hf] at h
    obtain rfl := Option.some.inj (Offer.shape.inj h)
    exact ⟨found.2, by rw [String.toList_ofList]⟩

/-- What a well-formed value offers at a unit is in the bounds of the unit, if it can be read. -/
theorem inBounds_of_offer {u' : CalendarUnit} {q : Int} {anchor : String} (h : u.Spells value.toList p)
    (ho : offer value (.ofUnit u') = .shape (some anchor)) (hr : u'.read? anchor = some q) : u'.InBounds q := by
  have hera := ofEraShape?_of_spells h
  by_cases hmonth : u' = month
  · subst hmonth
    simp only [offer, Granularity.ofUnit, hera] at ho
    obtain ⟨rest, hf⟩ := eq_of_ofFront ho
    obtain ⟨q', hq⟩ := exists_spells_month h hf
    rw [read?_of_spells hq] at hr
    exact Option.some.inj hr ▸ inBounds_of_spells hq
  by_cases hday : u' = day
  · subst hday
    obtain ⟨rest, hf⟩ := eq_of_ofFront ho
    by_cases hu : u = day
    · subst hu
      rw [offer_of_spells h] at ho
      obtain rfl := Option.some.inj (Offer.shape.inj ho)
      rw [read?_of_spells h] at hr
      exact Option.some.inj hr ▸ inBounds_of_spells h
    · rw [front?_dayShape_eq_none h hu] at hf
      cases hf
  · exact inBounds_of_spells (spells_of_read? hmonth hday hr)

end Mention

end TemporalTagger
