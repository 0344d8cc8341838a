/-
The nearest mention that can be an anchor. A search goes back to the last mention of a shape that is asked for and ends
there, with an anchor or without one. Main fact: `last?_nearest`.
-/
import TemporalTagger.Proofs.Context.Offers

namespace TemporalTagger

open Text

namespace Mention

/-- Whether a mention may be asked for an anchor: it starts elsewhere than the current expression, and its value is not
one of a function. -/
def Eligible (currentStart : Option Nat) (e : TimeExpression) : Prop :=
  some e.span.start ≠ currentStart ∧ ¬ "funcDate".toList <:+: e.value.toList

/-- Whether the search ends at a mention. -/
def Answers (currentStart : Option Nat) (g : Granularity) (e : TimeExpression) : Prop :=
  Eligible currentStart e ∧ ∃ anchor, Gives g e.value anchor

variable {start : Option Nat} {g : Granularity} {e : TimeExpression} {anchor : Option String}

theorem eligible_iff : Eligible start e ↔ (decide (some e.span.start = start) || isFunction e.value) = false := by
  rw [Eligible, ← isFunction_iff, Bool.or_eq_false_iff, decide_eq_false_iff_not, Bool.not_eq_true]

theorem search_append {later : List TimeExpression} (h : ∀ e ∈ later, ¬ Answers start g e)
    (earlier : List TimeExpression) : search start g (later ++ earlier) = search start g earlier := by
  induction later with
  | nil => rfl
  | cons e later ih =>
    obtain ⟨he, hlater⟩ := List.forall_mem_cons.1 h
    rw [List.cons_append, search]
    split
    · exact ih hlater
    next hasked =>
      have heligible : Eligible start e := eligible_iff.2 (Bool.eq_false_iff.2 hasked)
      rw [offer_eq_noShape_iff.2 fun anchor hgives => he ⟨heligible, anchor, hgives⟩]
      exact ih hlater

theorem search_cons (he : Eligible start e) (hgives : Gives g e.value anchor) (earlier : List TimeExpression) :
    search start g (e :: earlier) = anchor := by
  rw [search, if_neg (Bool.eq_false_iff.1 (eligible_iff.1 he)), offer_eq_shape_iff.2 hgives]

/-- The mention that decides a search: the last one before the current expression that ends it. -/
structure Decides (es : List TimeExpression) (current : Nat) (g : Granularity) (j : Nat) (e : TimeExpression) :
    Prop where
  get : es[j]? = some e
  earlier : j < current
  answers : Answers (es[current]?.map (·.span.start)) g e
  nearest : ∀ k f, j < k → k < current → es[k]? = some f → ¬ Answers (es[current]?.map (·.span.start)) g f

variable {es : List TimeExpression} {current j : Nat}

theorem last?_of_decides (h : Decides es current g j e) (hgives : Gives g e.value anchor) :
    last? es current g = anchor := by
  have hsplit : es.take current = es.take j ++ e :: (es.take current).drop (j + 1) := by
    obtain ⟨hj, rfl⟩ := List.getElem?_eq_some_iff.1 ((List.getElem?_take_of_lt h.earlier).trans h.get)
    have htake : es.take j = (es.take current).take j := by rw [List.take_take, Nat.min_eq_left h.earlier.le]
    rw [List.getElem_cons_drop, htake, List.take_append_drop]
  rw [last?, hsplit, List.reverse_append, List.reverse_cons, List.append_assoc, List.singleton_append, search_append,
    search_cons h.answers.1 hgives]
  intro f hf
  obtain ⟨i, hi⟩ := List.mem_iff_getElem?.1 (List.mem_reverse.1 hf)
  rw [List.getElem?_drop, List.getElem?_take] at hi
  split at hi
  next hlt => exact h.nearest _ f (by omega) hlt hi
  next => cases hi

theorem last?_eq_none
    (h : ∀ k f, k < current → es[k]? = some f → ¬ Answers (es[current]?.map (·.span.start)) g f) :
    last? es current g = none := by
  rw [last?, ← List.append_nil (es.take current).reverse, search_append, search]
  intro f hf
  obtain ⟨i, hi⟩ := List.mem_iff_getElem?.1 (List.mem_reverse.1 hf)
  rw [List.getElem?_take] at hi
  split at hi
  next hlt => exact h i f hlt hi
  next => cases hi

/-- Of the mentions that could end the search, there is a last one. -/
theorem exists_decides_of_answers {k : Nat} {f : TimeExpression} (hk : k < current) (hf : es[k]? = some f)
    (hanswers : Answers (es[current]?.map (·.span.start)) g f) : ∃ j e, Decides es current g j e := by
  classical
  let P : Nat → Prop := fun j =>
    j < current ∧ ∃ e, es[j]? = some e ∧ Answers (es[current]?.map (·.span.start)) g e
  have hlast : P (Nat.findGreatest P current) := Nat.findGreatest_spec hk.le ⟨hk, f, hf, hanswers⟩
  obtain ⟨hlt, e, he, heanswers⟩ := hlast
  refine ⟨_, e, he, hlt, heanswers, ?_⟩
  intro i f' hi hi' hf' hanswers'
  exact Nat.findGreatest_is_greatest hi hi'.le ⟨hi', f', hf', hanswers'⟩

/-- An anchor is given by the mention that decides. -/
theorem exists_gives_of_last? {es : List TimeExpression} {current : Nat} {g : Granularity} {anchor : String}
    (h : last? es current g = some anchor) : ∃ j e, Decides es current g j e ∧ Gives g e.value (some anchor) := by
  by_cases hex : ∃ j e, Decides es current g j e
  · obtain ⟨j, e, hd⟩ := hex
    obtain ⟨found, hgives⟩ := hd.answers.2
    rw [last?_of_decides hd hgives] at h
    exact ⟨j, e, hd, h ▸ hgives⟩
  · rw [last?_eq_none] at h
    · cases h
    · intro k f hk hf hanswers
      exact hex (exists_decides_of_answers hk hf hanswers)

/-- Another list of expressions that the search cannot tell from the first: the current expression starts where it did,
and each mention before it is the same, or is passed over as it was, or lies behind the one that decides. -/
structure Resembles (es es' : List TimeExpression) (current : Nat) (g : Granularity) : Prop where
  start : es'[current]?.map (·.span.start) = es[current]?.map (·.span.start)
  earlier : ∀ k < current, es'[k]? = es[k]? ∨
    (∃ f f', es[k]? = some f ∧ es'[k]? = some f' ∧ ¬ Answers (es[current]?.map (·.span.start)) g f ∧
      ¬ Answers (es[current]?.map (·.span.start)) g f') ∨
    ∃ j e, k < j ∧ Decides es current g j e

theorem Decides.of_resembles {es' : List TimeExpression} (hd : Decides es current g j e)
    (h : Resembles es es' current g) : Decides es' current g j e := by
  -- nothing after the deciding mention decides
  have hlater : ∀ j' e', j < j' → ¬ Decides es current g j' e' :=
    fun j' e' hlt hd' => hd.nearest j' e' hlt hd'.earlier hd'.get hd'.answers
  refine ⟨?_, hd.earlier, h.start ▸ hd.answers, ?_⟩
  · rcases h.earlier j hd.earlier with heq | ⟨f, f', hf, -, hpassed, -⟩ | ⟨j', e', hlt, hd'⟩
    · rw [heq, hd.get]
    · rw [hd.get] at hf
      cases hf
      exact absurd hd.answers hpassed
    · exact absurd hd' (hlater j' e' hlt)
  · intro k f hjk hk hf
    rw [h.start]
    rcases h.earlier k hk with heq | ⟨f₀, f', -, hf', -, hpassed⟩ | ⟨j', e', hlt, hd'⟩
    · exact hd.nearest k f hjk hk (heq ▸ hf)
    · rw [hf] at hf'
      cases hf'
      exact hpassed
    · exact absurd hd' (hlater j' e' (hjk.trans hlt))

theorem last?_of_resembles {es' : List TimeExpression} (h : Resembles es es' current g) :
    last? es' current g = last? es current g := by
  by_cases hex : ∃ j e, Decides es current g j e
  · obtain ⟨j, e, hd⟩ := hex
    obtain ⟨anchor, hgives⟩ := hd.answers.2
    rw [last?_of_decides hd hgives, last?_of_decides (hd.of_resembles h) hgives]
  · have hnone : ∀ k f, k < current → es[k]? = some f → ¬ Answers (es[current]?.map (·.span.start)) g f :=
      fun k f hk hf hanswers => hex (exists_decides_of_answers hk hf hanswers)
    rw [last?_eq_none hnone, last?_eq_none]
    intro k f hk hf
    rw [h.start]
    rcases h.earlier k hk with heq | ⟨f₀, f', -, hf', -, hpassed⟩ | ⟨j', e', -, hd'⟩
    · exact hnone k f hk (heq ▸ hf)
    · rw [hf] at hf'
      cases hf'
      exact hpassed
    · exact absurd ⟨j', e', hd'⟩ hex

/-- The search gives what the nearest mention of a shape that is asked for gives, be it an anchor or none, and no anchor
where no mention has such a shape. It cannot be told apart from a search in a list that differs only in what follows,
in what is passed over and in what lies behind that mention. Placeholders have none of the shapes. -/
theorem last?_nearest (es : List TimeExpression) (current : Nat) (g : Granularity) :
    ((∃ j e, Decides es current g j e ∧ ∀ anchor, Gives g e.value anchor ↔ anchor = last? es current g) ∨
      (∀ j e, j < current → es[j]? = some e → Eligible (es[current]?.map (·.span.start)) e →
          ∀ anchor, ¬ Gives g e.value anchor) ∧ last? es current g = none) ∧
      (∀ es', Resembles es es' current g → last? es' current g = last? es current g) ∧
      ∀ value anchor, Undefined value → ¬ Gives g value anchor := by
  refine ⟨?_, fun es' => last?_of_resembles, fun value anchor => not_gives_of_undefined⟩
  by_cases hex : ∃ j e, Decides es current g j e
  · obtain ⟨j, e, hd⟩ := hex
    refine .inl ⟨j, e, hd, fun anchor => ⟨fun hgives => (last?_of_decides hd hgives).symm, ?_⟩⟩
    rintro rfl
    obtain ⟨anchor, hgives⟩ := hd.answers.2
    rwa [last?_of_decides hd hgives]
  · have hnone : ∀ k f, k < current → es[k]? = some f → ¬ Answers (es[current]?.map (·.span.start)) g f :=
      fun k f hk hf hanswers => hex (exists_decides_of_answers hk hf hanswers)
    refine .inr ⟨?_, last?_eq_none hnone⟩
    intro j e hj he heligible anchor hgives
    exact hnone j e hj he ⟨heligible, anchor, hgives⟩

end Mention

end TemporalTagger
