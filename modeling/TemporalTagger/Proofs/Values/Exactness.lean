/-
A test that the values of a date rule have a shape exactly if the captured texts do not slip: whatever a
value can be if they do not is compared with the shapes, and so is whatever it can be if they do.
Main fact: `wellFormed_iff`.
-/
import TemporalTagger.Proofs.Values.Outputs

namespace TemporalTagger.DateValue

open Regex Template Text

/-! ## Reading segments -/

/-- The segments of a template with plain calls, from its pieces. -/
def segments : (fuel : Nat) → List (Piece (List Char)) → List Segment
  | 0, _ | _, [] => []
  | fuel + 1, .found digits :: ps => .group digits :: segments fuel ps
  | fuel + 1, .char c :: ps =>
    if c = '%' then
      let label := ps.takeWhile (· ≠ .char '(')
      let argument := (ps.drop (label.length + 1)).takeWhile (· ≠ .char ')')
      let rest := ps.drop (label.length + 1 + argument.length + 1)
      let call :=
        match Setting.chars? label with
        | some ['S', 'U', 'M', '%'] => .sum argument
        | some name => .norm name argument
        | none => .char c
      call :: segments fuel rest
    else .char c :: segments fuel ps

/-! ## The test -/

/-- Whether all values that are possible with texts that slip, or all with texts that do not, have a
shape or not, as the answer says. -/
def Setting.answers (σ : Setting) (gs : List Segment) (slips answer : Bool) : Bool :=
  match σ.allOutputs slips gs with
  | some rs => (catAll rs).avoids (.single '%') && (oneOf shapes).answers (catAll rs) answer
  | none => false

/-- Whether the values of a template have a shape exactly if no text slips. -/
def Setting.exact (σ : Setting) (template : List Char) : Bool :=
  let pieces := scan groupReference? template
  let gs := segments pieces.length pieces
  decide (gs.flatMap Segment.pieces = pieces) && σ.answers gs false true && (σ.slip.isNone || σ.answers gs true false)

theorem wellFormed_iff_matches {value : List Char} :
    WellFormed (String.ofList value) ↔ (oneOf shapes).Matches value := by
  rw [WellFormed, String.toList_ofList, matches_oneOf]

variable {σ : Setting} {slips answer : Bool} {capture : Nat → Option String}

theorem wellFormed_iff_of_answers {template : List Char} {gs : List Segment}
    (hread : gs.flatMap Segment.pieces = scan groupReference? template) (hcap : σ.Captures slips capture)
    (h : σ.answers gs slips answer = true) :
    WellFormed (expand (String.ofList template) capture σ.table) ↔ answer = true := by
  unfold Setting.answers at h
  split at h
  next rs hrs =>
    rw [Bool.and_eq_true] at h
    obtain ⟨hclean, hms⟩ := allOutputs_spec hcap hrs
    have hm : (catAll rs).Matches (gs.flatMap (Segment.value σ.table capture)) := by
      rw [List.flatMap_def]
      exact matches_catAll hms
    have hvalue : ∀ c ∈ gs.flatMap (Segment.value σ.table capture), c ≠ '%' := by
      rintro c hc rfl
      have := holds_of_avoids h.1 hm hc
      rw [CharSet.holds_single_iff.2 rfl] at this
      cases this
    rw [expand_of_segments hread hclean hvalue, wellFormed_iff_matches]
    exact matches_iff_of_answers h.2 hm
  next => cases h

/-- If a template passes the test, its value has a shape exactly if the captured text does not slip. -/
theorem wellFormed_iff {template : List Char} (h : σ.exact template = true)
    (hcap : ∀ n body, σ.body? n = some body → ∃ t, capture n = some (String.ofList t) ∧ body.Matches t) :
    WellFormed (expand (String.ofList template) capture σ.table) ↔
      ∀ n k, σ.slip = some (n, k) → k.holds (groupText capture n) = false := by
  simp only [Setting.exact, Bool.and_eq_true, decide_eq_true_eq, Bool.or_eq_true] at h
  obtain ⟨⟨hread, hgood⟩, hbad⟩ := h
  by_cases hslip : ∀ n k, σ.slip = some (n, k) → k.holds (groupText capture n) = false
  · rw [wellFormed_iff_of_answers hread ⟨hcap, hslip⟩ hgood]
    exact iff_of_true rfl hslip
  · refine iff_of_false (fun hwell => ?_) hslip
    push Not at hslip
    obtain ⟨n, k, hs, hk⟩ := hslip
    rw [hs, Option.isNone_some] at hbad
    have hslipped : ∀ m l, σ.slip = some (m, l) → l.holds (groupText capture m) = true := by
      intro m l h
      obtain ⟨rfl, rfl⟩ := Prod.mk.inj (Option.some.inj (hs.symm.trans h))
      simpa using hk
    have := (wellFormed_iff_of_answers hread ⟨hcap, hslipped⟩ (hbad.resolve_left Bool.false_ne_true)).1 hwell
    cases this

end TemporalTagger.DateValue
