/-
Patterns of rules with their spaces widened. A pattern compiles and occurs wherever its text as written does, if every
space of the text is a character of its own with no question mark after it. Main fact: `pattern_occursIn_of_spaceFree`.
-/
import TemporalTagger.Proofs.Regex.Occurrence
import TemporalTagger.Proofs.Regex.Widening
import TemporalTagger.Proofs.Rule.Lines

namespace TemporalTagger.Expansion

open Regex Text

variable {rule text : String} {vars : Variables}

/-- The names of the variables in a text. -/
def names (text : String) : List String := (found (scan reference? text.toList)).map String.ofList

/-- The value of a variable; one that is not known has none. -/
def value (vars : Variables) (name : List Char) : List Char := ((vars.get? (String.ofList name)).getD "").toList

/-- The text with its variables replaced, its spaces as they were written. -/
def substituted (text : String) (vars : Variables) : List Char := render (value vars) (scan reference? text.toList)

/-- Where all variables are known, an expansion is the replaced text with its spaces widened. -/
theorem expand_of_known (hknown : ∀ name ∈ names text, vars.contains name = true) :
    expand rule text vars = .ok (String.ofList (widen (substituted text vars))) := by
  have hnone : (names text).find? (!vars.contains ·) = none :=
    List.find?_eq_none.2 fun name hname => by simp [hknown name hname]
  unfold names at hnone
  unfold expand
  simp only [hnone]
  rfl

/-- Widening makes a pattern more tolerant if each of its spaces is a character of its own that no question mark
follows: the pattern compiles, and occurs wherever the replaced text as written does. -/
theorem pattern_occursIn_of_spaceFree (rule : String) (hknown : ∀ name ∈ names text, vars.contains name = true)
    (hfree : SpaceFree (substituted text vars)) {p : Pattern}
    (hp : Pattern.ofText? (String.ofList (substituted text vars)) = some p) :
    ∃ q, pattern rule text vars = .ok q ∧ ∀ t, p.occursIn t = true → q.occursIn t = true := by
  obtain ⟨r, hr, rfl⟩ := Option.map_eq_some_iff.1 hp
  obtain ⟨wide, hwide, hincludes⟩ := exists_widened hfree hr
  refine ⟨Pattern.ofRegex (String.ofList (widen (substituted text vars))) wide, ?_, fun t ht => ?_⟩
  · exact pattern_eq_ok ⟨_, expand_of_known hknown, by rw [Pattern.ofText?, hwide, Option.map_some]⟩
  · rw [occursIn_iff_runs] at ht ⊢
    obtain ⟨u, hu, q, hq⟩ := ht
    exact ⟨u, hu, q, hincludes hq⟩

/-- Variables of a pattern about days. -/
def dayVariables : Variables := Table.ofList [("reDay", "(first|last) day"), ("reMonth", "(May|June)")]

/-- Spaces in the text and in values, one of them repeated. -/
theorem pattern_occursIn_of_spaceFree_days :
    (∀ name ∈ names "the %reDay *of %reMonth", dayVariables.contains name = true) ∧
      SpaceFree (substituted "the %reDay *of %reMonth" dayVariables) ∧
      ∃ p q, Pattern.ofText? "the (first|last) day *of (May|June)" = some p ∧
        pattern "r" "the %reDay *of %reMonth" dayVariables = .ok q ∧
          ∀ t, p.occursIn t = true → q.occursIn t = true := by
  have hknown : ∀ name ∈ names "the %reDay *of %reMonth", dayVariables.contains name = true := by decide
  have htext : substituted "the %reDay *of %reMonth" dayVariables = "the (first|last) day *of (May|June)".toList := by
    decide
  have hfree : SpaceFree (substituted "the %reDay *of %reMonth" dayVariables) := by
    rw [htext]
    decide +kernel
  obtain ⟨p, hp⟩ := Option.isSome_iff_exists.1 (by decide +kernel :
    (Pattern.ofText? "the (first|last) day *of (May|June)").isSome = true)
  obtain ⟨q, hq⟩ := pattern_occursIn_of_spaceFree "r" hknown hfree (by rwa [htext, String.ofList_toList])
  exact ⟨hknown, hfree, p, q, hp, hq⟩

end TemporalTagger.Expansion
