/-
The bundled rules, all languages together. No fast check of theirs changes what is found; a rule finds
all phrases that its pattern matches as a whole but those with a lost ending; and the values of date
rules have a shape but for the slips. Main facts: `extractSentence_unchecked_eq`, `covers_phrase_iff`
and `wellFormed_value_iff`.
-/
import TemporalTagger.Proofs.Language.English
import TemporalTagger.Proofs.Language.French
import TemporalTagger.Proofs.Language.German
import TemporalTagger.Sentence.Segment

namespace TemporalTagger

/-- The options that tag all categories and keep every expression. -/
def Options.everything : Options := { categories := .ofList Category.all, dropSubsumed := false }

theorem Options.mem_everything (c : Category) : c ∈ everything.categories.toList := by
  cases c <;> decide

namespace Language

open Extraction

/-- What was tested of the lines of each language is known of its rules. -/
theorem exists_ruleSet_tested (l : Language) (temponyms : Bool) :
    ∃ rules, l.ruleSet temponyms = .ok rules ∧ (∀ r ∈ rules.rules, Tested l r) ∧
      rules.rules.Pairwise RuleSet.Differ ∧ rules.normalization = l.resources.normalization := by
  cases l with
  | english => exact ruleSet_tested English.testedLines English.testedLines_lines temponyms
  | german => exact ruleSet_tested German.testedLines German.testedLines_lines temponyms
  | french => exact ruleSet_tested French.testedLines French.testedLines_lines temponyms

/-! ## Fast checks -/

/-- A bundled rule set finds in every sentence what it finds without its fast checks: where a fast check
fails, the pattern does not occur. -/
theorem extractSentence_unchecked_eq (l : Language) (temponyms : Bool) :
    ∃ rules, l.ruleSet temponyms = .ok rules ∧
      (∀ s options, extractSentence rules s options = extractSentence rules.unchecked s options) ∧
      ∀ r ∈ rules.rules, ∀ text, r.passesFastCheck text = false → r.pattern.occursIn text = false := by
  obtain ⟨rules, hrules, htested, -, -⟩ := exists_ruleSet_tested l temponyms
  have hhinted : ∀ r ∈ rules.rules, ∀ text, r.passesFastCheck text = false → r.pattern.occursIn text = false :=
    fun r hr => (htested r hr).hinted
  exact ⟨rules, hrules, fun s options => (extractSentence_unchecked hhinted s options).symm, hhinted⟩

/-! ## Phrases -/

/-- A bundled rule without constraints covers a phrase that its pattern matches as a whole, unless the
phrase has one of the lost endings; then it does not. -/
theorem covers_phrase_iff (l : Language) :
    ∃ rules, l.ruleSet true = .ok rules ∧ ∀ r ∈ rules.rules, r.constraints = [] → r.offset = .wholeMatch →
      ∃ whole, Pattern.wholeText? r.pattern.source = some whole ∧ ∀ w, whole.occursIn w = true →
        ((∃ e ∈ extractSentence rules (Sentence.tokenize w 0) .everything, Covers r (Sentence.tokenize w 0) e) ↔
          ¬ Regex.EndsWith (lostEndings l r.category r.name) w.toList) := by
  obtain ⟨rules, hrules, htested, hdiffer, -⟩ := exists_ruleSet_tested l true
  refine ⟨rules, hrules, fun r hr hconstraints hoffset => ?_⟩
  obtain ⟨whole, hwhole, hfinds⟩ := (htested r hr).findsWhole
  refine ⟨whole, hwhole, fun w hw => ?_⟩
  obtain ⟨hne, hiff⟩ := hfinds w hw
  have hsize : 0 < (Sentence.tokenize w 0).size := by
    rw [Nat.pos_iff_ne_zero]
    exact fun h => hne (String.utf8ByteSize_eq_zero_iff.1 h)
  rw [← hiff]
  exact covers_iff hdiffer hr (Options.mem_everything _) rfl hconstraints hoffset ((htested r hr).hinted w) hsize

/-! ## Date values -/

/-- The value of an expression that a bundled date rule emits has a shape exactly if no captured text
slips. -/
theorem wellFormed_value_iff (l : Language) (temponyms : Bool) :
    ∃ rules, l.ruleSet temponyms = .ok rules ∧ ∀ s options, ∀ e ∈ extractSentence rules s options,
      e.category = .date → ∃ r m, Stems rules s options e r m ∧ r.category = .date ∧ r.name = e.rule ∧
        (DateValue.WellFormed e.value ↔ ∀ n k, DateValue.slip? l r.name = some (n, k) →
          k.holds (DateValue.groupText (captures s.text m) n) = false) := by
  obtain ⟨rules, hrules, htested, -, hnormalization⟩ := exists_ruleSet_tested l temponyms
  refine ⟨rules, hrules, fun s options e he hdate => ?_⟩
  obtain ⟨r, m, hstems⟩ := exists_of_mem_extractSentence he
  obtain ⟨span, hpassed⟩ := judge_eq_emitted.1 hstems.judged
  obtain rfl := hpassed.express
  refine ⟨r, m, hstems, hdate, rfl, ?_⟩
  have hshaped := (htested r hstems.rule).shaped hdate s.text m hstems.matched
  rw [← hnormalization] at hshaped
  exact hshaped

end Language

end TemporalTagger
