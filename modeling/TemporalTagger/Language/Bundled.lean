/-
The bundled resources and the rule sets compiled from them, with the temponym rules or without.
-/
import TemporalTagger.Language.Basic
import TemporalTagger.Language.English
import TemporalTagger.Language.French
import TemporalTagger.Language.German
import TemporalTagger.Rule.Set

namespace TemporalTagger

namespace Language

/-- The resources of a language. -/
def resources : Language → Resources
  | english => English.resources
  | german => German.resources
  | french => French.resources

namespace Resources

/-- The rule lines as sources, the temponym rules only if asked for. -/
def sources (r : Resources) (temponyms : Bool) : List RuleSource :=
  (Category.all.filter fun c => temponyms || c != .temponym).map fun c =>
    ⟨c, (r.rules c).map some⟩

/-- The compiled rules. -/
def compile (r : Resources) (temponyms : Bool) : Except TaggerError RuleSet :=
  (compileRules (r.sources temponyms) r.vars r.normalization).map (·.set)

end Resources

/-! ## Compiled rules

Each set is a constant, so that a program compiles it once. -/

def englishRules : Except TaggerError RuleSet := English.resources.compile false
def englishRulesWithTemponyms : Except TaggerError RuleSet := English.resources.compile true
def germanRules : Except TaggerError RuleSet := German.resources.compile false
def germanRulesWithTemponyms : Except TaggerError RuleSet := German.resources.compile true
def frenchRules : Except TaggerError RuleSet := French.resources.compile false
def frenchRulesWithTemponyms : Except TaggerError RuleSet := French.resources.compile true

/-- The bundled rule set of a language. -/
def ruleSet : Language → (temponyms : Bool) → Except TaggerError RuleSet
  | english, false => englishRules
  | english, true => englishRulesWithTemponyms
  | german, false => germanRules
  | german, true => germanRulesWithTemponyms
  | french, false => frenchRules
  | french, true => frenchRulesWithTemponyms

theorem ruleSet_eq (l : Language) (temponyms : Bool) :
    l.ruleSet temponyms = l.resources.compile temponyms := by
  cases l <;> cases temponyms <;> rfl

end Language

end TemporalTagger
