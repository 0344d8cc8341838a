/-
What a language contributes: pattern variables, normalization functions, tags that show tense, and
rule lines.
-/
import TemporalTagger.Resource.Normalization
import TemporalTagger.Resource.Variables
import TemporalTagger.Category
import TemporalTagger.Rule.Line

namespace TemporalTagger.Language

/-- Regexes for whole part-of-speech tags, by the tense that they show, and for the words that a
future tag has to go with. What a language leaves out never matches. -/
structure TenseTags where
  presentFuture : Option String := none
  past : Option String := none
  future : Option String := none
  futureWord : Option String := none

/-- The resources of a language. -/
structure Resources where
  vars : Variables
  normalization : Normalization
  tense : TenseTags
  rules : Category → List RuleLine

end TemporalTagger.Language
