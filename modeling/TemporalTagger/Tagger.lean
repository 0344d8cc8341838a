/-
Taggers: a rule set bound to a language and options, and the tagging of whole documents.
-/
import TemporalTagger.Context.Resolution
import TemporalTagger.Extraction

namespace TemporalTagger

/-- A rule set with the language whose tenses it reads and the options to run it with. -/
structure Tagger where
  language : Language
  rules : RuleSet
  options : Options

/-- What tagging a document gives: the expressions by where they start, and the counters. -/
structure TagResult where
  expressions : List TimeExpression
  metrics : RunMetrics

namespace Tagger

/-- The tagger of a language's own rules; the temponym rules are among them if wanted. -/
def bundled (language : Language) (options : Options) : Except TaggerError Tagger := do
  let rules ← language.ruleSet (options.categories.has .temponym)
  .ok ⟨language, rules, options⟩

/-- The expressions of one sentence, with values as the rules give them. -/
def tagSentence (t : Tagger) (s : Sentence) : List TimeExpression :=
  extractSentence t.rules s t.options

/-- The expressions of all sentences and the counters of all runs. -/
def extractAll (t : Tagger) (sentences : List Sentence) : TagResult :=
  let runs := sentences.map fun s => Extraction.run t.rules s t.options
  ⟨Extraction.byStart (runs.flatMap (·.1)), (runs.map (·.2)).foldl RunMetrics.merge {}⟩

/-- Tags a document: every sentence first, then the placeholders of the whole. -/
def tagDocument (t : Tagger) (sentences : List Sentence) (context : DocumentContext) :
    TagResult :=
  let found := t.extractAll sentences
  if t.options.resolveContext then
    { found with
      expressions := resolvePlaceholders context sentences t.language found.expressions }
  else found

end Tagger

end TemporalTagger
