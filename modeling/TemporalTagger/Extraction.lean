/-
Finding the time expressions of a sentence. The rules of the wanted categories run in order; a
match has to have a span, to stand free on token boundaries and to satisfy the constraints on
parts of speech. Expressions that others cover can be dropped.
-/
import TemporalTagger.Boundary
import TemporalTagger.Metrics
import TemporalTagger.Rule.Set
import TemporalTagger.Template
import TemporalTagger.TimeExpression

namespace TemporalTagger

/-- What to tag and how. -/
structure Options where
  categories : CategorySet := CategorySet.default
  dropSubsumed : Bool := true
  resolveContext : Bool := true

namespace Extraction

/-! ## Single matches -/

/-- What becomes of a match. -/
inductive Outcome
  | rejectedOffset
  | rejectedBoundary
  | rejectedPos
  | emitted (e : TimeExpression)

/-- The expression that a rule makes of a match with the given span. -/
def express (t : Normalization) (r : Rule) (s : Sentence) (m : Regex.Match) (span : Span) :
    TimeExpression :=
  let capture (n : Nat) : Option String := (m.group? n).bind (Text.slice? s.text)
  let fill (template : String) : String := Template.expand template capture t
  { category := r.category
    value := fill r.value
    span := s.inDocument span
    quant := r.quant.map fill
    freq := r.freq.map fill
    modifier := r.modifier.map fill
    emptyValue := r.emptyValue.map fill
    rule := r.name }

/-- Tests a match: first its span, which must not be empty, then the boundaries, then the parts
of speech. -/
def judge (t : Normalization) (r : Rule) (s : Sentence) (m : Regex.Match) : Outcome :=
  match (r.offset.span? m).filter fun span => span.start < span.stop with
  | none => .rejectedOffset
  | some span =>
    if !Boundary.accepts s span then .rejectedBoundary
    else if !r.satisfiesPos s m then .rejectedPos
    else .emitted (express t r s m span)

/-! ## Rules -/

/-- The outcomes of all matches of a rule, or none if the fast check fails. -/
def outcomes? (t : Normalization) (s : Sentence) (r : Rule) : Option (List Outcome) :=
  if r.passesFastCheck s.text then some ((r.pattern.allMatches s.text).map (judge t r s)) else none

/-- The expressions among outcomes. -/
def expressions (os : List Outcome) : List TimeExpression :=
  os.filterMap fun
    | .emitted e => some e
    | _ => none

namespace Outcome

def isOffset : Outcome → Bool
  | rejectedOffset => true
  | _ => false

def isBoundary : Outcome → Bool
  | rejectedBoundary => true
  | _ => false

def isPos : Outcome → Bool
  | rejectedPos => true
  | _ => false

end Outcome

/-- The counters of a category, from the outcomes of its rules. -/
def countOutcomes (c : Category) (results : List (Option (List Outcome))) : CategoryMetrics :=
  let all := (results.filterMap id).flatten
  { category := c
    rulesConsidered := results.length
    fastRejected := results.countP (·.isNone)
    candidates := all.length
    rejectedBoundary := all.countP Outcome.isBoundary
    rejectedPos := all.countP Outcome.isPos
    rejectedOffset := all.countP Outcome.isOffset
    emitted := (expressions all).length }

/-! ## Overlap -/

/-- The order in which expressions claim text: by start, the longer one first, then by category.
Expressions that agree in all of these keep the order of their rules. -/
def claimsBefore (a b : TimeExpression) : Bool :=
  a.span.start < b.span.start || (a.span.start == b.span.start &&
    (b.span.stop < a.span.stop || (a.span.stop == b.span.stop &&
      a.category.rank ≤ b.category.rank)))

/-- Keeps each expression that reaches beyond all kept before it; `widest` is how far they
reach. -/
def keepWidest : (widest : Nat) → List TimeExpression → List TimeExpression
  | _, [] => []
  | widest, e :: rest =>
    if e.span.stop ≤ widest then keepWidest widest rest
    else e :: keepWidest e.span.stop rest

/-- Drops expressions that lie inside one that comes before them in order of claims. -/
def dropSubsumed (found : List TimeExpression) : List TimeExpression :=
  match found.mergeSort claimsBefore with
  | [] => []
  | e :: rest => e :: keepWidest e.span.stop rest

/-- Expressions by where they start. -/
def byStart (found : List TimeExpression) : List TimeExpression :=
  found.mergeSort fun a b => a.span.start ≤ b.span.start

/-! ## Sentences -/

/-- The expressions of a sentence and the counters of the run. -/
def run (rules : RuleSet) (s : Sentence) (options : Options) :
    List TimeExpression × RunMetrics :=
  let results := options.categories.toList.map fun c =>
    (c, (rules.ofCategory c).map (outcomes? rules.normalization s))
  let found := results.flatMap fun (_, rs) => expressions (rs.filterMap id).flatten
  let kept := if options.dropSubsumed then dropSubsumed found else byStart found
  (kept,
    { sentences := 1
      categories := results.map fun (c, rs) => countOutcomes c rs
      subsumed := found.length - kept.length })

end Extraction

/-- The time expressions of a sentence, by where they start. Values may still depend on context. -/
def extractSentence (rules : RuleSet) (s : Sentence) (options : Options) :
    List TimeExpression :=
  (Extraction.run rules s options).1

end TemporalTagger
