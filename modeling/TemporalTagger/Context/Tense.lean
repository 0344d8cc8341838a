/-
The tense that governs a time expression, read from the part-of-speech tags around it.
-/
import TemporalTagger.Language.Bundled
import TemporalTagger.TimeExpression

namespace TemporalTagger

/-- A grammatical tense. -/
inductive Tense
  | presentFuture
  | past
  | future
  deriving DecidableEq, Repr

namespace Tense

def name : Tense → String
  | presentFuture => "PRESENTFUTURE"
  | past => "PAST"
  | future => "FUTURE"

end Tense

namespace Language

/-- The tense tags of a language, as patterns. -/
structure TensePatterns where
  presentFuture : Option Pattern
  past : Option Pattern
  future : Option Pattern
  futureWord : Option Pattern

/-- The patterns of tense tags; each has to match a whole tag or word. -/
def TenseTags.patterns (t : TenseTags) : TensePatterns :=
  { presentFuture := t.presentFuture.bind Pattern.wholeText?
    past := t.past.bind Pattern.wholeText?
    future := t.future.bind Pattern.wholeText?
    futureWord := t.futureWord.bind Pattern.wholeText? }

/-! ## Bundled patterns

Each is a constant, so that a program reads it once. -/

def englishTense : TensePatterns := English.resources.tense.patterns
def germanTense : TensePatterns := German.resources.tense.patterns
def frenchTense : TensePatterns := French.resources.tense.patterns

def tensePatterns : Language → TensePatterns
  | english => englishTense
  | german => germanTense
  | french => frenchTense

end Language

namespace Tense

/-! ## Single tokens -/

/-- A token as far as tense goes: its tag and its text. -/
structure Cue where
  tag : Option String
  text : String

/-- The tense that a tagged token shows. A future tag has to go with a future word. -/
def ofCue (p : Language.TensePatterns) (c : Cue) : Option Tense :=
  match c.tag with
  | none => none
  | some tag =>
    if p.presentFuture.any (·.occursIn tag) then some presentFuture
    else if p.past.any (·.occursIn tag) then some past
    else if p.future.any (·.occursIn tag) && p.futureWord.any (·.occursIn c.text) then some future
    else none

/-- Words before an expression that put it in the past. -/
def pastWords : List String := ["since", "depuis"]

/-- The tense that a token before the expression shows. -/
def ofEarlierCue (p : Language.TensePatterns) (c : Cue) : Option Tense :=
  if pastWords.contains c.text then some past else ofCue p c

/-! ## Pairs of tokens -/

def auxiliaryTags : List String := ["VHZ", "VBZ", "VHP", "VBP", "VER:pres"]

def participleTags : List String := ["VVN", "VER:pper"]

/-- Participles that look ahead even in a perfect. -/
def prospectiveParticiples : List String := ["expected", "scheduled"]

/-- Participles of plans. -/
def plannedParticiples : List String :=
  ["prévu", "prévue", "prévus", "prévues", "envisagé", "envisagée", "envisagés", "envisagées"]

/-- Whether a token with the tag before it makes a perfect. -/
def isPerfect (previous : String) (c : Cue) : Bool :=
  auxiliaryTags.contains previous && c.tag.any participleTags.contains &&
    !prospectiveParticiples.contains c.text

/-- Whether a token with the tag before it speaks of a plan. -/
def isPlan (previous : String) (c : Cue) : Bool :=
  previous == "VER:pres" && c.tag == some "VER:pper" && plannedParticiples.contains c.text

/-- Whether some token passes a test together with the tag of the token before it; a missing tag
counts as empty. -/
def hasPair (test : String → Cue → Bool) : (previous : String) → List Cue → Bool
  | _, [] => false
  | previous, c :: rest => test previous c || hasPair test (c.tag.getD "") rest

/-! ## Sentences -/

/-- The tense around an expression, from the tokens before and after it. The nearest token before
that shows a tense decides, else the first one after. A present with a perfect beside it is past,
and in French a past with a plan beside it is future; a plan after the expression does not count
where a perfect has made the tense past. -/
def ofCues (language : Language) (before after : List Cue) : Option Tense :=
  let p := language.tensePatterns
  (before.reverse.findSome? (ofEarlierCue p) <|> after.findSome? (ofCue p)).map fun first =>
    let perfect := first == presentFuture &&
      (hasPair isPerfect "" before || hasPair isPerfect "" after)
    let tense := if perfect then past else first
    let planned := hasPair isPlan "" before || (!perfect && hasPair isPlan "" after)
    if tense == past && language == .french && planned then future else tense

/-- The tense that governs an expression in a sentence. Tokens count that end strictly before the
expression begins, and those that end after it does. -/
def around (e : TimeExpression) (s : Sentence) (language : Language) : Option Tense :=
  let cue (t : Token) : Cue := ⟨t.tag, s.tokenText t⟩
  ofCues language ((s.tokens.filter (·.span.stop < e.span.start)).map cue)
    ((s.tokens.filter (e.span.stop < ·.span.stop)).map cue)

end Tense

end TemporalTagger
