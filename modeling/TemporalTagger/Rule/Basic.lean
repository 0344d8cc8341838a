/-
Compiled rules: a pattern with what has to hold of a match and what is made of it.
-/
import TemporalTagger.Category
import TemporalTagger.Regex.Match
import TemporalTagger.Sentence.Basic
import TemporalTagger.Text.Lines
import TemporalTagger.Text.Number
import TemporalTagger.Text.Scan

namespace TemporalTagger

open Text

/-! ## References to groups -/

/-- Recognises `group(N)`, with the digits of the number. -/
def groupReference? : Recogniser (List Char) := fun cs => do
  let rest ← after? "group(".toList cs
  let digits := rest.takeWhile Char.isDigit
  if digits.isEmpty then none
  else
    let _ ← after? [')'] (rest.dropWhile Char.isDigit)
    some (digits, 7 + digits.length)

/-! ## Offsets -/

/-- Which groups delimit the reported span: it runs from the start of one to the end of the
other. -/
structure Offset where
  first : Nat
  last : Nat
  deriving DecidableEq, Repr

namespace Offset

/-- The whole match. -/
def wholeMatch : Offset := ⟨0, 0⟩

/-- Reads `group(i)-group(j)`. -/
def parse? (text : String) : Option Offset := do
  let cs := trimChars text.toList
  let (first, taken) ← groupReference? cs
  let cs ← after? ['-'] (cs.drop taken)
  let (last, taken) ← groupReference? cs
  if (cs.drop taken).isEmpty then some ⟨← readWord? first, ← readWord? last⟩ else none

/-- The span that an offset selects from a match, relative to the text. There is none if a group
took no part, or if the end would come before the start. -/
def span? (o : Offset) (m : Regex.Match) : Option Span := do
  let first ← m.group? o.first
  let last ← m.group? o.last
  if first.start ≤ last.stop then some ⟨first.start, last.stop⟩ else none

end Offset

/-! ## Constraints on parts of speech -/

/-- The token that starts where a group does has to carry a tag that matches as a whole. -/
structure PosConstraint where
  group : Nat
  source : String
  pattern : Pattern

namespace PosConstraint

/-- Whether a match in a sentence satisfies the constraint. -/
def holds (p : PosConstraint) (s : Sentence) (m : Regex.Match) : Bool :=
  match m.group? p.group with
  | none => false
  | some span =>
    match s.tokenAt? (s.start + span.start) with
    | none => false
    | some token => token.tag.any p.pattern.occursIn

/-- Recognises `group(N):tags:`, with the digits of the number and the pattern of tags. -/
def entry? : Recogniser (List Char × List Char) := fun cs => do
  let (digits, taken) ← groupReference? cs
  let rest ← after? [':'] (cs.drop taken)
  let (tags, _) ← cutAt? [':'] rest
  some ((digits, tags), taken + tags.length + 2)

/-- The constraints that a text lists, with group numbers below `2 ^ 64`. -/
def entries (text : String) : List (Nat × String) :=
  (found (scan entry? text.toList)).filterMap fun (digits, tags) =>
    (readWord? digits).map fun group => (group, String.ofList tags)

end PosConstraint

/-! ## Rules -/

/-- A compiled rule. The value and the annotations are templates. -/
structure Rule where
  category : Category
  name : String
  pattern : Pattern
  fastCheck : Option Pattern
  value : String
  offset : Offset
  quant : Option String
  freq : Option String
  modifier : Option String
  emptyValue : Option String
  constraints : List PosConstraint

namespace Rule

/-- Whether the rule is worth trying on a text. -/
def passesFastCheck (r : Rule) (text : String) : Bool := r.fastCheck.all (·.occursIn text)

/-- Whether a match satisfies all constraints on parts of speech. -/
def satisfiesPos (r : Rule) (s : Sentence) (m : Regex.Match) : Bool :=
  r.constraints.all (·.holds s m)

end Rule

end TemporalTagger
