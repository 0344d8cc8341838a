/-
From rule lines to rules: variables are replaced by their values, spaces are widened to any run of
whitespace, and the patterns are read.
-/
import TemporalTagger.Error
import TemporalTagger.Resource.Variables
import TemporalTagger.Rule.Basic
import TemporalTagger.Rule.Line

namespace TemporalTagger

open Text

/-! ## Expansion of patterns -/

namespace Expansion

/-- Recognises a reference to a variable: a percent sign, `re`, and letters and digits. -/
def reference? : Recogniser (List Char) := fun cs => do
  let rest ← after? "%re".toList cs
  let name := rest.takeWhile Char.isAlphanum
  some ('r' :: 'e' :: name, name.length + 3)

/-- What a space in a pattern stands for. -/
def anySpaces : List Char := "[\\s\\u\x7b180E\x7d]+".toList

/-- Widens each space. -/
def widen (cs : List Char) : List Char := cs.flatMap fun c => if c = ' ' then anySpaces else [c]

/-- Replaces the variables of a pattern, in one pass, and widens its spaces. The first unknown
name is reported before anything is replaced. -/
def expand (rule text : String) (vars : Variables) : Except TaggerError String :=
  let pieces := scan reference? text.toList
  match (found pieces).map String.ofList |>.find? (!vars.contains ·) with
  | some name => .error (.unknownVariable rule name)
  | none =>
    let value (name : List Char) : List Char :=
      ((vars.get? (String.ofList name)).getD "").toList
    .ok (String.ofList (widen (render value pieces)))

/-- Expands and reads a pattern. -/
def pattern (rule text : String) (vars : Variables) : Except TaggerError Pattern := do
  let source ← expand rule text vars
  match Pattern.ofText? source with
  | some p => .ok p
  | none => .error (.invalidPattern rule source)

end Expansion

/-! ## Rules -/

/-- Reads the constraints of a rule. -/
def PosConstraint.compile (rule : String) : List (Nat × String) →
    Except TaggerError (List PosConstraint)
  | [] => .ok []
  | (group, source) :: rest =>
    match Pattern.wholeText? source with
    | none => .error (.invalidConstraint rule source)
    | some pattern => (compile rule rest).map (⟨group, source, pattern⟩ :: ·)

/-- Compiles a rule line. The extraction pattern comes first, then the fast check, then the
constraints; an offset that cannot be read stands for the whole match. -/
def RuleLine.compile (line : RuleLine) (category : Category) (vars : Variables) :
    Except TaggerError Rule := do
  let pattern ← Expansion.pattern line.name line.extraction vars
  let fastCheck ←
    match line.fastCheck with
    | none => .ok none
    | some text => (Expansion.pattern line.name text vars).map some
  let constraints ←
    PosConstraint.compile line.name ((line.posConstraint.map PosConstraint.entries).getD [])
  .ok
    { category := category
      name := line.name
      pattern := pattern
      fastCheck := fastCheck
      value := line.value
      offset := (line.offset.bind Offset.parse?).getD Offset.wholeMatch
      quant := line.quant
      freq := line.freq
      modifier := line.modifier
      emptyValue := line.emptyValue
      constraints := constraints }

end TemporalTagger
