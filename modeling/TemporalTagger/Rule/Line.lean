/-
Rules as they are written, one a line:
`RULENAME="..",EXTRACTION="..",NORM_VALUE=".."` and then any of the optional fields, each as
`FIELD=".."`.
-/
import TemporalTagger.Text.Scan

namespace TemporalTagger

/-- The fields of a rule line, as text. -/
structure RuleLine where
  name : String
  extraction : String
  value : String
  offset : Option String := none
  quant : Option String := none
  freq : Option String := none
  modifier : Option String := none
  posConstraint : Option String := none
  emptyValue : Option String := none
  fastCheck : Option String := none
  deriving Repr

namespace RuleLine

open Text

/-- Recognises `FIELD="value"`: the value runs up to the next quote. -/
def field? (label : String) : Recogniser (List Char) := fun cs => do
  let beginning := label.toList ++ ['=', '"']
  let (value, _) ← cutAt? ['"'] (← after? beginning cs)
  some (value, beginning.length + value.length + 1)

/-- The value of a field in the optional part of a line; a field given twice has its last value. -/
def optional (label : String) (rest : List Char) : Option String :=
  (found (scan (field? label) rest)).getLast?.map String.ofList

/-- Reads a line. What stands before the rule name is ignored, and each mandatory field ends where
the next one starts. -/
def parse? (line : List Char) : Option RuleLine := do
  let (_, cs) ← cutAt? "RULENAME=\"".toList line
  let (name, cs) ← cutAt? "\",EXTRACTION=\"".toList cs
  let (extraction, cs) ← cutAt? "\",NORM_VALUE=\"".toList cs
  let (value, rest) ← cutAt? ['"'] cs
  some
    { name := String.ofList name
      extraction := String.ofList extraction
      value := String.ofList value
      offset := optional "OFFSET" rest
      quant := optional "NORM_QUANT" rest
      freq := optional "NORM_FREQ" rest
      modifier := optional "NORM_MOD" rest
      posConstraint := optional "POS_CONSTRAINT" rest
      emptyValue := optional "EMPTY_VALUE" rest
      fastCheck := optional "FAST_CHECK" rest }

end RuleLine

end TemporalTagger
