/-
What can go wrong before tagging starts: defects of rules, resources and settings. Conditions of
the text that is tagged are never errors.
-/
import TemporalTagger.Text.Quoted

namespace TemporalTagger

/-- What is wrong with a line of a resource. -/
inductive ResourceFault
  | noEqualsSign (line : List Char)
  | badName (name : List Char)
  | badEntry (line : List Char)
  | entryBeforeSection

namespace ResourceFault

def message : ResourceFault → String
  | noEqualsSign line => "expected name=value, found " ++ Text.quoted line
  | badName name => "invalid pattern name " ++ Text.quoted name
  | badEntry line => "expected \"surface\",\"normalized\", found " ++ Text.quoted line
  | entryBeforeSection => "entry before the first [normX] section"

end ResourceFault

/-- The causes of failure. -/
inductive TaggerError
  | unknownVariable (rule name : String)
  | invalidPattern (rule pattern : String)
  | invalidConstraint (rule pattern : String)
  | unknownLanguage (name : String)
  | unknownGranularity (name : String)
  | unknownDocumentType (name : String)
  | invalidResource (resource : String) (line : Nat) (fault : ResourceFault)

namespace TaggerError

def message : TaggerError → String
  | unknownVariable rule name =>
    "rule " ++ rule ++ ": pattern variable %" ++ name ++ " does not exist"
  | invalidPattern rule pattern =>
    "rule " ++ rule ++ ": cannot compile pattern " ++ Text.quoted pattern.toList
  | invalidConstraint rule pattern =>
    "rule " ++ rule ++ ": cannot compile POS constraint " ++ Text.quoted pattern.toList
  | unknownLanguage name => "unknown language '" ++ name ++ "'"
  | unknownGranularity name => "unknown granularity '" ++ name ++ "'"
  | unknownDocumentType name =>
    "unknown document type '" ++ name ++ "' (expected news or narrative)"
  | invalidResource resource line fault =>
    resource ++ ":" ++ toString line ++ ": " ++ fault.message

end TaggerError

end TemporalTagger
