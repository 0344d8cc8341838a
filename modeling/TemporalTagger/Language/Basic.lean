/-
The languages that rules are bundled for.
-/
import TemporalTagger.Error
import TemporalTagger.Text.Lines
import TemporalTagger.Unicode.Case

namespace TemporalTagger

/-- A language with bundled rules. -/
inductive Language
  | english
  | german
  | french
  deriving DecidableEq, Repr

namespace Language

def all : List Language := [english, german, french]

def name : Language → String
  | english => "english"
  | german => "german"
  | french => "french"

/-- The two-letter code of ISO 639-1. -/
def code : Language → String
  | english => "en"
  | german => "de"
  | french => "fr"

/-- The language of a name or code, in any case and with whitespace around it. -/
def ofText (s : String) : Except TaggerError Language :=
  let wanted := Unicode.lowercase (Text.trim s)
  match all.find? fun l => l.name == wanted || l.code == wanted with
  | some l => .ok l
  | none => .error (.unknownLanguage s)

end Language

end TemporalTagger
