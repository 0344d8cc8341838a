/-
Pattern variables: named pieces of regexes that rules refer to as `%reName`, and the resource
format in which they are written, one `name=value` a line.
-/
import TemporalTagger.Error
import TemporalTagger.Table
import TemporalTagger.Text.Lines
import TemporalTagger.Text.Scan

namespace TemporalTagger

/-- The variables that rules can refer to. -/
abbrev Variables := Table String

namespace Variables

/-- Whether a text is a name: an ASCII letter, then ASCII letters and digits. -/
def isName : List Char → Bool
  | [] => false
  | c :: rest => c.isAlpha && rest.all Char.isAlphanum

/-- Reads one definition. Only the first equals sign separates, so values may hold others. -/
def parseLine (line : List Char) : Except ResourceFault (String × String) :=
  match Text.cutAt? ['='] line with
  | none => .error (.noEqualsSign line)
  | some (name, value) =>
    let name := Text.trimChars name
    if isName name then .ok (String.ofList name, String.ofList value) else .error (.badName name)

/-- Takes lines into the table; the first bad one is reported with its number. -/
def parseLines (resource : String) (table : Variables) :
    List (Nat × List Char) → Except TaggerError Variables
  | [] => .ok table
  | (number, line) :: rest =>
    match parseLine line with
    | .ok (name, value) => parseLines resource (table.insert name value) rest
    | .error fault => .error (.invalidResource resource number fault)

/-- Reads a resource; `resource` is its name in messages. -/
def parse (resource text : String) : Except TaggerError Variables :=
  parseLines resource Table.empty (Text.contentLines text)

end Variables

end TemporalTagger
