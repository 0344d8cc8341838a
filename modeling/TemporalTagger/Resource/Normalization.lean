/-
Normalization tables: what the functions `%normX(..)` of value templates make of captured text,
and the resource format in which they are written, with a `[normX]` line before the
`"surface","normalized"` lines of each function.
-/
import TemporalTagger.Error
import TemporalTagger.Table
import TemporalTagger.Text.Lines
import TemporalTagger.Text.Scan
import TemporalTagger.Unicode.Case

namespace TemporalTagger

/-- The entries of each function. -/
abbrev Normalization := Table (Table String)

namespace Normalization

/-! ## Look-up -/

def hasFunction (t : Normalization) (function : String) : Bool := t.contains function

/-- The normal form of a surface text: under the text itself, else under its lower case. -/
def lookup (t : Normalization) (function surface : String) : Option String := do
  let entries ← t.get? function
  entries.get? surface <|> entries.get? (Unicode.lowercase surface)

/-- Makes a function known, with no entries if it is new. -/
def addFunction (t : Normalization) (function : String) : Normalization :=
  if t.contains function then t else t.insert function Table.empty

/-- Adds an entry to a function. -/
def addEntry (t : Normalization) (function surface normalized : String) : Normalization :=
  t.insert function (((t.get? function).getD Table.empty).insert surface normalized)

/-- The table of a list of functions with their entries. -/
def ofSections (sections : List (String × List (String × String))) : Normalization :=
  sections.foldl (fun t (function, entries) =>
    entries.foldl (fun t (surface, normalized) => t.addEntry function surface normalized)
      (t.addFunction function)) Table.empty

/-! ## The resource format -/

/-- The function that a section header names. -/
def header? (line : List Char) : Option String :=
  match line with
  | '[' :: rest =>
    match rest.getLast? with
    | some ']' =>
      let name := rest.dropLast
      if ['n', 'o', 'r', 'm'].isPrefixOf name && name.all Char.isAlphanum then
        some (String.ofList name)
      else none
    | _ => none
  | _ => none

/-- Reads the end of an entry, after the quote that closes its surface text. -/
def normalizedPart? (cs : List Char) : Option (List Char) := do
  let cs ← Text.after? [','] (Text.trimStart cs)
  let cs ← Text.after? ['"'] (Text.trimStart cs)
  if cs.getLast? = some '"' then some cs.dropLast else none

/-- Reads an entry, after its opening quote. The last separator that can end the surface text does,
so surface texts may hold quotes and commas. -/
def entryParts? : List Char → Option (List Char × List Char)
  | [] => none
  | c :: rest =>
    match entryParts? rest with
    | some (surface, normalized) => some (c :: surface, normalized)
    | none => if c = '"' then (normalizedPart? rest).map fun n => ([], n) else none

/-- Reads an entry. -/
def entry? (line : List Char) : Option (String × String) := do
  let (surface, normalized) ← entryParts? (← Text.after? ['"'] line)
  some (String.ofList surface, String.ofList normalized)

/-- Takes one line into the table; `current` is the function of the section it stands in. -/
def parseLine (t : Normalization) (current : Option String) (line : List Char) :
    Except ResourceFault (Normalization × Option String) :=
  match header? line with
  | some function => .ok (t.addFunction function, some function)
  | none =>
    match entry? line, current with
    | none, _ => .error (.badEntry line)
    | some _, none => .error .entryBeforeSection
    | some (surface, normalized), some function =>
      .ok (t.addEntry function surface normalized, current)

/-- Takes lines into the table; the first bad one is reported with its number. -/
def parseLines (resource : String) (t : Normalization) (current : Option String) :
    List (Nat × List Char) → Except TaggerError Normalization
  | [] => .ok t
  | (number, line) :: rest =>
    match parseLine t current line with
    | .ok (t, current) => parseLines resource t current rest
    | .error fault => .error (.invalidResource resource number fault)

/-- Reads a resource; `resource` is its name in messages. -/
def parse (resource text : String) : Except TaggerError Normalization :=
  parseLines resource Table.empty none (Text.contentLines text)

end Normalization

end TemporalTagger
