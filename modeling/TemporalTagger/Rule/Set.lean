/-
Rule sets: the rules of a tagger in order of application, by category and then by name, with the
normalization table that their templates use. Within a category the first rule of a name counts.
-/
import TemporalTagger.Resource.Normalization
import TemporalTagger.Rule.Compile
import TemporalTagger.Text.Lines

namespace TemporalTagger

namespace Rule

/-- The order of application. -/
def precedes (a b : Rule) : Bool :=
  a.category.rank < b.category.rank || (a.category == b.category && a.name < b.name)

end Rule

/-- Rules in order of application, no two of the same category and name. -/
structure RuleSet where
  rules : List Rule
  normalization : Normalization

namespace RuleSet

def empty (normalization : Normalization) : RuleSet := ⟨[], normalization⟩

/-- The rules of a category, in order of application. -/
def ofCategory (s : RuleSet) (c : Category) : List Rule := s.rules.filter (·.category == c)

/-- The rule of a category and name. -/
def find? (s : RuleSet) (c : Category) (name : String) : Option Rule :=
  s.rules.find? fun r => r.category == c && r.name == name

def contains (s : RuleSet) (c : Category) (name : String) : Bool := (s.find? c name).isSome

def size (s : RuleSet) : Nat := s.rules.length

def count (s : RuleSet) (c : Category) : Nat := (s.ofCategory c).length

/-- Puts a rule before the first one that it precedes. -/
def place (r : Rule) : List Rule → List Rule
  | [] => [r]
  | a :: rest => if r.precedes a then r :: a :: rest else a :: place r rest

/-- Adds a rule of a new name. -/
def insert (s : RuleSet) (r : Rule) : RuleSet := { s with rules := place r s.rules }

/-- The rules outside a category. -/
def without (s : RuleSet) (c : Category) : RuleSet :=
  { s with rules := s.rules.filter (·.category != c) }

end RuleSet

/-! ## Compilation -/

/-- How many rules were taken into a set, and how many lines were left out and why. -/
structure CompileStats where
  compiled : Nat := 0
  malformed : Nat := 0
  duplicates : Nat := 0
  deriving DecidableEq, Repr

/-- A rule set under construction. -/
structure Compilation where
  set : RuleSet
  stats : CompileStats

namespace Compilation

/-- Takes one line of a category; `none` stands for a line that is no rule. -/
def addLine (vars : Variables) (category : Category) (c : Compilation) :
    Option RuleLine → Except TaggerError Compilation
  | none => .ok { c with stats := { c.stats with malformed := c.stats.malformed + 1 } }
  | some line =>
    if c.set.contains category line.name then
      .ok { c with stats := { c.stats with duplicates := c.stats.duplicates + 1 } }
    else do
      let rule ← line.compile category vars
      .ok ⟨c.set.insert rule, { c.stats with compiled := c.stats.compiled + 1 }⟩

/-- Takes lines in order. The first failure ends the compilation. -/
def addLines (vars : Variables) (c : Compilation) :
    List (Category × Option RuleLine) → Except TaggerError Compilation
  | [] => .ok c
  | (category, line) :: rest => do
    let c ← c.addLine vars category line
    addLines vars c rest

end Compilation

/-- Rule lines of one category. -/
structure RuleSource where
  category : Category
  lines : List (Option RuleLine)

namespace RuleSource

/-- The rule lines of a text. -/
def ofText (category : Category) (text : String) : RuleSource :=
  ⟨category, (Text.contentLines text).map fun (_, line) => RuleLine.parse? line⟩

/-- The lines of sources in order of compilation: by category, then as given. -/
def inOrder (sources : List RuleSource) : List (Category × Option RuleLine) :=
  Category.all.flatMap fun c =>
    (sources.filter (·.category == c)).flatMap fun s => s.lines.map fun line => (c, line)

end RuleSource

/-- Compiles sources into a rule set. -/
def compileRules (sources : List RuleSource) (vars : Variables)
    (normalization : Normalization) : Except TaggerError Compilation :=
  Compilation.addLines vars ⟨RuleSet.empty normalization, {}⟩ (RuleSource.inOrder sources)

end TemporalTagger
