/-
The report on a run: the rule set, the counters of each category, the expressions found, and the
time it took. Colours are optional.
-/
import TemporalTagger.Tagger
import TemporalTagger.Text.Lines

namespace TemporalTagger.Report

/-! ## Colours -/

inductive Colour
  | green
  | yellow
  | blue
  | magenta
  | cyan
  | gray

/-- The number of a colour in a terminal code. -/
def Colour.code : Colour → String
  | green => "32"
  | yellow => "33"
  | blue => "34"
  | magenta => "35"
  | cyan => "36"
  | gray => "90"

/-- How a report is written: with colours or without, and what stands for each elapsed time. -/
structure Style where
  colours : Bool
  elapsed : String

namespace Style

/-- A text between a terminal code and the code that resets it. -/
def wrap (st : Style) (code text : String) : String :=
  if st.colours then "\x1b[" ++ code ++ "m" ++ text ++ "\x1b[0m" else text

def paint (st : Style) (text : String) (c : Colour) : String := st.wrap c.code text

def bold (st : Style) (text : String) : String := st.wrap "1" text

def dim (st : Style) (text : String) : String := st.wrap "2" text

end Style

/-! ## Parts -/

/-- The longest piece of the input that the heading shows, in characters. -/
def previewLength : Nat := 80

/-- The heading of the report. -/
def heading (st : Style) (input : String) : List String :=
  let preview := String.ofList ((Text.trimChars input.toList).take previewLength)
  ["", st.bold (st.paint ("⚙  Tagging: \"" ++ preview ++ "\"") .cyan)]

/-- The heading of a section. -/
def sectionHeading (st : Style) (title : String) : List String :=
  ["", st.paint ("━━━ " ++ title ++ " ━━━") .gray]

/-- The size of the rule set, and of each category that has rules. -/
def ruleSetLines (st : Style) (t : Tagger) : List String :=
  let counts := (Category.all.filter fun c => 0 < t.rules.count c).map fun c =>
    st.paint c.name .blue ++ " " ++ toString (t.rules.count c)
  ["  " ++ st.dim "language:" ++ " " ++ st.paint t.language.name .cyan ++
    "  " ++ st.dim "rules:" ++ " " ++ st.paint (toString t.rules.size) .green ++
    "  " ++ st.dim "│" ++ " " ++ "  ".intercalate counts]

/-- A text filled up with spaces to a width. -/
def padRight (width : Nat) (s : String) : String :=
  s ++ String.ofList (List.replicate (width - s.length) ' ')

/-- The counters of a category. -/
def categoryLines (st : Style) (m : CategoryMetrics) : List String :=
  let emitted :=
    if 0 < m.emitted then st.paint ("✓ " ++ toString m.emitted ++ " emitted") .green
    else st.dim ("✗ " ++ toString m.emitted ++ " emitted")
  ["  " ++ st.paint (padRight 9 m.category.name) .blue ++ " " ++ emitted ++ "  " ++
      st.dim st.elapsed,
    "    " ++ st.dim "rules:" ++ " " ++ toString m.rulesConsidered ++
      "  " ++ st.dim "fast-rejected:" ++ " " ++ toString m.fastRejected ++
      "  " ++ st.dim "matches:" ++ " " ++ st.paint (toString m.candidates) .yellow ++
      "  " ++ st.dim "boundary:" ++ " " ++ toString m.rejectedBoundary ++
      "  " ++ st.dim "pos:" ++ " " ++ toString m.rejectedPos]

/-- One expression; values that still depend on context stand out. -/
def expressionLines (st : Style) (input : String) (index : Nat) (e : TimeExpression) :
    List String :=
  let value := st.bold (st.paint e.value (if e.isResolved then .green else .yellow))
  let extras := [("quant:", e.quant), ("freq:", e.freq), ("mod:", e.modifier)].filterMap
    fun (label, field) => field.map fun text => st.dim label ++ " " ++ st.paint text .magenta
  ["  " ++ st.paint ("[" ++ toString index ++ "]") .gray ++ " " ++ value ++ " " ++ st.dim "│" ++
      " " ++ st.paint ("\"" ++ e.coveredText input ++ "\"") .cyan ++ " " ++
      st.paint ("span " ++ toString e.span.start ++ ".." ++ toString e.span.stop) .yellow,
    "      " ++ st.dim "type:" ++ " " ++ st.paint e.category.name .blue ++
      "  " ++ st.dim "│ rule:" ++ " " ++ st.paint e.rule .cyan ++ "  " ++ "  ".intercalate extras]

/-- What is said when nothing was found. -/
def nothingFound (st : Style) : List String :=
  [st.dim "  No temporal expressions found",
    "",
    st.paint "Possible reasons:" .yellow,
    "  • No rule pattern matched",
    "  • Matches touched letters or digits on either side",
    "  • POS-constrained rules never fire on untagged input",
    "",
    st.dim "  Tip: Set TIMEX_LOG=timex=trace to see each rejected match"]

/-- The time that the run took, and how much it went through. -/
def timingLines (st : Style) (m : RunMetrics) : List String :=
  ["  Total: " ++ st.paint st.elapsed .green ++
      "  │  Extraction: " ++ st.paint st.elapsed .cyan ++
      "  │  Resolve: " ++ st.dim st.elapsed ++
      "  │  Sentences: " ++ st.paint (toString m.sentences) .blue ++
      "  │  Subsumed: " ++ st.paint (toString m.subsumed) .blue,
    ""]

/-! ## The report -/

/-- The lines of the report. -/
def lines (st : Style) (input : String) (t : Tagger) (r : TagResult) : List String :=
  heading st input ++
  sectionHeading st "Rule set" ++ ruleSetLines st t ++
  sectionHeading st "Categories" ++ r.metrics.categories.flatMap (categoryLines st) ++
  sectionHeading st "Results" ++
  (if r.expressions.isEmpty then nothingFound st
   else (r.expressions.zipIdx.map fun (e, i) => expressionLines st input i e).flatten) ++
  sectionHeading st "Timing" ++ timingLines st r.metrics

/-- The report as text; every line ends in a newline. -/
def render (st : Style) (input : String) (t : Tagger) (r : TagResult) : String :=
  String.join ((lines st input t r).map (· ++ "\n"))

end TemporalTagger.Report
