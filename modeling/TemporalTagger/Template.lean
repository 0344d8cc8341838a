/-
Value templates: text with references `group(N)` to captured text and calls of functions, such as
`UNDEF-year-%normMonth(group(1))`. References are replaced first, then calls are evaluated from
the inside out, as deep as the limit of nesting goes.
-/
import TemporalTagger.Resource.Normalization
import TemporalTagger.Rule.Basic

namespace TemporalTagger.Template

open Text

/-! ## References -/

/-- Writes each run of whitespace as one space; `inRun` says that a run has begun. -/
def collapse : (inRun : Bool) → List Char → List Char
  | _, [] => []
  | inRun, c :: rest =>
    if Unicode.isSpace c then
      if inRun then collapse true rest else ' ' :: collapse true rest
    else c :: collapse false rest

/-- The text of a captured group as it enters a template: empty if the group took no part. -/
def captured (capture : Nat → Option String) (digits : List Char) : List Char :=
  match (readWord? digits).bind capture with
  | some text => collapse false text.toList
  | none => []

/-- Replaces the references of a template. -/
def fillIn (capture : Nat → Option String) (template : List Char) : List Char :=
  render (captured capture) (scan groupReference? template)

/-! ## Calls -/

/-- The functions that a template can call. -/
inductive Function
  | norm (name : String)
  | upper
  | lower
  | sum
  | substring

/-- A call with the text of its argument, which holds no parentheses. -/
structure Call where
  function : Function
  argument : List Char

/-- Recognises the name of a function after its percent sign. -/
def function? : Recogniser Function := fun cs =>
  match after? "norm".toList cs with
  | some rest =>
    let name := "norm".toList ++ rest.takeWhile Char.isAlphanum
    some (.norm (String.ofList name), name.length)
  | none =>
    let named (label : String) (f : Function) : Option (Function × Nat) :=
      (after? label.toList cs).map fun _ => (f, label.length)
    named "UPPERCASE%" .upper <|> named "LOWERCASE%" .lower <|> named "SUM%" .sum <|>
      named "SUBSTRING%" .substring

def isParenthesis (c : Char) : Bool := c = '(' || c = ')'

/-- Recognises a call whose argument holds no parentheses. -/
def call? : Recogniser Call := fun cs => do
  let rest ← after? ['%'] cs
  let (function, taken) ← function? rest
  let rest ← after? ['('] (rest.drop taken)
  let argument := rest.takeWhile (!isParenthesis ·)
  let _ ← after? [')'] (rest.drop argument.length)
  some (⟨function, argument⟩, taken + argument.length + 3)

/-- The parts of a text between commas. -/
def splitCommas : List Char → List (List Char)
  | [] => [[]]
  | c :: rest =>
    match splitCommas rest with
    | [] => [[c]]
    | part :: parts => if c = ',' then [] :: part :: parts else (c :: part) :: parts

/-- Adds up numbers from left to right, as long as each sum fits in 64 bits. -/
def sumFrom (total : Int) : List (List Char) → Option Int
  | [] => some total
  | part :: parts => do
    let n ← readSigned? 64 (trimChars part)
    if fitsSigned 64 (total + n) then sumFrom (total + n) parts else none

/-- The sum of a list of numbers. -/
def sum? (argument : List Char) : Option Int := sumFrom 0 (splitCommas argument)

/-- Cuts a text at its last comma. -/
def cutLastComma? (cs : List Char) : Option (List Char × List Char) :=
  (cutAt? [','] cs.reverse).map fun (a, b) => (b.reverse, a.reverse)

/-- The characters of a text from one index up to another, the indices being the last two parts. -/
def substring? (argument : List Char) : Option (List Char) := do
  let (rest, stop) ← cutLastComma? argument
  let stop ← readUnsigned? (trimChars stop)
  let (text, start) ← cutLastComma? rest
  let start ← readUnsigned? (trimChars start)
  some ((text.drop start).take (stop - start))

/-- The value of a call. An argument that a function cannot take stays as it is. -/
def Call.value (t : Normalization) (c : Call) : List Char :=
  match c.function with
  | .upper => c.argument.flatMap Unicode.upperChar
  | .lower => Unicode.lowerFrom [] c.argument
  | .sum => ((sum? c.argument).map fun n => (toString n).toList).getD c.argument
  | .substring => (substring? c.argument).getD c.argument
  | .norm name =>
    ((t.lookup name (String.ofList c.argument)).map String.toList).getD c.argument

/-- The deepest nesting of calls that is evaluated. -/
def maxNesting : Nat := 8

/-- Evaluates the innermost calls, so many times over. -/
def evaluate (t : Normalization) : Nat → List Char → List Char
  | 0, cs => cs
  | n + 1, cs => evaluate t n (render (Call.value t) (scan call? cs))

/-- The value of a template. -/
def expand (template : String) (capture : Nat → Option String) (t : Normalization) : String :=
  String.ofList (evaluate t maxNesting (fillIn capture template.toList))

end TemporalTagger.Template
