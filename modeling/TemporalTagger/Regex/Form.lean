/-
Expressions as they are read, in normal form: neighbouring characters make one literal, sequences
and alternatives are flat, and alternatives that read one character each are a set. Alternatives
that all start with the same parts share them, so `ab|ac` is read as `a(?:b|c)`. Where the shared
parts can match in several ways this decides which match is found: the way through the shared
parts is chosen before the alternative.
-/
import TemporalTagger.Regex.Basic

namespace TemporalTagger.Regex

/-- An expression as it is read. Repetition has its bounds, and `greedy` says whether it prefers
another round. The first of a `cat` is neither empty nor a `cat`, and that of an `alt` is no
`alt`. -/
inductive Form
  | empty
  | literal (cs : List Char)
  | set (s : CharSet)
  | look (l : Look)
  | times (f : Form) (min : Nat) (max : Option Nat) (greedy : Bool)
  | group (n : Nat) (f : Form)
  | cat (first rest : Form)
  | alt (first rest : Form)
  deriving BEq

namespace Form

/-! ## Sequences -/

/-- The parts of a sequence; any other expression is one part. -/
def parts : Form → List Form
  | empty => []
  | cat first rest => first :: rest.parts
  | f => [f]

/-- The sequence of the given parts. -/
def ofParts : List Form → Form
  | [] => empty
  | [f] => f
  | f :: rest => cat f (ofParts rest)

/-- Puts a part before others; neighbouring literals become one. -/
def joinPart : Form → List Form → List Form
  | literal cs, literal ds :: rest => literal (cs ++ ds) :: rest
  | f, rest => f :: rest

/-- Expressions one after another. -/
def sequence (fs : List Form) : Form := ofParts ((fs.flatMap parts).foldr joinPart [])

/-! ## Sets -/

/-- The set of characters of an expression that reads exactly one. -/
def chars? : Form → Option CharSet
  | literal [c] => some (.single c)
  | set s => some s
  | _ => none

/-- One character of a set; a set of a single character is a literal. -/
def ofSet (s : CharSet) : Form :=
  match s.single? with
  | some c => literal [c]
  | none => set s

/-! ## Alternatives -/

/-- The branches of alternatives; any other expression is one branch. -/
def branches : Form → List Form
  | alt first rest => first :: rest.branches
  | f => [f]

/-- The alternatives with the given branches. -/
def ofBranches : List Form → Form
  | [] => empty
  | [f] => f
  | f :: rest => alt f (ofBranches rest)

/-- Alternatives in order of preference. -/
def choice (fs : List Form) : Form :=
  let fs := fs.flatMap branches
  match fs.mapM chars? with
  | some sets => ofSet (.unionAll sets)
  | none => ofBranches fs

/-- What two lists start with alike. -/
def commonStart : List Form → List Form → List Form
  | a :: as, b :: bs => if a == b then a :: commonStart as bs else []
  | _, _ => []

/-- The parts that all branches start with. A branch of a single part shares nothing. -/
def sharedParts : List (List Form) → List Form
  | [] => []
  | b :: rest =>
    if (b :: rest).all fun parts => 2 ≤ parts.length then rest.foldl commonStart b else []

/-- Alternatives, with the parts that they all start with taken out in front. -/
def alternation (fs : List Form) : Form :=
  let fs := fs.flatMap branches
  let shared := sharedParts (fs.map parts)
  if shared.isEmpty then choice fs
  else
    sequence (shared ++ [choice (fs.map fun f => ofParts (f.parts.drop shared.length))])

/-! ## Repetition -/

/-- Whether no match of the expression reads a character. -/
def widthless : Form → Bool
  | empty | look _ => true
  | literal _ | set _ => false
  | times f _ _ _ | group _ f => f.widthless
  | cat f g | alt f g => f.widthless && g.widthless

/-- From `min` to `max` times, without bound if there is no `max`. A body that reads nothing is
tried at most once, no time at all is empty, and once is the body itself. -/
def repeated (f : Form) (min : Nat) (max : Option Nat) (greedy : Bool) : Form :=
  let (min, max) := if f.widthless then (Nat.min min 1, some ((max.getD 1).min 1)) else (min, max)
  if max = some 0 then empty
  else if min = 1 ∧ max = some 1 then f
  else times f min max greedy

/-! ## Meaning -/

/-- The expression with its repetitions unfolded. -/
def unfold : Form → Regex
  | empty => .empty
  | literal cs => catAll (cs.map fun c => .set (.single c))
  | set s => .set s
  | look l => .look l
  | times f min max greedy => f.unfold.repeated min max greedy
  | group n f => .group n f.unfold
  | cat f g => .cat f.unfold g.unfold
  | alt f g => .alt f.unfold g.unfold

end Form

end TemporalTagger.Regex
