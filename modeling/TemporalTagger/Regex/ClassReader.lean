/-
Bracketed character classes: items and ranges, nested classes, named classes, and the set
operators `&&`, `--` and `~~`, which group to the left and bind weaker than juxtaposition.
-/
import TemporalTagger.Regex.Escape

namespace TemporalTagger.Regex

/-- The operators between the parts of a class. -/
inductive SetOp
  | inter
  | diff
  | symmDiff

/-- Reads an operator, which is one of three characters written twice. -/
def SetOp.read? : List Char → Option (SetOp × List Char)
  | '&' :: '&' :: rest => some (.inter, rest)
  | '-' :: '-' :: rest => some (.diff, rest)
  | '~' :: '~' :: rest => some (.symmDiff, rest)
  | _ => none

/-- The meaning of an operator; where case is ignored both sides grow first. -/
def SetOp.apply (fl : Flags) (op : SetOp) (a b : CharSet) : CharSet :=
  let grow (s : CharSet) : CharSet := if fl.ignoreCase then .folded s else s
  match op with
  | .inter => .inter (grow a) (grow b)
  | .diff => .diff (grow a) (grow b)
  | .symmDiff => .symmDiff (grow a) (grow b)

/-- A class as read so far, with the depth of its nesting. -/
structure NestedSet where
  chars : CharSet
  depth : Nat

/-- Juxtaposed items, the last one first. -/
abbrev Items := List NestedSet

/-- The union of juxtaposed items; it is a level of nesting of its own from two items on. -/
def Items.close (items : Items) : NestedSet :=
  let deepest := (items.map (·.depth)).foldl max 0
  ⟨.unionAll (items.reverse.map (·.chars)), if items.length < 2 then deepest else deepest + 1⟩

/-- What surrounds the items being read: an open bracket, or an operator and its left side. -/
inductive ClassFrame
  | bracket (outer : Items) (negated : Bool)
  | operator (op : SetOp) (left : NestedSet)

/-- Joins finished items with the operator that waits for them, if there is one. -/
def closeOperand (fl : Flags) (items : Items) : List ClassFrame → NestedSet × List ClassFrame
  | .operator op left :: frames =>
    let right := items.close
    (⟨op.apply fl left.chars right.chars, max left.depth right.depth + 1⟩, frames)
  | frames => (items.close, frames)

/-- A circumflex negates what comes after it. -/
def negation : List Char → Bool × List Char
  | '^' :: rest => (true, rest)
  | cs => (false, cs)

/-- Leading hyphens of a class stand for themselves. -/
def leadingHyphens (fl : Flags) : (fuel : Nat) → Items → List Char → Items × List Char
  | fuel + 1, items, '-' :: rest =>
    leadingHyphens fl fuel (⟨.single '-', 0⟩ :: items) (fl.skip rest)
  | _, items, cs => (items, cs)

/-- Reads what may come first in a class, after its bracket: the negation sign, hyphens, and a
closing bracket, which stands for itself when it would leave the class empty. -/
def openClass (fl : Flags) (cs : List Char) : Bool × Items × List Char :=
  let (negated, cs) := negation (fl.skip cs)
  let cs := fl.skip cs
  match leadingHyphens fl cs.length [] cs with
  | ([], ']' :: rest) => (negated, [⟨.single ']', 0⟩], fl.skip rest)
  | (items, rest) => (negated, items, rest)

/-- Reads a class name, after its opening bracket, and whether it is negated. -/
def posixName? : List Char → Option ((Bool × List Char) × List Char)
  | ':' :: cs =>
    let (negated, cs) := negation cs
    match cs.dropWhile (· != ':') with
    | ':' :: ']' :: rest => some ((negated, cs.takeWhile (· != ':')), rest)
    | _ => none
  | _ => none

/-- Reads a named class, after its opening bracket. -/
def posixClass? (fl : Flags) (cs : List Char) : Option (CharSet × List Char) := do
  let ((negated, name), rest) ← posixName? cs
  let chars ← posixSet? (String.ofList name)
  some (← foldAndNegate fl negated chars, rest)

/-- Reads one character or escape of a class. -/
def classAtom (fl : Flags) : List Char → Option (Atom × List Char)
  | [] => none
  | '\\' :: rest => escape fl rest
  | c :: rest => some (.char c, rest)

/-- A character of a class; without Unicode it is an ASCII one. -/
def classChar (fl : Flags) : Atom → Option Char
  | .char c => if fl.unicode || c.toNat < 128 then some c else none
  | _ => none

/-- What an item of a class stands for alone. -/
def atomSet? (fl : Flags) : Atom → Option CharSet
  | .set s => some s
  | atom => (classChar fl atom).map .single

/-- Reads the rest of an item that starts with the given character or escape: the end of a range or nothing. A hyphen
before another one, or before the end of the class, makes no range. -/
def rangeFrom? (fl : Flags) (first : Atom) (cs : List Char) : Option (CharSet × List Char) :=
  let alone : Option (CharSet × List Char) := (atomSet? fl first).map (·, fl.skip cs)
  match fl.skip cs with
  | '-' :: after =>
    match fl.skip after with
    | ']' :: _ | '-' :: _ => alone
    | after => do
      let (second, rest) ← classAtom fl after
      let lo ← classChar fl first
      let hi ← classChar fl second
      if lo ≤ hi then some (.range lo.toNat hi.toNat, rest) else none
  | _ => alone

/-- Reads an item of a class: a range, a character or a set. -/
def classItem (fl : Flags) (cs : List Char) : Option (CharSet × List Char) := do
  let (first, rest) ← classAtom fl cs
  rangeFrom? fl first rest

/-- Reads the rest of a class up to the bracket that closes it. Each round reads at least one
character, so the length of the text bounds the rounds. -/
def classRest (fl : Flags) : (fuel : Nat) → Items → List ClassFrame → List Char →
    Option (NestedSet × List Char)
  | 0, _, _, _ => none
  | fuel + 1, items, frames, cs =>
    match fl.skip cs with
    | [] => none
    | '[' :: rest =>
      match posixClass? fl rest with
      | some (chars, rest) => classRest fl fuel (⟨chars, 0⟩ :: items) frames rest
      | none =>
        let (negated, inner, rest) := openClass fl rest
        classRest fl fuel inner (.bracket items negated :: frames) rest
    | ']' :: rest =>
      match closeOperand fl items frames with
      | (whole, .bracket outer negated :: frames) => do
        let closed : NestedSet := ⟨← foldAndNegate fl negated whole.chars, whole.depth + 1⟩
        if frames.isEmpty then some (closed, rest)
        else classRest fl fuel (closed :: outer) frames rest
      | _ => none
    | cs =>
      match SetOp.read? cs with
      | some (op, rest) =>
        let (left, frames) := closeOperand fl items frames
        classRest fl fuel [] (.operator op left :: frames) rest
      | none => do
        let (chars, rest) ← classItem fl cs
        classRest fl fuel (⟨chars, 0⟩ :: items) frames rest

/-- Reads a bracketed class, after its opening bracket. -/
def readClass (fl : Flags) (cs : List Char) : Option (NestedSet × List Char) :=
  let (negated, items, rest) := openClass fl cs
  classRest fl (rest.length + 1) items [.bracket [] negated] rest

end TemporalTagger.Regex
