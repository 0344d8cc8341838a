/-
Reading regular expressions from text. The reader keeps the group it is in and a stack of the
groups around it, and takes one sign a round. It refuses expressions that nest too deep or whose
counted repetitions unfold to more than the size limit.
-/
import TemporalTagger.Regex.ClassReader
import TemporalTagger.Regex.Form

namespace TemporalTagger.Regex

open Unicode (caseVariants)

/-! ## Limits -/

/-- The deepest nesting of groups, repetitions, sequences, alternatives and classes. -/
def maxDepth : Nat := 250

/-- The largest size of an unfolded expression. -/
def maxSize : Nat := 10 * 1024 * 1024

/-- The size of one step of an unfolded expression. -/
def stepSize : Nat := 32

/-- The size that a set adds: a step for each byte of a character in UTF-8, and for sets of a table
a step for each of its boundaries. -/
def CharSet.size : CharSet → Nat
  | .range _ hi =>
    stepSize * if hi < 0x80 then 1 else if hi < 0x800 then 2 else if hi < 0x10000 then 3 else 4
  | .within bounds => stepSize * (1 + bounds.length)
  | .union a b | .inter a b => a.size + b.size
  | .compl a => a.size + 4 * stepSize
  | .folded a => 2 * a.size

/-! ## The state of the reader -/

/-- A part that has been read. A directive changes flags and cannot be repeated. -/
structure Piece where
  form : Form
  depth : Nat
  size : Nat
  directive : Bool := false

/-- A group while it is read: the flags in force, the finished alternatives and the items of the
current one, the last of each first. -/
structure Level where
  flags : Flags
  branches : List Piece
  items : List Piece

/-- A group that waits for the one inside it: the level outside and the inner group's number. -/
structure Waiting where
  outer : Level
  number : Option Nat

structure ReaderState where
  level : Level
  stack : List Waiting
  groups : Nat
  names : List String

/-- A level of nesting is added from two parts on. -/
def joinDepth (parts : List Piece) : Nat :=
  let deepest := (parts.map (·.depth)).foldl max 0
  if parts.length < 2 then deepest else deepest + 1

/-- Items one after another. -/
def Piece.sequence (items : List Piece) : Piece :=
  ⟨.sequence (items.map (·.form)), joinDepth items, items.foldl (fun n p => n + p.size) 0, false⟩

/-- The alternatives of a level as one piece. -/
def Level.close (level : Level) : Piece :=
  let branches := (Piece.sequence level.items.reverse :: level.branches).reverse
  if branches.length < 2 then Piece.sequence level.items.reverse
  else ⟨.alternation (branches.map (·.form)), joinDepth branches,
    branches.foldl (fun n p => n + (p.size + stepSize)) 0, false⟩

def Level.push (level : Level) (piece : Piece) : Level :=
  { level with items := piece :: level.items }

def ReaderState.push (st : ReaderState) (piece : Piece) : ReaderState :=
  { st with level := st.level.push piece }

/-! ## Items -/

/-- A character under the flags. -/
def charPiece (fl : Flags) (c : Char) : Piece :=
  let variants : Option CharSet :=
    if !fl.ignoreCase || (caseVariants c.toNat).all (· == c.toNat) then none
    else if fl.unicode then some (.folded (.single c))
    else if c.toNat < 128 then some (.inter (.folded (.single c)) .ascii)
    else none
  match variants with
  | none => ⟨.literal [c], 0, (CharSet.single c).size, false⟩
  | some chars => ⟨.set chars, 0, chars.size, false⟩

/-- The dot: any character, or any but those that end lines. -/
def dotPiece (fl : Flags) : Option Piece :=
  if !fl.unicode then none
  else
    let chars : CharSet :=
      if fl.dotNewline then .all
      else if fl.crlf then .compl (.union (.single '\n') (.single '\r'))
      else .compl (.single '\n')
    some ⟨.set chars, 0, 32 * stepSize, false⟩

def lookPiece (l : Look) : Piece := ⟨.look l, 0, stepSize, false⟩

def atomPiece (fl : Flags) : Atom → Piece
  | .char c => charPiece fl c
  | .set s => ⟨.ofSet s, 0, s.size, false⟩
  | .look l => lookPiece l

/-! ## Repetition -/

/-- Reads a decimal number with blanks around it. -/
def decimal (fl : Flags) (cs : List Char) : Option Nat × List Char :=
  let cs := cs.dropWhile Unicode.isSpace
  let digits (c : Char) : Bool := c.isDigit || (fl.spaced && Unicode.isSpace c)
  let rest := (cs.dropWhile digits).dropWhile Unicode.isSpace
  let value := ((cs.takeWhile digits).filter Char.isDigit)
  if value.isEmpty then (none, rest)
  else (some (value.foldl (fun n c => 10 * n + (c.toNat - '0'.toNat)) 0), rest)

/-- Reads the bounds of a counted repetition, after its opening brace: a number, a number and a comma, or two
numbers. -/
def bounds? (fl : Flags) (cs : List Char) : Option ((Nat × Option Nat) × List Char) :=
  match decimal fl (fl.skip cs) with
  | (low, ',' :: rest) =>
    match fl.skip rest with
    | '\x7d' :: rest => low.map fun n => ((n, none), '\x7d' :: rest)
    | rest =>
      let (high, rest) := decimal fl rest
      do some ((← low, some (← high)), rest)
  | (low, rest) => low.map fun n => ((n, some n), rest)

/-- Reads a counted repetition up to its closing brace. -/
def counted (fl : Flags) (cs : List Char) : Option ((Nat × Option Nat) × List Char) := do
  match ← bounds? fl cs with
  | ((min, max), '\x7d' :: rest) =>
    if min < UInt32.size ∧ max.all (fun m => min ≤ m ∧ m < UInt32.size) then some ((min, max), fl.skip rest)
    else none
  | _ => none

/-! ## Groups -/

/-- One letter of a flag group. -/
inductive FlagMark
  | minus
  | flag (letter : Char)
  deriving DecidableEq

/-- Reads flag letters up to a colon or closing bracket. No mark comes twice, and a minus sign is
not the last one. -/
def flagMarks : (seen : List FlagMark) → List Char → Option (List FlagMark × Char × List Char)
  | _, [] => none
  | seen, c :: rest =>
    if c = ':' || c = ')' then
      if seen.head? = some .minus then none else some (seen.reverse, c, rest)
    else
      let mark : FlagMark := if c = '-' then .minus else .flag c
      if mark ∈ seen then none
      else if c ∈ ['-', 'i', 'm', 's', 'U', 'u', 'R', 'x'] then flagMarks (mark :: seen) rest
      else none

/-- Switches one flag. -/
def Flags.set (fl : Flags) (letter : Char) (on : Bool) : Flags :=
  match letter with
  | 'i' => { fl with ignoreCase := on }
  | 'm' => { fl with multiLine := on }
  | 's' => { fl with dotNewline := on }
  | 'U' => { fl with swapGreed := on }
  | 'u' => { fl with unicode := on }
  | 'R' => { fl with crlf := on }
  | 'x' => { fl with spaced := on }
  | _ => fl

/-- Applies flag marks; those after a minus sign are switched off. -/
def Flags.apply (fl : Flags) : (on : Bool) → List FlagMark → Flags
  | _, [] => fl
  | _, .minus :: rest => fl.apply false rest
  | on, .flag c :: rest => (fl.set c on).apply on rest

/-- Whether a text can name a group. -/
def isGroupName : List Char → Bool
  | [] => false
  | first :: others =>
    (first = '_' || Unicode.isAlphabetic first) && others.all fun c =>
      c = '_' || c = '.' || c = '[' || c = ']' || Unicode.isAlphabetic c || Unicode.isNumeric c

/-- Reads a group name up to its closing angle bracket. -/
def groupName (cs : List Char) : Option (String × List Char) :=
  match cs.dropWhile (· != '>') with
  | [] => none
  | _ :: rest =>
    let name := cs.takeWhile (· != '>')
    if isGroupName name then some (String.ofList name, rest) else none

/-! ## Signs -/

/-- What the text says next: a part to read, a bar, a repetition of the last part, the start of a group, a directive
that switches flags, or the end of a group. -/
inductive Sign
  | part (piece : Piece)
  | bar
  | repetition (min : Nat) (max : Option Nat) (greedy : Bool)
  | plainGroup (flags : Flags)
  | capture (name : Option String)
  | switch (flags : Flags)
  | stop

/-- Reads the name of a capture and the bracket after it. -/
def namedCapture? (cs : List Char) : Option (Sign × List Char) :=
  (groupName cs).map fun (name, rest) => (.capture (some name), rest)

/-- Reads the flags of a plain group or a directive. -/
def flagGroup? (fl : Flags) (cs : List Char) : Option (Sign × List Char) := do
  let (marks, stop, rest) ← flagMarks [] cs
  if stop = ':' then some (.plainGroup (fl.apply true marks), rest)
  else if marks.isEmpty then none
  else some (.switch (fl.apply true marks), rest)

/-- Reads the start of a group, after its question mark. There is no looking behind. -/
def special? (fl : Flags) : List Char → Option (Sign × List Char)
  | 'P' :: '<' :: rest => namedCapture? rest
  | '<' :: '=' :: _ | '<' :: '!' :: _ => none
  | '<' :: rest => namedCapture? rest
  | cs => flagGroup? fl cs

/-- Reads the start of a group, after its opening bracket: a capture, a named capture, a plain
group or a flag directive. -/
def opening? (fl : Flags) (cs : List Char) : Option (Sign × List Char) :=
  match fl.skip cs with
  | '?' :: rest => special? fl rest
  | rest => some (.capture none, rest)

/-- A repetition, which a question mark after it asks to make as few rounds as possible. -/
def repetition (min : Nat) (max : Option Nat) : List Char → Sign × List Char
  | '?' :: rest => (.repetition min max false, rest)
  | rest => (.repetition min max true, rest)

/-- Reads one sign. -/
def sign? (fl : Flags) : List Char → Option (Sign × List Char)
  | [] => none
  | '(' :: rest => opening? fl rest
  | ')' :: rest => some (.stop, rest)
  | '|' :: rest => some (.bar, rest)
  | '[' :: rest =>
    (readClass fl rest).map fun (s, rest) => (.part ⟨.ofSet s.chars, s.depth, s.chars.size, false⟩, rest)
  | '?' :: rest => some (repetition 0 (some 1) rest)
  | '*' :: rest => some (repetition 0 none rest)
  | '+' :: rest => some (repetition 1 none rest)
  | '\x7b' :: rest => (counted fl rest).map fun ((min, max), rest) => repetition min max rest
  | '\\' :: rest => (escape fl rest).map fun (atom, rest) => (.part (atomPiece fl atom), rest)
  | '.' :: rest => (dotPiece fl).map fun piece => (.part piece, rest)
  | '^' :: rest => some (.part (lookPiece (if fl.multiLine then .lineStart fl.crlf else .textStart)), rest)
  | '$' :: rest => some (.part (lookPiece (if fl.multiLine then .lineEnd fl.crlf else .textEnd)), rest)
  | c :: rest => some (.part (charPiece fl c), rest)

/-! ## What signs do -/

/-- A piece repeated, if it can be and is not too large then. -/
def Piece.repeated? (piece : Piece) (min : Nat) (max : Option Nat) (greedy : Bool) : Option Piece :=
  if piece.directive then none
  else
    let rounds := if piece.form.widthless then 1 else max.getD (Nat.max min 1)
    let size := rounds * piece.size + (rounds - min + 1) * stepSize
    if size > maxSize then none
    else some ⟨piece.form.repeated min max greedy, piece.depth + 1, size, false⟩

namespace ReaderState

/-- Repeats the last item. -/
def repeatLast (st : ReaderState) (min : Nat) (max : Option Nat) (greedy : Bool) :
    Option ReaderState :=
  match st.level.items with
  | [] => none
  | piece :: items =>
    (piece.repeated? min max (greedy != st.level.flags.swapGreed)).map fun repeated =>
      { st with level := { st.level with items := repeated :: items } }

/-- Opens a group with the given flags. -/
def openGroup (st : ReaderState) (flags : Flags) (number : Option Nat) : ReaderState :=
  { st with level := ⟨flags, [], []⟩, stack := ⟨st.level, number⟩ :: st.stack }

/-- Opens a group that captures. No two have the same name. -/
def openCapture (st : ReaderState) (name : Option String) : Option ReaderState :=
  if name.any (· ∈ st.names) then none
  else
    let number := st.groups + 1
    some { st.openGroup st.level.flags (some number) with
      groups := number, names := name.toList ++ st.names }

/-- Closes the innermost group. -/
def closeGroup (st : ReaderState) : Option ReaderState :=
  match st.stack with
  | [] => none
  | waiting :: stack =>
    let inner := st.level.close
    let piece : Piece :=
      match waiting.number with
      | some n => ⟨.group n inner.form, inner.depth + 1, inner.size + 2 * stepSize, false⟩
      | none => { inner with depth := inner.depth + 1, directive := false }
    some { st with level := waiting.outer.push piece, stack := stack }

/-- Takes up a sign. -/
def take (st : ReaderState) : Sign → Option ReaderState
  | .part piece => some (st.push piece)
  | .bar =>
    let branch := Piece.sequence st.level.items.reverse
    some { st with level := ⟨st.level.flags, branch :: st.level.branches, []⟩ }
  | .repetition min max greedy => st.repeatLast min max greedy
  | .plainGroup flags => some (st.openGroup flags none)
  | .capture name => st.openCapture name
  | .switch flags =>
    let level : Level := { st.level with flags := flags }
    some { st with level := level.push ⟨.empty, 0, 0, true⟩ }
  | .stop => st.closeGroup

end ReaderState

/-! ## The reader -/

/-- Reads to the end of the text. Each round reads at least one character, so the length of the
text bounds the rounds. -/
def readAll : (fuel : Nat) → ReaderState → List Char → Option ReaderState
  | 0, st, _ => some st
  | fuel + 1, st, cs =>
    match st.level.flags.skip cs with
    | [] => some st
    | cs => do
      let (sign, rest) ← sign? st.level.flags cs
      readAll fuel (← st.take sign) rest

/-- Nothing read yet. -/
def ReaderState.start : ReaderState := ⟨⟨{}, [], []⟩, [], 0, []⟩

/-- A whole text as one piece, if all groups are closed in it. -/
def whole? (cs : List Char) : Option Piece := do
  let st ← readAll cs.length .start cs
  if st.stack.isEmpty then some st.level.close else none

/-- The regex that a text denotes, if it denotes one. -/
def read? (text : String) : Option Regex := do
  let whole ← whole? text.toList
  if whole.depth ≤ maxDepth && whole.size ≤ maxSize then some whole.form.unfold else none

end TemporalTagger.Regex
