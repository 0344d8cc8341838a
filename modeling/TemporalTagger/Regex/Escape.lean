/-
Backslash escapes and named classes: what may follow a backslash, inside a character class and
outside. Each reader takes the text after the part already recognised and gives back the rest.
-/
import TemporalTagger.Regex.Basic
import TemporalTagger.Text.Scan

namespace TemporalTagger.Regex

open Text (cutAt?)

/-! ## Flags -/

/-- The flags in force at a place of a regex. -/
structure Flags where
  ignoreCase : Bool := false
  multiLine : Bool := false
  dotNewline : Bool := false
  swapGreed : Bool := false
  unicode : Bool := true
  crlf : Bool := false
  spaced : Bool := false

namespace Flags

/-- Drops blanks and comments, which run from `#` to the end of the line. -/
def dropBlank : (inComment : Bool) → List Char → List Char
  | _, [] => []
  | true, c :: rest => dropBlank (c != '\n') rest
  | false, c :: rest =>
    if Unicode.isSpace c then dropBlank false rest
    else if c = '#' then dropBlank true rest
    else c :: rest

/-- The text at the next place that counts: where blanks are free, they are dropped. -/
def skip (fl : Flags) (cs : List Char) : List Char := if fl.spaced then dropBlank false cs else cs

end Flags

/-! ## Atoms -/

/-- What a single escape or character stands for. -/
inductive Atom
  | char (c : Char)
  | set (s : CharSet)
  | look (l : Look)

/-- The set under the flags: it grows by case variants where case is ignored, and is then
complemented if `negated`. Without Unicode a set stays within ASCII and has no complement. -/
def foldAndNegate (fl : Flags) (negated : Bool) (s : CharSet) : Option CharSet :=
  let grown := if fl.ignoreCase then .folded s else s
  if fl.unicode then some (if negated then .compl grown else grown)
  else if negated then none
  else some (.inter grown .ascii)

/-- Digits, whitespace or word characters, by the letter of their escape. -/
def perlSet (fl : Flags) (letter : Char) : Option CharSet :=
  let lower := letter.toLower
  let set : CharSet :=
    if lower = 'd' then .digit else if lower = 's' then .space else .word
  let set := if fl.unicode then set else .inter set .ascii
  if letter = lower then some set
  else if fl.unicode then some (.compl set)
  else none

/-- The classes with a name between `[:` and `:]`; they hold ASCII characters alone. -/
def posixSet? (name : String) : Option CharSet :=
  let lower : CharSet := .range 0x61 0x7A
  let upper : CharSet := .range 0x41 0x5A
  let digit : CharSet := .range 0x30 0x39
  match name with
  | "alnum" => some (.unionAll [digit, upper, lower])
  | "alpha" => some (.union upper lower)
  | "ascii" => some .ascii
  | "blank" => some (.union (.single '\t') (.single ' '))
  | "cntrl" => some (.union (.range 0 0x1F) (.single '\x7F'))
  | "digit" => some digit
  | "graph" => some (.range 0x21 0x7E)
  | "lower" => some lower
  | "print" => some (.range 0x20 0x7E)
  | "punct" =>
    some (.unionAll [.range 0x21 0x2F, .range 0x3A 0x40, .range 0x5B 0x60, .range 0x7B 0x7E])
  | "space" => some (.union (.range 0x09 0x0D) (.single ' '))
  | "upper" => some upper
  | "word" => some (.unionAll [digit, upper, .single '_', lower])
  | "xdigit" => some (.unionAll [digit, .range 0x41 0x46, .range 0x61 0x66])
  | _ => none

/-! ## Code points -/

def hexValue? (c : Char) : Option Nat :=
  if '0' ≤ c ∧ c ≤ '9' then some (c.toNat - 0x30)
  else if 'a' ≤ c ∧ c ≤ 'f' then some (c.toNat - 0x57)
  else if 'A' ≤ c ∧ c ≤ 'F' then some (c.toNat - 0x37)
  else none

/-- The character with a given code, if the code is one. -/
def charOfCode? (n : Nat) : Option Char := if n.isValidChar then some (Char.ofNat n) else none

/-- Reads a fixed number of hexadecimal digits. -/
def hexDigits (fl : Flags) : (count value : Nat) → List Char → Option (Nat × List Char)
  | 0, value, cs => some (value, cs)
  | n + 1, value, c :: rest => do
    let d ← hexValue? c
    hexDigits fl n (16 * value + d) (fl.skip rest)
  | _ + 1, _, [] => none

/-- Reads hexadecimal digits up to a closing brace; there must be one at least. -/
def hexBraced (fl : Flags) : (fuel value : Nat) → (some? : Bool) → List Char →
    Option (Nat × List Char)
  | 0, _, _, _ => none
  | _ + 1, _, _, [] => none
  | fuel + 1, value, seen, c :: rest =>
    if c = '\x7d' then if seen then some (value, fl.skip rest) else none
    else do
      let d ← hexValue? c
      hexBraced fl fuel (16 * value + d) true (fl.skip rest)

/-- Reads the code of a character, after the letter `x`, `u` or `U`: in braces, or with the number of digits that the
letter asks for. -/
def codeValue? (fl : Flags) (letter : Char) (cs : List Char) : Option (Nat × List Char) :=
  match fl.skip cs with
  | '\x7b' :: rest => hexBraced fl (rest.length + 1) 0 false (fl.skip rest)
  | cs =>
    let count := if letter = 'x' then 2 else if letter = 'u' then 4 else 8
    -- without Unicode a two-digit code is a byte, and a byte above ASCII is no character
    (hexDigits fl count 0 cs).filter fun (value, _) => !(letter = 'x' && !fl.unicode && value > 0x7F)

/-- Reads a character written by its code, after the letter `x`, `u` or `U`. -/
def codeEscape (fl : Flags) (letter : Char) (cs : List Char) : Option (Atom × List Char) := do
  let (value, rest) ← codeValue? fl letter cs
  some (.char (← charOfCode? value), rest)

/-! ## Classes by property -/

/-- The set written between the braces of a property class, and whether it is negated there. -/
def propertySet? (name : List Char) : Option (CharSet × Bool) :=
  let value (property value : List Char) : Option CharSet :=
    (Unicode.namedValue? (String.ofList property) (String.ofList value)).map .ofNamed
  match cutAt? ['!', '='] name with
  | some (p, v) => (value p v).map (·, true)
  | none =>
    match cutAt? [':'] name with
    | some (p, v) => (value p v).map (·, false)
    | none =>
      match cutAt? ['='] name with
      | some (p, v) => (value p v).map (·, false)
      | none => (Unicode.namedSet? (String.ofList name)).map fun s => (.ofNamed s, false)

/-- Reads a property name up to its closing brace. -/
def propertyName (fl : Flags) : (fuel : Nat) → List Char → Option (List Char × List Char)
  | 0, _ => none
  | _ + 1, [] => none
  | fuel + 1, c :: rest =>
    if c = '\x7d' then some ([], rest)
    else (propertyName fl fuel (fl.skip rest)).map fun (name, rest) => (c :: name, rest)

/-- Reads the name of a property, after the letter `p` or `P`: in braces, or a single letter. -/
def propertyText (fl : Flags) (cs : List Char) : Option (List Char × List Char) :=
  match fl.skip cs with
  | '\x7b' :: rest => propertyName fl (rest.length + 1) (fl.skip rest)
  | '\\' :: _ => none
  | c :: rest => some ([c], fl.skip rest)
  | [] => none

/-- Reads a class by property, after the letter `p` or `P`. -/
def propertyEscape (fl : Flags) (letter : Char) (cs : List Char) : Option (Atom × List Char) := do
  let (name, rest) ← propertyText fl cs
  if !fl.unicode then none
  else
    let (chars, inverted) ← propertySet? name
    some (.set (← foldAndNegate fl ((letter = 'P') != inverted) chars), rest)

/-! ## Escapes -/

/-- The characters with a meaning of their own somewhere in a regex. -/
def isMeta (c : Char) : Bool :=
  c ∈ ['\\', '.', '+', '*', '?', '(', ')', '|', '[', ']', '\x7b', '\x7d', '^', '$', '#', '&',
    '-', '~']

/-- Whether a backslash before the character leaves it as it is. -/
def isEscapable (c : Char) : Bool :=
  isMeta c || (c.toNat < 128 && !c.isAlphanum && c != '<' && c != '>')

/-- A character of the names of word edges. -/
def isEdgeChar (c : Char) : Bool := c.isAlpha || c = '-'

/-- The word edge with a given name. -/
def WordEdge.named? (name : List Char) : Option WordEdge :=
  match String.ofList name with
  | "start" => some .start
  | "end" => some .stop
  | "start-half" => some .startHalf
  | "end-half" => some .stopHalf
  | _ => none

/-- Reads the name of a special word edge after an opening brace. When no name starts there, the
brace belongs to a repetition and nothing is read. -/
def edgeName (fl : Flags) (cs : List Char) : Option (Option WordEdge × List Char) :=
  match fl.skip cs with
  | [] => none
  | c :: rest =>
    if !isEdgeChar c then some (none, '\x7b' :: cs)
    else
      let letters (c : Char) : Bool := isEdgeChar c || (fl.spaced && Unicode.isSpace c)
      match (c :: rest).dropWhile letters with
      | '\x7d' :: after =>
        (WordEdge.named? (((c :: rest).takeWhile letters).filter isEdgeChar)).map fun e => (some e, after)
      | _ => none

/-- An assertion about a word edge, under the flags. -/
def edgeAtom (fl : Flags) (kind : WordEdge) : Atom := .look (.edge kind (!fl.unicode))

/-- What a character alone stands for after a backslash. -/
def letterEscape? (fl : Flags) (c : Char) : Option Atom :=
  if c.toLower = 'd' || c.toLower = 's' || c.toLower = 'w' then (perlSet fl c).map .set
  else if isEscapable c then some (.char c)
  else
    match c with
    | 'a' => some (.char '\x07')
    | 'f' => some (.char '\x0C')
    | 't' => some (.char '\t')
    | 'n' => some (.char '\n')
    | 'r' => some (.char '\r')
    | 'v' => some (.char '\x0B')
    | 'A' => some (.look .textStart)
    | 'z' => some (.look .textEnd)
    | 'B' => some (edgeAtom fl .neither)
    | '<' => some (edgeAtom fl .start)
    | '>' => some (edgeAtom fl .stop)
    | _ => none

/-- Reads an assertion about a word edge, after the letter `b`. -/
def edgeEscape (fl : Flags) : List Char → Option (Atom × List Char)
  | '\x7b' :: inner => (edgeName fl inner).map fun (e, rest) => (edgeAtom fl (e.getD .either), rest)
  | cs => some (edgeAtom fl .either, cs)

/-- Reads an escape, after its backslash. -/
def escape (fl : Flags) : List Char → Option (Atom × List Char)
  | [] => none
  | c :: rest =>
    if c.isDigit then none
    else if c = 'x' || c = 'u' || c = 'U' then codeEscape fl c rest
    else if c = 'p' || c = 'P' then propertyEscape fl c rest
    else if c = 'b' then edgeEscape fl rest
    else (letterEscape? fl c).map (·, rest)

end TemporalTagger.Regex
