/-
The content lines of a resource: trimmed lines with their numbers, without blank lines and
comments.
-/
import TemporalTagger.Unicode.Classes

namespace TemporalTagger.Text

open Unicode

/-! ## Trimming -/

/-- Drops whitespace at the start. -/
def trimStart (cs : List Char) : List Char := cs.dropWhile isSpace

/-- Drops whitespace at the end. -/
def trimEnd (cs : List Char) : List Char := (cs.reverse.dropWhile isSpace).reverse

/-- Drops whitespace at both ends. -/
def trimChars (cs : List Char) : List Char := trimEnd (trimStart cs)

/-- Drops whitespace at both ends of a text. -/
def trim (s : String) : String := String.ofList (trimChars s.toList)

/-! ## Lines -/

/-- The lines of a text, without their newlines. -/
def splitLines : List Char → List (List Char)
  | [] => [[]]
  | c :: cs =>
    match splitLines cs with
    | [] => [[c]]
    | line :: rest => if c = '\n' then [] :: line :: rest else (c :: line) :: rest

/-- Whether a trimmed line says something: it is not blank and not a comment. -/
def isContent (line : List Char) : Bool := !line.isEmpty && !(['/', '/'].isPrefixOf line)

/-- The content lines with their numbers, the first line of the text being line 1. -/
def contentLines (text : String) : List (Nat × List Char) :=
  let trimmed := (splitLines text.toList).map trimChars
  ((List.range' 1 trimmed.length).zip trimmed).filter fun (_, line) => isContent line

end TemporalTagger.Text
