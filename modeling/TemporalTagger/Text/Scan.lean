/-
Scanning a text from left to right for pieces of some form. A form is given by a recogniser, which
says what stands at the front of a text and how many characters it takes; what no piece covers
stays as single characters.
-/
import TemporalTagger.Text.Bytes

namespace TemporalTagger.Text

/-- A part of a scanned text. -/
inductive Piece (α : Type)
  | char (c : Char)
  | found (a : α)

/-- A recogniser of pieces at the front of a text: the piece and its length in characters. -/
abbrev Recogniser (α : Type) := List Char → Option (α × Nat)

/-- Scans a text of which the first `skip` characters belong to the piece before. -/
def scanFrom {α : Type} (recognise : Recogniser α) : (skip : Nat) → List Char → List (Piece α)
  | _, [] => []
  | skip + 1, _ :: rest => scanFrom recognise skip rest
  | 0, c :: rest =>
    match recognise (c :: rest) with
    | some (a, length) => .found a :: scanFrom recognise (length - 1) rest
    | none => .char c :: scanFrom recognise 0 rest

/-- The pieces of a text. -/
def scan {α : Type} (recognise : Recogniser α) (cs : List Char) : List (Piece α) :=
  scanFrom recognise 0 cs

/-- What was found, in order. -/
def found {α : Type} (pieces : List (Piece α)) : List α :=
  pieces.filterMap fun
    | .found a => some a
    | .char _ => none

/-- Writes pieces back, each finding by its replacement. -/
def render {α : Type} (replace : α → List Char) (pieces : List (Piece α)) : List Char :=
  pieces.flatMap fun
    | .found a => replace a
    | .char c => [c]

/-- What was found, each with its byte offset; `offset` is that of the first piece. -/
def placed (offset : Nat) : List (Piece (List Char)) → List (Nat × List Char)
  | [] => []
  | .char c :: rest => placed (offset + c.utf8Size) rest
  | .found cs :: rest => (offset, cs) :: placed (offset + byteLength cs) rest

/-- The text after a fixed beginning. -/
def after? (beginning cs : List Char) : Option (List Char) :=
  if beginning.isPrefixOf cs then some (cs.drop beginning.length) else none

/-- Cuts a text at the first occurrence of a separator, which is left out. -/
def cutAt? (sep : List Char) : List Char → Option (List Char × List Char)
  | [] => if sep.isEmpty then some ([], []) else none
  | c :: rest =>
    match after? sep (c :: rest) with
    | some after => some ([], after)
    | none => (cutAt? sep rest).map fun (a, b) => (c :: a, b)

end TemporalTagger.Text
