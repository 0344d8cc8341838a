/-
Cutting plain text: sentences into words and symbols, documents into sentences. A word is a run of
word characters, which apostrophes may join; every other visible character is a token of its own.
A sentence runs up to the next full stops, exclamation marks and question marks.
-/
import TemporalTagger.Sentence.Basic
import TemporalTagger.Text.Lines
import TemporalTagger.Text.Scan

namespace TemporalTagger.Sentence

open Unicode Text

/-! ## Tokens -/

def isApostrophe (c : Char) : Bool := c = '\'' || c = '’'

/-- How a word goes on: with word characters, and with an apostrophe before a word character. -/
def wordRest : List Char → List Char
  | [] => []
  | c :: rest =>
    if isWord c then c :: wordRest rest
    else if isApostrophe c && (rest.head?.any isWord) then c :: wordRest rest
    else []

/-- The token at the front of a text. -/
def token? : List Char → Option (List Char)
  | [] => none
  | c :: rest =>
    if isWord c then some (c :: wordRest rest)
    else if isSpace c then none
    else some [c]

/-- The spans of the tokens of a text; `start` is the offset of its first byte. -/
def tokenSpans (start : Nat) (cs : List Char) : List Span :=
  let pieces := scan (fun cs => (token? cs).map fun t => (t, t.length)) cs
  (placed start pieces).map fun (offset, t) => ⟨offset, offset + byteLength t⟩

/-- A sentence cut into tokens without tags. -/
def tokenize (text : String) (start : Nat) : Sentence :=
  ofTokens text start ((tokenSpans start text.toList).map (⟨·, none⟩))

/-! ## Sentences -/

/-- The characters that end a sentence. -/
def isTerminal (c : Char) : Bool := c = '.' || c = '!' || c = '?'

/-- The sentence at the front of a text, with the terminals that end it and what blanks stand
before the end of the text. -/
def segment? : List Char → Option (List Char)
  | [] => none
  | c :: rest =>
    if isTerminal c || isSpace c then none
    else
      let body := rest.takeWhile (!isTerminal ·)
      let ending := (rest.dropWhile (!isTerminal ·)).takeWhile isTerminal
      some (c :: body ++ ending)

/-- The sentences of a document, each cut into tokens. -/
def split (document : String) : List Sentence :=
  let pieces := scan (fun cs => (segment? cs).map fun s => (s, s.length)) document.toList
  (placed 0 pieces).map fun (offset, s) => tokenize (String.ofList (trimEnd s)) offset

end TemporalTagger.Sentence
