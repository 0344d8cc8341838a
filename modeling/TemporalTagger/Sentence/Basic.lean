/-
Sentences with their tokens. All offsets are byte offsets in the document that the sentence was
cut from.
-/
import TemporalTagger.Text.Bytes

namespace TemporalTagger

/-- A token: its span and its part-of-speech tag, if it was tagged. -/
structure Token where
  span : Span
  tag : Option String
  deriving DecidableEq, Repr

namespace Token

/-- Tokens stand by their start, and by their end where they start together. -/
def before (a b : Token) : Bool :=
  a.span.start < b.span.start || (a.span.start == b.span.start && a.span.stop ≤ b.span.stop)

end Token

/-- A sentence: its text, the offset of its first byte and its tokens. -/
structure Sentence where
  text : String
  start : Nat
  tokens : List Token
  deriving Repr

namespace Sentence

/-- A sentence with tokens given in any order. -/
def ofTokens (text : String) (start : Nat) (tokens : List Token) : Sentence :=
  ⟨text, start, tokens.mergeSort Token.before⟩

/-- The length in bytes. -/
def size (s : Sentence) : Nat := s.text.utf8ByteSize

/-- The offset after the last byte. -/
def stop (s : Sentence) : Nat := s.start + s.size

def isEmpty (s : Sentence) : Bool := s.text.isEmpty

/-- A span of the sentence text as a span of the document. -/
def inDocument (s : Sentence) (span : Span) : Span := ⟨s.start + span.start, s.start + span.stop⟩

/-- The text that a span of the document covers in the sentence; empty if it covers none. -/
def textAt (s : Sentence) (span : Span) : String :=
  if s.start ≤ span.start ∧ s.start ≤ span.stop then
    (Text.slice? s.text ⟨span.start - s.start, span.stop - s.start⟩).getD ""
  else ""

/-- The text of a token. -/
def tokenText (s : Sentence) (t : Token) : String := s.textAt t.span

/-- The first token that starts at an offset. -/
def tokenAt? (s : Sentence) (offset : Nat) : Option Token :=
  s.tokens.find? (·.span.start == offset)

/-- Whether a span lies within the sentence. -/
def containsSpan (s : Sentence) (span : Span) : Bool :=
  s.start ≤ span.start && span.stop ≤ s.stop

end Sentence

end TemporalTagger
