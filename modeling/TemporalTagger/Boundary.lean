/-
Whether a match stands free in its sentence: not glued to neighbouring text, and with both ends on
token boundaries. Spans are relative to the sentence text; they may be reversed, reach past the
end or cut a character.
-/
import TemporalTagger.Sentence.Basic

namespace TemporalTagger.Boundary

open Unicode

/-! ## Glued text -/

/-- Whether text binds what follows it: it ends in a word character, in a digit with a full stop,
or in a currency or plus sign with any whitespace after it. The text is given reversed. -/
def bindsAfter (reversed : List Char) : Bool :=
  match reversed with
  | [] => false
  | c :: rest =>
    isWord c || (c = '.' && rest.head?.any isDigit) ||
      match reversed.dropWhile isSpace with
      | sign :: _ => sign = '$' || sign = '+'
      | [] => false

/-- Whether text binds what comes before it: it starts with a word character or a degree sign, or
with a full stop or comma and a digit. -/
def bindsBefore (after : String) : Bool :=
  match after.front? with
  | none => false
  | some c =>
    c = '°' || isWord c || ((c = '.' || c = ',') && (after.drop 1).front?.any isDigit)

/-- Whether neither side of a span binds it. A side that cannot be cut out counts as empty. -/
def standsFree (text : String) (span : Span) : Bool :=
  let before := (Text.upTo? text span.start).getD ""
  let after := (Text.from? text span.stop).getD ""
  !bindsAfter before.toList.reverse && !bindsBefore after

/-! ## Token boundaries -/

/-- Whether a side is open: nothing or whitespace comes next. -/
def isOpen (neighbour : Option Char) : Bool := neighbour.all isSpace

/-- Whether both ends of a span lie on token boundaries. A span as long as the sentence always
passes, and so does one between whitespace or sentence edges. Else the start has to be that of a
token or come after punctuation, and the end has to be that of a token or come before
punctuation. -/
def onTokens (s : Sentence) (span : Span) : Bool :=
  if span.stop - span.start = s.size then true
  else
    match Text.upTo? s.text span.start, Text.from? s.text span.stop with
    | some before, some after =>
      let previous := before.back?
      let next := after.front?
      if isOpen previous && isOpen next then true
      else if s.tokens.isEmpty then false
      else
        let placed := s.inDocument span
        (previous.any isPunctuation || s.tokens.any (·.span.start == placed.start)) &&
          (next.any isPunctuation || s.tokens.any (·.span.stop == placed.stop))
    | _, _ => false

/-- Whether a span passes both tests. -/
def accepts (s : Sentence) (span : Span) : Bool := standsFree s.text span && onTokens s span

end TemporalTagger.Boundary
