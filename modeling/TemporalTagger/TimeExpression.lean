/-
Time expressions: what tagging finds in a document.
-/
import TemporalTagger.Category
import TemporalTagger.Text.Bytes
import TemporalTagger.Text.Scan

namespace TemporalTagger

/-- A time expression: its span in the document, its kind, its normalized value, annotations, and
the name of the rule that found it. -/
structure TimeExpression where
  category : Category
  value : String
  span : Span
  quant : Option String := none
  freq : Option String := none
  modifier : Option String := none
  emptyValue : Option String := none
  rule : String
  deriving DecidableEq, Repr

namespace TimeExpression

/-- The text that the expression covers in its document; empty if its span is none of it. -/
def coveredText (e : TimeExpression) (document : String) : String :=
  (Text.slice? document e.span).getD ""

/-- Whether the value depends on no context any more. -/
def isResolved (e : TimeExpression) : Bool :=
  (Text.cutAt? "UNDEF".toList e.value.toList).isNone

end TimeExpression

end TemporalTagger
