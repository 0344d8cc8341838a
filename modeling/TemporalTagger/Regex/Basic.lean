/-
Regular expressions with leftmost-first meaning: where two ways to match compete, the one written
first wins. Repetition counts are unfolded, so the only loops are `star` and `plus`.
-/
import TemporalTagger.Regex.CharSet

namespace TemporalTagger

namespace Regex

/-! ## Assertions -/

/-- Which kinds of edge between word characters and others an assertion asks for. -/
inductive WordEdge
  | either
  | neither
  | start
  | stop
  | startHalf
  | stopHalf
  deriving DecidableEq

/-- A condition on the characters beside a position. -/
inductive Look
  | textStart
  | textEnd
  | lineStart (crlf : Bool)
  | lineEnd (crlf : Bool)
  | edge (kind : WordEdge) (asciiOnly : Bool)
  deriving DecidableEq

namespace WordEdge

/-- The test on "a word character stands before" and "one stands after". -/
def holds : WordEdge → Bool → Bool → Bool
  | either, before, after => before != after
  | neither, before, after => before == after
  | start, before, after => !before && after
  | stop, before, after => before && !after
  | startHalf, before, _ => !before
  | stopHalf, _, after => !after

end WordEdge

namespace Look

/-- Whether a neighbouring character is there and a word character. -/
def isWordAt (asciiOnly : Bool) : Option Char → Bool
  | none => false
  | some c => if asciiOnly then c.isAlphanum || c == '_' else Unicode.isWord c

/-- Whether the condition holds between the two neighbours, which are missing at the ends of the
text. -/
def holds : Look → Option Char → Option Char → Bool
  | textStart, before, _ => before.isNone
  | textEnd, _, after => after.isNone
  | lineStart false, before, _ => before.isNone || before == some '\n'
  | lineStart true, before, after =>
    before.isNone || before == some '\n' || (before == some '\r' && after != some '\n')
  | lineEnd false, _, after => after.isNone || after == some '\n'
  | lineEnd true, before, after =>
    after.isNone || after == some '\r' || (after == some '\n' && before != some '\r')
  | edge kind asciiOnly, before, after =>
    kind.holds (isWordAt asciiOnly before) (isWordAt asciiOnly after)

end Look

end Regex

/-! ## Expressions -/

/-- A regular expression. The flag of a loop says whether it prefers another round. -/
inductive Regex
  | empty
  | set (s : Regex.CharSet)
  | look (l : Regex.Look)
  | cat (r s : Regex)
  | alt (r s : Regex)
  | star (r : Regex) (greedy : Bool)
  | plus (r : Regex) (greedy : Bool)
  | group (n : Nat) (r : Regex)

namespace Regex

/-- Whether the expression can match without reading a character. -/
def nullable : Regex → Bool
  | empty | look _ | star _ _ => true
  | set _ => false
  | cat r s => r.nullable && s.nullable
  | alt r s => r.nullable || s.nullable
  | plus r _ => r.nullable
  | group _ r => r.nullable

/-- The largest group number, 0 if there is no group. -/
def maxGroup : Regex → Nat
  | empty | set _ | look _ => 0
  | cat r s | alt r s => max r.maxGroup s.maxGroup
  | star r _ | plus r _ => r.maxGroup
  | group n r => max n r.maxGroup

/-! ## Derived forms -/

/-- Zero or one time. -/
def opt (r : Regex) (greedy : Bool) : Regex := if greedy then alt r empty else alt empty r

/-- One after another. -/
def catAll : List Regex → Regex
  | [] => empty
  | [r] => r
  | r :: rest => cat r (catAll rest)

/-- Any number of times. A body that can match nothing loops after its first round, so that an
empty round ends the loop. -/
def many (r : Regex) (greedy : Bool) : Regex :=
  if r.nullable then opt (plus r greedy) greedy else star r greedy

/-- At most `n` times, each round inside the one before it. -/
def upTo (r : Regex) (greedy : Bool) : Nat → Regex
  | 0 => empty
  | 1 => opt r greedy
  | n + 1 => opt (cat r (upTo r greedy n)) greedy

/-- Exactly `n` times. -/
def exactly (r : Regex) (n : Nat) : Regex := catAll (List.replicate n r)

/-- At least `n` times. -/
def atLeast (r : Regex) (greedy : Bool) : Nat → Regex
  | 0 => many r greedy
  | 1 => plus r greedy
  | n + 1 => cat (exactly r n) (plus r greedy)

/-- From `min` to `max` times, without bound if there is no `max`. -/
def repeated (r : Regex) (min : Nat) (max : Option Nat) (greedy : Bool) : Regex :=
  match max with
  | none => atLeast r greedy min
  | some max =>
    if min = max then exactly r min
    else if min = 0 then upTo r greedy max
    else cat (exactly r min) (upTo r greedy (max - min))

end Regex

end TemporalTagger
