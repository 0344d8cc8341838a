/-
Matches and their groups, and the sequence of all matches in a text.
-/
import TemporalTagger.Regex.Reader
import TemporalTagger.Regex.Search
import TemporalTagger.Text.Bytes

namespace TemporalTagger

namespace Regex

/-- A match: the span of each group that took part. Group 0 is the whole match. -/
structure Match where
  groups : List (Option Span)

namespace Match

/-- The span of a group; none for a group that took no part or does not exist. -/
def group? (m : Match) (n : Nat) : Option Span := (m.groups[n]?).join

/-- The span of the whole match. -/
def span (m : Match) : Span := (m.group? 0).getD ⟨0, 0⟩

/-- The match that a trail records. -/
def ofTrail (groupCount : Nat) (trail : Trail) : Match :=
  ⟨(List.range groupCount).map fun n => do
    some ⟨← trail.lookup (2 * n), ← trail.lookup (2 * n + 1)⟩⟩

end Match

end Regex

/-- A regex ready to run: its text, the expression, the program and the number of groups. -/
structure Pattern where
  source : String
  regex : Regex
  program : Regex.Program
  groupCount : Nat

namespace Pattern

open Regex

/-- The pattern of an expression, which was written as `source`. -/
def ofRegex (source : String) (r : Regex) : Pattern := ⟨source, r, r.program, r.maxGroup + 1⟩

/-- Reads a pattern from text. -/
def ofText? (text : String) : Option Pattern := (Regex.read? text).map (ofRegex text)

/-- Reads a pattern that has to match a whole text. -/
def wholeText? (text : String) : Option Pattern := ofText? ("^(?:" ++ text ++ ")$")

/-- The leftmost match at or after a place. -/
def findFrom (p : Pattern) (place : Place) : Option Match :=
  (p.program.searchFrom place).map (Match.ofTrail p.groupCount)

/-- Whether the pattern matches somewhere in a text. -/
def occursIn (p : Pattern) (text : String) : Bool :=
  (p.program.searchFrom (Place.ofText text)).isSome

/-- The matches from a place on. Each search starts where the match before it ended; an empty match
at that very place is passed over for the next one. -/
def matchesFrom (p : Pattern) : (fuel : Nat) → Place → (last : Option Nat) → List Match
  | 0, _, _ => []
  | fuel + 1, place, last =>
    match p.findFrom place with
    | none => []
    | some m =>
      let goOn (m : Match) : List Match :=
        m :: p.matchesFrom fuel (place.advanceTo m.span.stop) (some m.span.stop)
      if m.span.start = m.span.stop ∧ some m.span.stop = last then
        match place.next?.bind p.findFrom with
        | none => []
        | some m => goOn m
      else goOn m

/-- All matches in a text, from left to right, without overlap. -/
def allMatches (p : Pattern) (text : String) : List Match :=
  p.matchesFrom (text.length + 1) (Place.ofText text) none

end Pattern

end TemporalTagger
