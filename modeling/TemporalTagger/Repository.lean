/-
A repository of compiled rule sets: each set is compiled on first request and shared from then on.
-/
import TemporalTagger.Language.Bundled

namespace TemporalTagger

/-- What names a rule set: its language, and whether it has the temponym rules. -/
structure RuleSetKey where
  language : Language
  temponyms : Bool
  deriving DecidableEq, Repr

/-- The rule sets compiled so far. A set is known by its place in the list of all sets that were
ever compiled; two requests share a set exactly when they are given the same place. -/
structure Repository where
  sets : List (RuleSetKey × RuleSet)

namespace Repository

def empty : Repository := ⟨[]⟩

/-- The place and the set of a key. -/
def find? (r : Repository) (key : RuleSetKey) : Option (Nat × RuleSet) :=
  (r.sets.zipIdx.find? fun ((k, _), _) => k == key).map fun ((_, set), place) => (place, set)

/-- Whether the set of a key has been compiled. -/
def isCached (r : Repository) (key : RuleSetKey) : Bool := (r.find? key).isSome

/-- The set of a key with its place. A failed compilation leaves nothing behind. -/
def get (r : Repository) (key : RuleSetKey) :
    Except TaggerError ((Nat × RuleSet) × Repository) :=
  match r.find? key with
  | some found => .ok (found, r)
  | none => do
    let set ← key.language.ruleSet key.temponyms
    .ok ((r.sets.length, set), ⟨r.sets ++ [(key, set)]⟩)

end Repository

end TemporalTagger
