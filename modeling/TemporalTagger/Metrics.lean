/-
Counters of a run of tagging, by category.
-/
import TemporalTagger.Category

namespace TemporalTagger

/-- What the rules of one category did. Every match ends up in one of the last four counters. -/
structure CategoryMetrics where
  category : Category
  rulesConsidered : Nat := 0
  fastRejected : Nat := 0
  candidates : Nat := 0
  rejectedBoundary : Nat := 0
  rejectedPos : Nat := 0
  rejectedOffset : Nat := 0
  emitted : Nat := 0
  deriving DecidableEq, Repr

namespace CategoryMetrics

/-- Adds the counters of another run. -/
def add (a b : CategoryMetrics) : CategoryMetrics :=
  { category := a.category
    rulesConsidered := a.rulesConsidered + b.rulesConsidered
    fastRejected := a.fastRejected + b.fastRejected
    candidates := a.candidates + b.candidates
    rejectedBoundary := a.rejectedBoundary + b.rejectedBoundary
    rejectedPos := a.rejectedPos + b.rejectedPos
    rejectedOffset := a.rejectedOffset + b.rejectedOffset
    emitted := a.emitted + b.emitted }

/-- Adds counters to those listed for their category; a category that is not listed yet comes last. -/
def absorb (m : CategoryMetrics) : List CategoryMetrics → List CategoryMetrics
  | [] => [m]
  | x :: rest => if x.category = m.category then x.add m :: rest else x :: absorb m rest

end CategoryMetrics

/-- The counters of a run: those of the categories that ran, by priority, and the number of
expressions dropped because another covered them. -/
structure RunMetrics where
  sentences : Nat := 0
  categories : List CategoryMetrics := []
  subsumed : Nat := 0
  deriving DecidableEq, Repr

namespace RunMetrics

/-- The expressions found before any were dropped. -/
def emitted (m : RunMetrics) : Nat := m.categories.foldl (fun n c => n + c.emitted) 0

/-- The counters of two runs together; a category is listed if it ran in either. -/
def merge (a b : RunMetrics) : RunMetrics :=
  { sentences := a.sentences + b.sentences
    categories := (b.categories.foldl (fun ms m => m.absorb ms) a.categories).mergeSort
      fun x y => x.category.rank ≤ y.category.rank
    subsumed := a.subsumed + b.subsumed }

end RunMetrics

end TemporalTagger
