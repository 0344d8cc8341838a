/-
Sets of characters as expressions: ranges and named sets, closed under union, intersection,
complement and case folding. Membership is decided by recursion on the expression.
-/
import TemporalTagger.Unicode.Case
import TemporalTagger.Unicode.Names

namespace TemporalTagger.Regex

open Unicode

/-- A set of code points. -/
inductive CharSet
  | range (lo hi : Nat)
  | within (bounds : List Nat)
  | union (a b : CharSet)
  | inter (a b : CharSet)
  | compl (a : CharSet)
  | folded (a : CharSet)
  deriving DecidableEq

namespace CharSet

/-- Whether the set holds the code point `c`. -/
def mem : CharSet → Nat → Bool
  | range lo hi, c => lo ≤ c && c ≤ hi
  | within bounds, c => inside bounds c
  | union a b, c => a.mem c || b.mem c
  | inter a b, c => a.mem c && b.mem c
  | compl a, c => !a.mem c
  | folded a, c => a.mem c || (caseVariants c).any a.mem

/-- Whether the set holds the character `c`. -/
def holds (s : CharSet) (c : Char) : Bool := s.mem c.toNat

/-! ## Common sets -/

def empty : CharSet := within []
def all : CharSet := within [0]
def ascii : CharSet := range 0 0x7F
def digit : CharSet := within Categories.decimalNumber
def space : CharSet := within Properties.whiteSpace
def word : CharSet := within Properties.word

/-- The set of one character. -/
def single (c : Char) : CharSet := range c.toNat c.toNat

/-- The union of a list of sets. -/
def unionAll : List CharSet → CharSet
  | [] => empty
  | [a] => a
  | a :: rest => union a (unionAll rest)

/-- The characters of `a` that are not in `b`. -/
def diff (a b : CharSet) : CharSet := inter a (compl b)

/-- The characters of exactly one of the two sets. -/
def symmDiff (a b : CharSet) : CharSet := union (diff a b) (diff b a)

/-- The set that a Unicode name denotes. -/
def ofNamed : NamedSet → CharSet
  | .union sets => unionAll (sets.map within)
  | .less sets without => diff (unionAll (sets.map within)) (unionAll (without.map within))
  | .outside sets => compl (unionAll (sets.map within))

@[simp] theorem mem_range {lo hi c : Nat} : (range lo hi).mem c = (lo ≤ c && c ≤ hi) := rfl
@[simp] theorem mem_union {a b : CharSet} {c : Nat} :
    (union a b).mem c = (a.mem c || b.mem c) := rfl
@[simp] theorem mem_inter {a b : CharSet} {c : Nat} :
    (inter a b).mem c = (a.mem c && b.mem c) := rfl
@[simp] theorem mem_compl {a : CharSet} {c : Nat} : (compl a).mem c = !a.mem c := rfl
@[simp] theorem mem_empty {c : Nat} : empty.mem c = false := rfl
@[simp] theorem mem_all {c : Nat} : all.mem c = true := by simp [all, mem, inside]

theorem holds_single_iff {a c : Char} : (single a).holds c = true ↔ c = a := by
  simp only [holds, single, mem_range, Bool.and_eq_true, decide_eq_true_eq]
  constructor
  · intro h
    exact Char.toNat_inj.mp (by omega)
  · rintro rfl
    simp

theorem mem_unionAll {sets : List CharSet} {c : Nat} :
    (unionAll sets).mem c = sets.any (·.mem c) := by
  induction sets with
  | nil => rfl
  | cons a rest ih =>
    cases rest with
    | nil => simp [unionAll]
    | cons b rest =>
      rw [show unionAll (a :: b :: rest) = union a (unionAll (b :: rest)) from rfl, mem_union, ih]
      simp

/-! ## Comparison -/

/-- The code points at which membership can change. -/
def points : CharSet → List Nat
  | range lo hi => [lo, hi + 1]
  | within bounds => bounds
  | union a b | inter a b => a.points ++ b.points
  | compl a => a.points
  | folded a => a.points ++ casedCodes.flatMap fun c => [c, c + 1]

theorem mem_succ {s : CharSet} {c : Nat} (h : c + 1 ∉ s.points) : s.mem (c + 1) = s.mem c := by
  induction s with
  | range lo hi =>
    simp only [points, List.mem_cons, List.not_mem_nil, or_false, not_or] at h
    simp only [mem]
    grind
  | within bounds => exact inside_succ h
  | union a b iha ihb | inter a b iha ihb =>
    simp only [points, List.mem_append, not_or] at h
    simp only [mem, iha h.1, ihb h.2]
  | compl a ih => simp only [mem, ih h]
  | folded a ih =>
    simp only [points, List.mem_append, List.mem_flatMap, List.mem_cons, List.not_mem_nil, or_false,
      not_or, not_exists, not_and] at h
    have hs : c + 1 ∉ casedCodes := fun hc => (h.2 _ hc).1 rfl
    have hc : c ∉ casedCodes := fun hc => (h.2 _ hc).2 rfl
    simp only [mem, caseVariants_of_not_mem hs, caseVariants_of_not_mem hc, List.any_cons,
      List.any_nil, ih h.1]

/-- Whether two sets hold the same code points. -/
def alike (a b : CharSet) : Bool :=
  a = b || (0 :: (a.points ++ b.points)).all fun c => a.mem c == b.mem c

theorem mem_eq_of_alike {a b : CharSet} (h : a.alike b = true) (c : Nat) : a.mem c = b.mem c := by
  rw [alike, Bool.or_eq_true, decide_eq_true_eq, List.all_eq_true] at h
  rcases h with rfl | h
  · rfl
  · induction c with
    | zero => simpa using h 0 (List.mem_cons_self ..)
    | succ c ih =>
      by_cases hc : c + 1 ∈ a.points ++ b.points
      · simpa using h _ (List.mem_cons_of_mem _ hc)
      · rw [List.mem_append, not_or] at hc
        rw [mem_succ hc.1, mem_succ hc.2, ih]

instance : BEq CharSet := ⟨alike⟩

/-- The character of a set that holds just one. -/
def single? (s : CharSet) : Option Char :=
  match (0 :: s.points).find? s.mem with
  | none => none
  | some c =>
    if s.mem (c + 1) || s.points.any (fun d => d != c && s.mem d) then none
    else if c.isValidChar then some (Char.ofNat c)
    else none

end CharSet

end TemporalTagger.Regex
