/-
Sets of code points, written as the increasing list of their boundaries. The code points from the
first boundary up to the second belong to the set, those from the second up to the third do not,
and so on.
-/

namespace TemporalTagger.Unicode

/-- Membership in the set with the given boundaries. -/
def inside : List Nat → Nat → Bool
  | [], _ => false
  | [lo], c => lo ≤ c
  | lo :: hi :: rest, c => if c < lo then false else if c < hi then true else inside rest c

@[simp] theorem inside_nil (c : Nat) : inside [] c = false := rfl

theorem inside_of_lt {lo c : Nat} {rest : List Nat} (h : c < lo) :
    inside (lo :: rest) c = false := by
  cases rest with
  | nil => simp [inside, h]
  | cons hi rest => simp [inside, h]

theorem inside_pair {lo hi c : Nat} {rest : List Nat} (h₁ : lo ≤ c) (h₂ : c < hi) :
    inside (lo :: hi :: rest) c = true := by
  simp [inside, Nat.not_lt.mpr h₁, h₂]

/-- Membership changes at boundaries alone. -/
theorem inside_succ {bounds : List Nat} {c : Nat} (h : c + 1 ∉ bounds) :
    inside bounds (c + 1) = inside bounds c := by
  fun_induction inside bounds c with
  | case1 => rfl
  | case2 lo c =>
    simp only [List.mem_singleton] at h
    simp only [inside]
    grind
  | case3 lo hi rest c hlo =>
    simp only [List.mem_cons, not_or] at h
    exact inside_of_lt (by omega)
  | case4 lo hi rest c hlo hhi =>
    simp only [List.mem_cons, not_or] at h
    exact inside_pair (by omega) (by omega)
  | case5 lo hi rest c hlo hhi ih =>
    simp only [List.mem_cons, not_or] at h
    rw [inside, if_neg (by omega), if_neg (by omega), ih h.2.2]

end TemporalTagger.Unicode
