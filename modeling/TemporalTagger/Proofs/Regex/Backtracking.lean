/-
The program of an expression finds its preferred way. Backtracking runs the instructions one thread
at a time; on the code of an expression whose loops read it decides whether one of the ways can go
on, in their order. Main fact: `decides_code`.
-/
import TemporalTagger.Proofs.Regex.Ways

namespace TemporalTagger.Regex

/-- Runs the instructions from an index on, trying the second target of a branch where the first
one leads nowhere. The outer option is empty where the fuel runs out, the inner one where there is
no match. -/
def backtrack (code : Array Instr) : (fuel : Nat) → (pc : Nat) → Cursor → Option (Option Trail)
  | 0, _, _ => none
  | fuel + 1, pc, c =>
    match code[pc]? with
    | none => some none
    | some (.read s next) =>
      match c.read s with
      | [] => some none
      | d :: _ => backtrack code fuel next d
    | some (.jump next) => backtrack code fuel next c
    | some (.fork first second) =>
      match backtrack code fuel first c with
      | some none => backtrack code fuel second c
      | res => res
    | some (.check l next) => if c.place.satisfies l then backtrack code fuel next c else some none
    | some (.mark slot next) => backtrack code fuel next (c.mark slot)
    | some .accept => some (some c.trail)

/-- The second target of a branch is tried where no character of the first one can be read. -/
example (c : Cursor) : backtrack #[.fork 1 2, .read .empty 2, .accept] 2 0 c = some (some c.trail) := by
  cases h : c.place.rest <;> simp [backtrack, Cursor.read, h, CharSet.holds]

variable {code : Array Instr}

theorem backtrack_succ : ∀ {n pc : Nat} {c : Cursor} {res : Option Trail},
    backtrack code n pc c = some res → backtrack code (n + 1) pc c = some res
  | 0, _, _, _, h => by cases h
  | n + 1, pc, c, res, h => by
    rw [backtrack] at h ⊢
    split at h
    · exact h
    · split at h
      · exact h
      · exact backtrack_succ h
    · exact backtrack_succ h
    · split at h
      next hf => rw [backtrack_succ hf]; exact backtrack_succ h
      next hf =>
        rw [backtrack_succ h]
        cases res with
        | none => exact absurd h hf
        | some => rfl
    · split at h
      next hl => rw [if_pos hl]; exact backtrack_succ h
      next hl => rw [if_neg hl]; exact h
    · exact backtrack_succ h
    · exact h

theorem backtrack_mono {n m pc : Nat} {c : Cursor} {res : Option Trail} (hnm : n ≤ m)
    (h : backtrack code n pc c = some res) : backtrack code m pc c = some res := by
  induction hnm with
  | refl => exact h
  | step _ ih => exact backtrack_succ ih

/-- What matches and what does not is no matter of the group boundaries passed before. -/
theorem backtrack_trail (σ τ : Trail) : ∀ (n pc : Nat) (p : Place),
    (backtrack code n pc ⟨p, σ⟩).map Option.isSome = (backtrack code n pc ⟨p, τ⟩).map Option.isSome := by
  intro n
  induction n generalizing σ τ with
  | zero => intro pc p; rfl
  | succ n ih =>
    intro pc p
    rw [backtrack, backtrack]
    split
    · rfl
    next s next _ =>
      simp only [Cursor.read]
      rcases hp : p.rest with _ | ⟨ch, rest⟩
      · rfl
      · by_cases hs : s.holds ch = true
        · simpa [hs] using ih σ τ next _
        · simp [hs]
    · exact ih σ τ _ p
    next first second _ =>
      have hf := ih σ τ first p
      have hs := ih σ τ second p
      rcases h₁ : backtrack code n first ⟨p, σ⟩ with _ | _ | a <;>
        rcases h₂ : backtrack code n first ⟨p, τ⟩ with _ | _ | b <;> simp_all
    next l next _ =>
      by_cases hl : p.satisfies l = true
      · simpa [hl] using ih σ τ next p
      · simp [hl]
    · exact ih _ _ _ p
    · rfl

/-! ## Decisions -/

/-- From an index on, a match is found with this trail, or none is. -/
def Decides (code : Array Instr) (pc : Nat) (c : Cursor) (res : Option Trail) : Prop :=
  ∃ n, backtrack code n pc c = some res

namespace Decides

variable {pc next first second slot : Nat} {c : Cursor} {res : Option Trail}

theorem unique {res' : Option Trail} (h : Decides code pc c res) (h' : Decides code pc c res') :
    res = res' := by
  obtain ⟨n, hn⟩ := h
  obtain ⟨m, hm⟩ := h'
  have h₁ := backtrack_mono (Nat.le_max_left n m) hn
  have h₂ := backtrack_mono (Nat.le_max_right n m) hm
  exact Option.some.inj (h₁.symm.trans h₂)

theorem accept (h : code[pc]? = some .accept) : Decides code pc c (some c.trail) :=
  ⟨1, by rw [backtrack, h]⟩

theorem jump (h : code[pc]? = some (.jump next)) (hn : Decides code next c res) : Decides code pc c res := by
  obtain ⟨n, hn⟩ := hn
  exact ⟨n + 1, by rw [backtrack, h]; exact hn⟩

theorem mark (h : code[pc]? = some (.mark slot next)) (hn : Decides code next (c.mark slot) res) :
    Decides code pc c res := by
  obtain ⟨n, hn⟩ := hn
  exact ⟨n + 1, by rw [backtrack, h]; exact hn⟩

theorem check {l : Look} (h : code[pc]? = some (.check l next))
    (hn : c.place.satisfies l = true → Decides code next c res)
    (hf : c.place.satisfies l = false → res = none) : Decides code pc c res := by
  by_cases hl : c.place.satisfies l = true
  · obtain ⟨n, hn⟩ := hn hl
    exact ⟨n + 1, by rw [backtrack, h]; simpa only [hl, if_true] using hn⟩
  · rw [Bool.not_eq_true] at hl
    exact ⟨1, by rw [backtrack, h, hf hl]; simp [hl]⟩

theorem fork {res' : Option Trail} (h : code[pc]? = some (.fork first second))
    (h₁ : Decides code first c res) (h₂ : Decides code second c res') :
    Decides code pc c (res.or res') := by
  obtain ⟨n, hn⟩ := h₁
  obtain ⟨m, hm⟩ := h₂
  refine ⟨max n m + 1, ?_⟩
  rw [backtrack, h]
  simp only [backtrack_mono (Nat.le_max_left n m) hn]
  cases res with
  | none => simpa using backtrack_mono (Nat.le_max_right n m) hm
  | some => rfl

theorem read {s : CharSet} (h : code[pc]? = some (.read s next)) {K : Cursor → Option Trail}
    (hn : ∀ d ∈ c.read s, Decides code next d (K d)) :
    Decides code pc c ((c.read s).findSome? K) := by
  unfold Cursor.read at hn ⊢
  rcases hc : c.place.rest with _ | ⟨ch, rest⟩
  · exact ⟨1, by rw [backtrack, h]; simp [Cursor.read, hc]⟩
  · by_cases hs : s.holds ch = true
    · simp only [hc, hs, if_true, List.mem_singleton, forall_eq] at hn
      obtain ⟨n, hn⟩ := hn
      refine ⟨n + 1, ?_⟩
      rw [backtrack, h]
      simp only [Cursor.read, hc, hs, if_true, hn, List.findSome?_singleton]
    · exact ⟨1, by rw [backtrack, h]; simp [Cursor.read, hc, hs]⟩

end Decides

/-! ## Code in place -/

/-- A block of instructions stands in the program from an index on. -/
def CodeAt (code : Array Instr) (base : Nat) (block : List Instr) : Prop :=
  ∀ i, i < block.length → code[base + i]? = block[i]?

namespace CodeAt

variable {base : Nat} {a b : List Instr} {i : Instr}

theorem head (h : CodeAt code base (i :: a)) : code[base]? = some i := h 0 (by simp)

theorem tail (h : CodeAt code base (i :: a)) : CodeAt code (base + 1) a := fun j hj => by
  have := h (j + 1) (by simpa using hj)
  rwa [show base + (j + 1) = base + 1 + j by omega, List.getElem?_cons_succ] at this

theorem left (h : CodeAt code base (a ++ b)) : CodeAt code base a := fun j hj => by
  rw [h j (by simp; omega), List.getElem?_append_left hj]

theorem right (h : CodeAt code base (a ++ b)) : CodeAt code (base + a.length) b := fun j hj => by
  have := h (a.length + j) (by simpa using hj)
  rwa [List.getElem?_append_right (Nat.le_add_right ..), Nat.add_sub_cancel_left, ← Nat.add_assoc] at this

end CodeAt

/-! ## The code of an expression -/

theorem findSome?_flatMap {α β γ : Type} (f : α → List β) (K : β → Option γ) : ∀ l : List α,
    (l.flatMap f).findSome? K = l.findSome? fun a => (f a).findSome? K
  | [] => rfl
  | a :: l => by
    rw [List.flatMap_cons, List.findSome?_append, findSome?_flatMap f K l, List.findSome?_cons]
    cases (f a).findSome? K <;> rfl

/-- The body of a loop, laid out to go back to the fork at `loop`, makes a loop. The induction is on
the text that is left, of which every round takes some. -/
theorem decides_loop {r : Regex} (hr : r.nullable = false) {greedy : Bool} {body loop next : Nat}
    (hloop : code[loop]? = some (loopFork greedy body next))
    (hbody : ∀ (c : Cursor) (K : Cursor → Option Trail), (∀ d ∈ r.ways c, Decides code loop d (K d)) →
      Decides code body c ((r.ways c).findSome? K)) (K : Cursor → Option Trail) :
    ∀ (n : Nat) (c : Cursor), c.left = n → (∀ d ∈ (star r greedy).ways c, Decides code next d (K d)) →
      Decides code loop c (((star r greedy).ways c).findSome? K) := by
  intro n
  induction n using Nat.strong_induction_on with
  | _ n ih =>
    rintro c rfl hK
    rw [ways_star hr] at hK ⊢
    have hmore : Decides code body c
        (((r.ways c).flatMap (star r greedy).ways).findSome? K) := by
      rw [findSome?_flatMap]
      refine hbody c _ fun d hd => ih d.left (left_lt_of_ways hr hd) d rfl fun e he => hK e ?_
      have := List.mem_flatMap.2 ⟨d, hd, he⟩
      cases greedy <;> simp [this]
    have hend : Decides code next c (K c) := hK c (by cases greedy <;> simp)
    cases greedy with
    | true =>
      rw [if_pos rfl, List.findSome?_append, List.findSome?_singleton]
      exact hmore.fork hloop hend
    | false =>
      rw [if_neg Bool.false_ne_true, List.findSome?_cons]
      have := hend.fork hloop hmore
      revert this
      cases K c <;> exact id

/-- The code of an expression goes on in each of its ways until one leads to a match. -/
theorem decides_code : ∀ (r : Regex), r.loopsRead = true →
    ∀ (base next : Nat), CodeAt code base (r.code base next) →
    ∀ (c : Cursor) (K : Cursor → Option Trail), (∀ d ∈ r.ways c, Decides code next d (K d)) →
      Decides code base c ((r.ways c).findSome? K)
  | empty, _, base, next, hc, c, K, hK => by
    rw [ways, List.findSome?_singleton]
    exact (hK c (List.mem_singleton_self c)).jump hc.head
  | set s, _, base, next, hc, c, K, hK => Decides.read hc.head hK
  | look l, _, base, next, hc, c, K, hK => by
    refine Decides.check hc.head (fun hl => ?_) (fun hl => ?_)
    · simp only [ways, hl, if_true, List.findSome?_singleton, List.mem_singleton, forall_eq] at hK ⊢
      exact hK
    · simp [ways, hl]
  | cat r s, hl, base, next, hc, c, K, hK => by
    rw [loopsRead, Bool.and_eq_true] at hl
    rw [ways, findSome?_flatMap]
    refine decides_code r hl.1 base _ hc.left c _ fun d hd => ?_
    have hs := hc.right
    rw [length_code] at hs
    exact decides_code s hl.2 _ next hs d K fun e he => hK e (List.mem_flatMap.2 ⟨d, hd, he⟩)
  | alt r s, hl, base, next, hc, c, K, hK => by
    rw [loopsRead, Bool.and_eq_true] at hl
    rw [ways, List.findSome?_append]
    have hs := hc.tail.right
    rw [length_code] at hs
    exact (decides_code r hl.1 _ next hc.tail.left c K fun d hd => hK d (List.mem_append_left _ hd)).fork
      hc.head (decides_code s hl.2 _ next hs c K fun d hd => hK d (List.mem_append_right _ hd))
  | star r greedy, hl, base, next, hc, c, K, hK => by
    rw [loopsRead, Bool.and_eq_true, Bool.not_eq_true'] at hl
    exact decides_loop hl.1 hc.head (decides_code r hl.2 _ base hc.tail) K _ c rfl hK
  | plus r greedy, hl, base, next, hc, c, K, hK => by
    rw [loopsRead, Bool.and_eq_true, Bool.not_eq_true'] at hl
    have hloop := hc.right.head
    rw [length_code] at hloop
    rw [ways_plus, findSome?_flatMap]
    refine decides_code r hl.2 base _ hc.left c _ fun d hd => ?_
    refine decides_loop hl.1 hloop (decides_code r hl.2 base _ hc.left) K _ d rfl fun e he => hK e ?_
    rw [ways_plus]
    exact List.mem_flatMap.2 ⟨d, hd, he⟩
  | group n r, hl, base, next, hc, c, K, hK => by
    rw [loopsRead] at hl
    have hclose := hc.tail.right.head
    rw [length_code] at hclose
    rw [ways, List.findSome?_map]
    refine Decides.mark hc.head (decides_code r hl _ _ hc.tail.left _ _ fun d hd => ?_)
    exact Decides.mark hclose (hK _ (List.mem_map_of_mem hd))

end TemporalTagger.Regex
