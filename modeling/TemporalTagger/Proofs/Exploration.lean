/-
Exploring the states of a finite system from some of them on. The search keeps a list of states to
look at and a list of those already looked at, and fails at a bad state. Main fact: a search that
comes to an end has looked at a set of states that the system does not leave.
-/
import Mathlib.Tactic

namespace TemporalTagger

/-- What a search makes of a state: it is bad, it needs no look further, or its successors do. -/
inductive Verdict
  | bad
  | settled
  | pending

/-- A system to explore. States that are not worth remembering are looked at again. -/
structure Explorable (σ : Type) where
  verdict : σ → Verdict
  successors : σ → List σ
  remembered : σ → Bool

namespace Explorable

variable {σ : Type} [DecidableEq σ] (m : Explorable σ)

/-- Whether no bad state is met from the given states on. -/
def explore : (fuel : Nat) → (todo seen : List σ) → Bool
  | 0, _, _ => false
  | _ + 1, [], _ => true
  | fuel + 1, s :: todo, seen =>
    match m.verdict s with
    | .bad => false
    | .settled => explore fuel todo seen
    | .pending =>
      if m.remembered s then
        if seen.contains s then explore fuel todo seen
        else explore fuel (m.successors s ++ todo) (s :: seen)
      else explore fuel (m.successors s ++ todo) seen

/-- A set of states without bad ones that only its settled states lead out of, or into another
list of states. -/
structure Closed (states : σ → Prop) (seen : List σ) : Prop where
  sound : ∀ s, states s → m.verdict s ≠ .bad
  step : ∀ s, states s → m.verdict s = .pending → ∀ t ∈ m.successors s, states t ∨ t ∈ seen

theorem exists_closed : ∀ (fuel : Nat) (todo seen : List σ), m.explore fuel todo seen = true →
    ∃ states : σ → Prop, m.Closed states seen ∧ ∀ s ∈ todo, states s ∨ s ∈ seen
  | 0, _, _, h => by cases h
  | _ + 1, [], _, _ => ⟨fun _ => False, ⟨fun _ h => h.elim, fun _ h => h.elim⟩, by simp⟩
  | fuel + 1, s :: todo, seen, h => by
    rw [explore] at h
    -- the state is added to those that the rest of the search has closed
    have add : ∀ {states : σ → Prop} {seen' : List σ}, m.verdict s ≠ .bad →
        (m.verdict s = .pending → ∀ t ∈ m.successors s, states t ∨ t ∈ seen') → m.Closed states seen' →
        (∀ t ∈ todo, states t ∨ t ∈ seen') → (∀ t ∈ seen', t = s ∨ t ∈ seen) →
        ∃ states : σ → Prop, m.Closed states seen ∧ ∀ t ∈ s :: todo, states t ∨ t ∈ seen := by
      intro states seen' hbad hstep hc htodo hseen
      have hgo : ∀ t, states t ∨ t ∈ seen' → (states t ∨ t = s) ∨ t ∈ seen := by
        rintro t (ht | ht)
        · exact Or.inl (Or.inl ht)
        · exact (hseen t ht).imp Or.inr id
      refine ⟨fun t => states t ∨ t = s, ⟨?_, ?_⟩, ?_⟩
      · rintro t (ht | rfl)
        · exact hc.sound t ht
        · exact hbad
      · rintro t (ht | rfl) ho u hu
        · exact hgo u (hc.step t ht ho u hu)
        · exact hgo u (hstep ho u hu)
      · exact List.forall_mem_cons.2 ⟨Or.inl (Or.inr rfl), fun t ht => hgo t (htodo t ht)⟩
    split at h
    · cases h
    next hv =>
      obtain ⟨states, hc, htodo⟩ := exists_closed fuel todo seen h
      exact add (by simp [hv]) (by simp [hv]) hc htodo fun t ht => Or.inr ht
    next hv =>
      split at h
      · split at h
        next hmem =>
          obtain ⟨states, hc, htodo⟩ := exists_closed fuel todo seen h
          exact ⟨states, hc, List.forall_mem_cons.2 ⟨Or.inr (by simpa using hmem), htodo⟩⟩
        · obtain ⟨states, hc, htodo⟩ := exists_closed fuel _ _ h
          obtain ⟨hs, htodo⟩ := List.forall_mem_append.1 htodo
          exact add (by simp [hv]) (fun _ => hs) hc htodo fun t ht => List.mem_cons.1 ht
      · obtain ⟨states, hc, htodo⟩ := exists_closed fuel _ _ h
        obtain ⟨hs, htodo⟩ := List.forall_mem_append.1 htodo
        exact add (by simp [hv]) (fun _ => hs) hc htodo fun t ht => Or.inr ht

/-- A search from one state that comes to an end stays in a closed set around it. -/
theorem exists_closed_of_explore {fuel : Nat} {s : σ} (h : m.explore fuel [s] [] = true) :
    ∃ states : σ → Prop, m.Closed states [] ∧ states s := by
  obtain ⟨states, hc, hs⟩ := m.exists_closed fuel [s] [] h
  exact ⟨states, hc, (hs s (List.mem_singleton_self s)).resolve_right (List.not_mem_nil)⟩

end Explorable

end TemporalTagger
