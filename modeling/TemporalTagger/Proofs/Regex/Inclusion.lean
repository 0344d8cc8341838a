/-
Whether all texts that one expression matches are matched by another, or none of them is. The steps of
both are followed side by side. Main fact: `matches_iff_of_answers`.
-/
import TemporalTagger.Proofs.Regex.Matching

namespace TemporalTagger.Regex

/-! ## Matches and steps -/

theorem matches_iff_someEnds {r : Regex} (hr : r.plain = true) (p : Place) :
    r.Matches p.rest ↔ SomeEnds r.steps p := by
  rw [SomeEnds, reach_steps r hr]
  constructor
  · intro h
    exact ⟨p.past p.rest, mem_reach_of_matches h hr List.prefix_rfl, by simp [Place.past]⟩
  · rintro ⟨q, hq, hrest⟩
    obtain ⟨t, ⟨u, hu⟩, rfl, hm⟩ := (mem_reach_iff hr).1 hq
    obtain rfl : u = [] := by simpa [Place.past, ← hu] using hrest
    rwa [← hu, List.append_nil]

/-- An expression that matches a text, after expressions that match what comes before it. -/
theorem matches_catAll : ∀ {rs : List Regex} {ts : List (List Char)}, List.Forall₂ Matches rs ts →
    (catAll rs).Matches ts.flatten
  | [], _, .nil => .empty
  | [r], _, .cons h .nil => by simpa [catAll] using h
  | _ :: _ :: _, _, .cons h hs => .cat h (matches_catAll hs)

/-! ## Comparison -/

/-- The steps of two expressions that read the same text. -/
structure Compared where
  given : List Step
  asked : List Step
  deriving DecidableEq

namespace Compared

def next (s : Compared) (c : Nat) : Compared := ⟨nextSteps c s.given, nextSteps c s.asked⟩

/-- Where the first expression ends, the second has to end or must not, as the answer says. -/
def verdict (answer : Bool) (s : Compared) : Verdict :=
  if s.given.any Step.isDone && s.asked.any Step.isDone != answer then .bad
  else if s.given.isEmpty then .settled
  else .pending

def system (answer : Bool) : Explorable Compared where
  verdict := verdict answer
  successors s := (nextChars (s.given ++ s.asked)).map s.next
  remembered s := 2 ≤ s.given.length

theorem someEnds_iff_of_closed {answer : Bool} {states : Compared → Prop} (hc : (system answer).Closed states []) :
    ∀ (rest : List Char) (p : Place) (s : Compared), p.rest = rest → states s →
    (∀ k ∈ s.given ++ s.asked, k.Plain) → SomeEnds s.given p → (SomeEnds s.asked p ↔ answer = true)
  | [], p, s, hp, hs, _, hgiven => by
    have hgood : s.verdict answer ≠ .bad := hc.sound s hs
    rw [someEnds_nil hp, ← any_isDone] at hgiven ⊢
    simp only [verdict, hgiven, Bool.true_and] at hgood
    cases h : s.asked.any Step.isDone <;> cases answer <;> simp [h] at hgood ⊢
  | ch :: rest, p, s, hp, hs, hplain, hgiven => by
    obtain ⟨hg, ha⟩ := List.forall_mem_append.1 hplain
    have hpending : s.verdict answer = .pending := by
      have hgood : s.verdict answer ≠ .bad := hc.sound s hs
      have hne : ¬ s.given.isEmpty = true := by
        rw [List.isEmpty_iff]
        intro h
        obtain ⟨q, hq, -⟩ := hgiven
        rw [h] at hq
        cases hq
      rw [verdict, if_neg fun h => hgood (if_pos h), if_neg hne]
    obtain ⟨d, hd, hnext⟩ := exists_nextChar (s.given ++ s.asked) ch.toNat
    have hs' : states (s.next ch.toNat) := by
      have hsame : s.next d = s.next ch.toNat := by
        rw [next, next, nextSteps_congr fun k hk => hnext k (List.mem_append_left _ hk),
          nextSteps_congr fun k hk => hnext k (List.mem_append_right _ hk)]
      exact hsame ▸ (hc.step s hs hpending _ (List.mem_map_of_mem hd)).resolve_right List.not_mem_nil
    rw [someEnds_next ha hp]
    exact someEnds_iff_of_closed hc rest (p.past [ch]) _ (by simp [Place.past, hp]) hs'
      (List.forall_mem_append.2 ⟨plain_nextSteps hg, plain_nextSteps ha⟩) ((someEnds_next hg hp).1 hgiven)

end Compared

/-- Whether an expression matches all texts that another matches, or none of them. -/
def answers (asked given : Regex) (answer : Bool) : Bool :=
  asked.plain && given.plain && (Compared.system answer).explore 10000 [⟨given.steps, asked.steps⟩] []

theorem matches_iff_of_answers {asked given : Regex} {answer : Bool} (h : asked.answers given answer = true)
    {t : List Char} (ht : given.Matches t) : asked.Matches t ↔ answer = true := by
  simp only [answers, Bool.and_eq_true] at h
  obtain ⟨⟨ha, hg⟩, hx⟩ := h
  obtain ⟨states, hc, hs⟩ := (Compared.system _).exists_closed_of_explore hx
  let p : Place := ⟨0, none, t⟩
  exact (matches_iff_someEnds ha p).trans (Compared.someEnds_iff_of_closed hc t p _ rfl hs
    (List.forall_mem_append.2 ⟨plain_steps given hg, plain_steps asked ha⟩) ((matches_iff_someEnds hg p).1 ht))

end TemporalTagger.Regex
