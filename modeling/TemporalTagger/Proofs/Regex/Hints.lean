/-
When every match of one expression has a match of another in it, so that a text without the second
has no match of the first. The steps of both are watched side by side, and those of the second start
afresh at every place. Main fact: `occursIn_of_hintedBy`.
-/
import TemporalTagger.Proofs.Regex.Endings

namespace TemporalTagger.Regex

/-- Some way of the steps leads on. -/
def Lead (ks : List Step) (p : Place) : Prop := ∃ q, q ∈ reachSteps ks p

theorem lead_next {ks : List Step} (hks : ∀ k ∈ ks, k.Plain) {p : Place} {ch : Char} {rest : List Char}
    (hp : p.rest = ch :: rest) :
    Lead ks p ↔ Step.done ∈ ks ∨ Lead (nextSteps ch.toNat ks) (p.past [ch]) := by
  simp only [Lead, mem_reachSteps_next hks hp, exists_or, exists_and_left, exists_eq, and_true]

theorem lead_of_done {ks : List Step} (h : Step.done ∈ ks) (p : Place) : Lead ks p :=
  ⟨p, mem_reachSteps.2 ⟨_, h, List.mem_singleton_self p⟩⟩

/-- The steps of an expression, and those of another whose matches are looked for meanwhile. -/
structure Chase where
  steps : List Step
  hints : List Step
  deriving DecidableEq

namespace Chase

def next (fresh : List Step) (s : Chase) (c : Nat) : Chase := ⟨nextSteps c s.steps, nextSteps c s.hints ++ fresh⟩

/-- A match may end only after one of the hints has. -/
def verdict (s : Chase) : Verdict :=
  if s.hints.any Step.isDone then .settled
  else if s.steps.any Step.isDone then .bad
  else if s.steps.isEmpty then .settled
  else .pending

def system (fresh : List Step) : Explorable Chase where
  verdict := verdict
  successors s := (nextChars (s.steps ++ s.hints)).map (s.next fresh)
  remembered s := 2 ≤ s.steps.length

/-- A hint is found, of those under way or a fresh one. -/
def Found (fresh hints : List Step) (p : Place) : Prop :=
  Lead hints p ∨ ∃ u, u <+: p.rest ∧ Lead fresh (p.past u)

theorem found_of_closed {fresh : List Step} {states : Chase → Prop} (hc : (system fresh).Closed states [])
    (hf : ∀ k ∈ fresh, k.Plain) : ∀ (rest : List Char) (p : Place) (s : Chase), p.rest = rest → states s →
    (∀ k ∈ s.steps ++ s.hints, k.Plain) → Lead s.steps p → Found fresh s.hints p := by
  intro rest p s hp hs hplain hlead
  obtain ⟨hsteps, hhints⟩ := List.forall_mem_append.1 hplain
  by_cases hhint : Step.done ∈ s.hints
  · exact Or.inl (lead_of_done hhint p)
  have hgood : s.verdict ≠ .bad := hc.sound s hs
  have hd : Step.done ∉ s.steps := by
    intro hd
    refine hgood ?_
    rw [verdict, if_neg (by rwa [any_isDone]), if_pos (any_isDone.2 hd)]
  cases rest with
  | nil =>
    obtain ⟨q, hq⟩ := hlead
    exact absurd (reachSteps_of_rest_eq_nil hp q hq).2 hd
  | cons ch rest =>
    have hpending : s.verdict = .pending := by
      have hne : ¬ s.steps.isEmpty = true := by
        rw [List.isEmpty_iff]
        intro h
        obtain ⟨q, hq⟩ := hlead
        rw [h] at hq
        cases hq
      rw [verdict, if_neg (by rwa [any_isDone]), if_neg (by rwa [any_isDone]), if_neg hne]
    obtain ⟨d, hd', hnext⟩ := exists_nextChar (s.steps ++ s.hints) ch.toNat
    have hs' : states (s.next fresh ch.toNat) := by
      have hsame : s.next fresh d = s.next fresh ch.toNat := by
        rw [next, next, nextSteps_congr fun k hk => hnext k (List.mem_append_left _ hk),
          nextSteps_congr fun k hk => hnext k (List.mem_append_right _ hk)]
      exact hsame ▸ (hc.step s hs hpending _ (List.mem_map_of_mem hd')).resolve_right List.not_mem_nil
    have hlead' := ((lead_next hsteps hp).1 hlead).resolve_left hd
    have hrest : (p.past [ch]).rest = rest := by simp [Place.past, hp]
    have ih := found_of_closed hc hf rest (p.past [ch]) (s.next fresh ch.toNat) hrest hs'
      (List.forall_mem_append.2 ⟨plain_nextSteps hsteps, List.forall_mem_append.2 ⟨plain_nextSteps hhints, hf⟩⟩) hlead'
    have hfresh : ∀ u, u <+: rest → Lead fresh ((p.past [ch]).past u) → Found fresh s.hints p := by
      intro u hu h
      rw [Place.past_past] at h
      exact Or.inr ⟨[ch] ++ u, by rw [hp]; exact List.prefix_append_right_inj [ch] |>.2 hu, h⟩
    rcases ih with ⟨q, hq⟩ | ⟨u, hu, h⟩
    · rw [next, reachSteps_append, List.mem_append] at hq
      rcases hq with hq | hq
      · exact Or.inl ((lead_next hhints hp).2 (Or.inr ⟨q, hq⟩))
      · exact hfresh [] List.nil_prefix ⟨q, by rwa [Place.past_nil]⟩
    · exact hfresh u (hrest ▸ hu) h

end Chase

/-- Whether every match of an expression has one of another in it. -/
def hintedBy (r hint : Regex) : Bool :=
  r.plain && hint.plain && (Chase.system hint.steps).explore 10000 [⟨r.steps, hint.steps⟩] []

/-- An expression occurs only in texts in which its hint does. -/
theorem occursIn_of_hintedBy {r hint : Regex} (h : r.hintedBy hint = true) {source source' text : String}
    (hocc : (Pattern.ofRegex source r).occursIn text = true) :
    (Pattern.ofRegex source' hint).occursIn text = true := by
  simp only [hintedBy, Bool.and_eq_true] at h
  obtain ⟨⟨hr, hh⟩, hx⟩ := h
  have loops : ∀ r : Regex, r.plain = true → r.loopsRead = true := fun r hr => by
    rw [plain, Bool.and_eq_true] at hr; exact hr.2
  have lead : ∀ r : Regex, r.plain = true → ∀ p : Place, r.ways ⟨p, []⟩ ≠ [] ↔ Lead r.steps p := fun r hr p => by
    rw [Lead, reach_steps r hr, reach]
    cases r.ways ⟨p, []⟩ <;> simp
  obtain ⟨t, ht, hw⟩ := (occursIn_iff (loops r hr) text).1 hocc
  obtain ⟨states, hc, hs⟩ := (Chase.system _).exists_closed_of_explore hx
  have hp := plain_steps hint hh
  refine (occursIn_iff (loops hint hh) text).2 ?_
  rcases Chase.found_of_closed hc hp _ _ _ rfl hs (List.forall_mem_append.2 ⟨plain_steps r hr, hp⟩)
    ((lead r hr _).1 hw) with hl | ⟨u, hu, hl⟩
  · exact ⟨t, ht, (lead hint hh _).2 hl⟩
  · refine ⟨t ++ u, ?_, (lead hint hh _).2 (by rwa [Place.past_past] at hl)⟩
    obtain ⟨v, hv⟩ := hu
    refine ⟨v, ?_⟩
    rw [List.append_assoc, hv]
    exact (Place.rest_past_prefix (p := Place.ofText text) ht).symm

end TemporalTagger.Regex
