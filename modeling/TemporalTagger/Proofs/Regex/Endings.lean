/-
Which texts an expression prefers to match as a whole. Of the ways to match, the search reports the
first, so a text that can be matched to its end may still be left half matched. The steps before
the first end, those after it and the endings that are to blame are watched side by side; main fact:
`firstEnds_iff`.
-/
import TemporalTagger.Proofs.Exploration
import TemporalTagger.Proofs.Regex.Representatives

namespace TemporalTagger.Regex

deriving instance DecidableEq for Regex
deriving instance DecidableEq for Step

/-! ## Endings -/

/-- A text ends with characters of the sets of one of the endings, in turn. -/
def EndsWith (endings : List (List CharSet)) (w : List Char) : Prop :=
  ∃ e ∈ endings, ∃ u v, w = u ++ v ∧ List.Forall₂ (fun s c => s.holds c = true) e v

/-- The steps of all endings. -/
def endingSteps (endings : List (List CharSet)) : List Step := endings.flatMap fun e => stepsAll (e.map set)

/-- Some way of the steps leads to the end of the text. -/
def SomeEnds (ks : List Step) (p : Place) : Prop := ∃ q ∈ reachSteps ks p, q.rest = []

/-- The preferred way of the steps leads to the end of the text. -/
def FirstEnds (ks : List Step) (p : Place) : Prop := ∃ q, (reachSteps ks p).head? = some q ∧ q.rest = []

theorem plain_endingSteps (endings : List (List CharSet)) : ∀ k ∈ endingSteps endings, k.Plain := by
  intro k hk
  obtain ⟨e, -, hk⟩ := List.mem_flatMap.1 hk
  refine plain_stepsAll _ (fun r hr => ?_) k hk
  obtain ⟨s, -, rfl⟩ := List.mem_map.1 hr
  rfl

theorem reachAll_sets : ∀ (e : List CharSet) (p : Place),
    (∃ q ∈ reachAll (e.map set) p, q.rest = []) ↔ List.Forall₂ (fun s c => s.holds c = true) e p.rest
  | [], p => by simp [reachAll]
  | s :: e, p => by
    rw [List.map_cons, reachAll]
    cases hp : p.rest with
    | nil => simp [reach_set_nil s hp]
    | cons ch rest =>
      rw [reach_set s hp, List.forall₂_cons]
      have ih := reachAll_sets e (p.past [ch])
      rw [show (p.past [ch]).rest = rest by simp [Place.past, hp]] at ih
      by_cases hs : s.holds ch = true
      · simp only [hs, if_true, List.flatMap_singleton, true_and]
        exact ih
      · simp [hs]

theorem someEnds_endingSteps {endings : List (List CharSet)} {p : Place} :
    SomeEnds (endingSteps endings) p ↔
      ∃ e ∈ endings, List.Forall₂ (fun s c => s.holds c = true) e p.rest := by
  have hplain : ∀ e : List CharSet, ∀ r ∈ e.map set, r.plain = true := by
    intro e r hr
    obtain ⟨s, -, rfl⟩ := List.mem_map.1 hr
    rfl
  simp only [SomeEnds, endingSteps, reachSteps, List.flatMap_assoc, List.mem_flatMap]
  constructor
  · rintro ⟨q, ⟨e, he, k, hk, hq⟩, hrest⟩
    refine ⟨e, he, (reachAll_sets e p).1 ⟨q, ?_, hrest⟩⟩
    rw [← reach_stepsAll _ (hplain e)]
    exact mem_reachSteps.2 ⟨k, hk, hq⟩
  · rintro ⟨e, he, h⟩
    obtain ⟨q, hq, hrest⟩ := (reachAll_sets e p).2 h
    rw [← reach_stepsAll _ (hplain e)] at hq
    obtain ⟨k, hk, hq⟩ := mem_reachSteps.1 hq
    exact ⟨q, ⟨e, he, k, hk, hq⟩, hrest⟩

/-! ## Steps at a place -/

section
variable {ks : List Step} {p : Place}

theorem someEnds_nil (hp : p.rest = []) : SomeEnds ks p ↔ Step.done ∈ ks :=
  ⟨fun ⟨q, hq, _⟩ => (reachSteps_of_rest_eq_nil hp q hq).2,
    fun h => ⟨p, mem_reachSteps.2 ⟨_, h, List.mem_singleton_self p⟩, hp⟩⟩

theorem firstEnds_nil (hp : p.rest = []) : FirstEnds ks p ↔ Step.done ∈ ks := by
  refine ⟨fun ⟨q, hq, _⟩ => (reachSteps_of_rest_eq_nil hp q (List.mem_of_head? hq)).2, fun h => ?_⟩
  obtain ⟨q, hq, -⟩ := (someEnds_nil hp).2 h
  cases hks : reachSteps ks p with
  | nil => rw [hks] at hq; cases hq
  | cons a as =>
    refine ⟨a, by rw [hks, List.head?_cons], ?_⟩
    rw [(reachSteps_of_rest_eq_nil hp a (hks ▸ List.mem_cons_self)).1, hp]

theorem someEnds_next (hks : ∀ k ∈ ks, k.Plain) {ch : Char} {rest : List Char} (hp : p.rest = ch :: rest) :
    SomeEnds ks p ↔ SomeEnds (nextSteps ch.toNat ks) (p.past [ch]) := by
  simp only [SomeEnds, mem_reachSteps_next hks hp]
  constructor
  · rintro ⟨q, ⟨-, rfl⟩ | hq, hrest⟩
    · rw [hp] at hrest; cases hrest
    · exact ⟨q, hq, hrest⟩
  · rintro ⟨q, hq, hrest⟩
    exact ⟨q, Or.inr hq, hrest⟩

theorem firstEnds_next (hks : ∀ k ∈ ks, k.Plain) (hd : Step.done ∉ ks) {ch : Char} {rest : List Char}
    (hp : p.rest = ch :: rest) : FirstEnds ks p ↔ FirstEnds (nextSteps ch.toNat ks) (p.past [ch]) := by
  rw [FirstEnds, FirstEnds, reachSteps_next hks hd hp]

theorem someEnds_append {ls : List Step} : SomeEnds (ks ++ ls) p ↔ SomeEnds ks p ∨ SomeEnds ls p := by
  simp only [SomeEnds, reachSteps_append, List.mem_append, or_and_right, exists_or]

end

/-! ## The first end -/

/-- The steps that are preferred to the first end. -/
def beforeDone : List Step → List Step
  | [] | .done :: _ => []
  | .read s left :: ks => .read s left :: beforeDone ks

/-- The steps to which the first end is preferred. -/
def afterDone : List Step → List Step
  | [] => []
  | .done :: ks => ks
  | .read _ _ :: ks => afterDone ks

theorem done_not_mem_beforeDone : ∀ ks : List Step, Step.done ∉ beforeDone ks
  | [] | .done :: _ => by simp [beforeDone]
  | .read _ _ :: ks => by simpa [beforeDone] using done_not_mem_beforeDone ks

theorem mem_of_mem_beforeDone : ∀ {ks : List Step} {k : Step}, k ∈ beforeDone ks → k ∈ ks
  | .read _ _ :: _, _, h => by
    rcases List.mem_cons.1 h with rfl | h
    · exact List.mem_cons_self
    · exact List.mem_cons_of_mem _ (mem_of_mem_beforeDone h)

theorem mem_of_mem_afterDone : ∀ {ks : List Step} {k : Step}, k ∈ afterDone ks → k ∈ ks
  | .done :: _, _, h => List.mem_cons_of_mem _ h
  | .read _ _ :: _, _, h => List.mem_cons_of_mem _ (mem_of_mem_afterDone h)

section
variable {p : Place} {ch : Char} {rest : List Char}

theorem someEnds_split (hp : p.rest = ch :: rest) : ∀ ks : List Step,
    SomeEnds ks p ↔ SomeEnds (beforeDone ks ++ afterDone ks) p
  | [] => Iff.rfl
  | .done :: ks => by
    rw [← List.singleton_append, someEnds_append]
    refine ⟨fun h => h.resolve_left ?_, Or.inr⟩
    rintro ⟨q, hq, hrest⟩
    obtain rfl : q = p := by simpa [reachSteps, Step.reach] using hq
    rw [hp] at hrest; cases hrest
  | .read s left :: ks => by
    rw [← List.singleton_append, someEnds_append, someEnds_split hp ks, ← someEnds_append]
    rfl

theorem firstEnds_split (hp : p.rest = ch :: rest) : ∀ ks : List Step,
    FirstEnds ks p ↔ FirstEnds (beforeDone ks) p
  | [] => Iff.rfl
  | .done :: ks => by
    constructor
    · rintro ⟨q, hq, hrest⟩
      obtain rfl : p = q := by simpa [reachSteps, Step.reach] using hq
      rw [hp] at hrest; cases hrest
    · rintro ⟨q, hq, -⟩
      cases hq
  | .read s left :: ks => by
    have ih := firstEnds_split hp ks
    simp only [FirstEnds, beforeDone, reachSteps, List.flatMap_cons] at ih ⊢
    cases h : (Step.read s left).reach p with
    | nil => exact ih
    | cons => rfl

end

/-! ## Watching -/

/-- What goes on at a place: the steps before the first end, in order, those after it, and those of
the endings. -/
structure Watch where
  live : List Step
  others : List Step
  endings : List Step
  deriving DecidableEq

namespace Watch

def all (w : Watch) : List Step := w.live ++ w.others ++ w.endings

/-- What goes on after a character; the endings start afresh at every place. -/
def next (fresh : List Step) (w : Watch) (c : Nat) : Watch :=
  ⟨nextSteps c (beforeDone w.live), nextSteps c (afterDone w.live ++ w.others), nextSteps c w.endings ++ fresh⟩

/-- At an end of the text, the first way ends exactly if no ending does. -/
def verdict (w : Watch) : Verdict :=
  if (w.live ++ w.others).any Step.isDone && (w.live.any Step.isDone == w.endings.any Step.isDone) then .bad
  else if w.live.isEmpty && w.others.isEmpty then .settled
  else .pending

/-- The watch as a system to explore. -/
def system (fresh : List Step) : Explorable Watch where
  verdict := verdict
  successors w := (nextChars w.all).map (w.next fresh)
  remembered w := 2 ≤ w.live.length + w.others.length

/-- One of the endings, old or fresh, is complete where the text ends. -/
def Caught (fresh : List Step) : (endings : List Step) → List Char → Prop
  | endings, [] => Step.done ∈ endings
  | endings, ch :: rest => Caught fresh (nextSteps ch.toNat endings ++ fresh) rest

theorem caught_iff {fresh : List Step} (hf : ∀ k ∈ fresh, k.Plain) : ∀ (rest : List Char) (p : Place)
    (endings : List Step), (∀ k ∈ endings, k.Plain) → p.rest = rest →
    (Caught fresh endings rest ↔
      SomeEnds endings p ∨ ∃ u v, rest = u ++ v ∧ u ≠ [] ∧ SomeEnds fresh (p.past u))
  | [], p, endings, he, hp => by
    rw [Caught, someEnds_nil hp]
    refine ⟨Or.inl, fun h => h.resolve_right ?_⟩
    rintro ⟨u, v, h, hu, -⟩
    exact hu (List.append_eq_nil_iff.1 h.symm).1
  | ch :: rest, p, endings, he, hp => by
    have hrest : (p.past [ch]).rest = rest := by simp [Place.past, hp]
    have ih := caught_iff hf rest (p.past [ch]) (nextSteps ch.toNat endings ++ fresh)
      (List.forall_mem_append.2 ⟨plain_nextSteps he, hf⟩) hrest
    rw [Caught, ih, someEnds_append, ← someEnds_next he hp, or_assoc]
    refine or_congr_right ⟨?_, ?_⟩
    · rintro (h | ⟨u, v, rfl, hu, h⟩)
      · exact ⟨[ch], rest, rfl, by simp, h⟩
      · exact ⟨ch :: u, v, rfl, by simp, by rwa [Place.past_past] at h⟩
    · rintro ⟨u, v, h, hu, hs⟩
      cases u with
      | nil => exact absurd rfl hu
      | cons a u =>
        obtain ⟨rfl, rfl⟩ := List.cons.inj h
        by_cases hu : u = []
        · subst hu; exact Or.inl hs
        · exact Or.inr ⟨u, v, rfl, hu, by rwa [Place.past_past]⟩

theorem caught_endingSteps {endings : List (List CharSet)} (p : Place) :
    Caught (endingSteps endings) (endingSteps endings) p.rest ↔ EndsWith endings p.rest := by
  have hf := plain_endingSteps endings
  rw [caught_iff hf p.rest p _ hf rfl]
  have hpast : ∀ u v, p.rest = u ++ v → (p.past u).rest = v := fun u v h => by simp [Place.past, h]
  constructor
  · rintro (h | ⟨u, v, h, -, hs⟩)
    · obtain ⟨e, he, hs⟩ := someEnds_endingSteps.1 h
      exact ⟨e, he, [], p.rest, rfl, hs⟩
    · obtain ⟨e, he, hs⟩ := someEnds_endingSteps.1 hs
      exact ⟨e, he, u, v, h, hpast u v h ▸ hs⟩
  · rintro ⟨e, he, u, v, h, hs⟩
    by_cases hu : u = []
    · subst hu
      exact Or.inl (someEnds_endingSteps.2 ⟨e, he, by rw [h]; exact hs⟩)
    · exact Or.inr ⟨u, v, h, hu, someEnds_endingSteps.2 ⟨e, he, by rw [hpast u v h]; exact hs⟩⟩

/-- As long as the watch stays among good states, a text that some way matches to its end is so
matched by the preferred one unless it has one of the endings. The induction is on the text left. -/
theorem firstEnds_of_closed {fresh : List Step} {states : Watch → Prop} (hc : (system fresh).Closed states [])
    (hf : ∀ k ∈ fresh, k.Plain) : ∀ (rest : List Char) (p : Place) (w : Watch), p.rest = rest → states w →
    (∀ k ∈ w.all, k.Plain) → SomeEnds (w.live ++ w.others) p →
    (FirstEnds w.live p ↔ ¬ Caught fresh w.endings rest)
  | [], p, w, hp, hw, _, hsome => by
    have hgood := hc.sound w hw
    have hany : (w.live ++ w.others).any Step.isDone = true := any_isDone.2 ((someEnds_nil hp).1 hsome)
    rw [firstEnds_nil hp, Caught, ← any_isDone, ← any_isDone]
    simp only [system, verdict, hany, Bool.true_and] at hgood
    cases h₁ : w.live.any Step.isDone <;> cases h₂ : w.endings.any Step.isDone <;> simp [h₁, h₂] at hgood ⊢
  | ch :: rest, p, w, hp, hw, hplain, hsome => by
    obtain ⟨hrun, hendings⟩ := List.forall_mem_append.1 hplain
    obtain ⟨hlive, hothers⟩ := List.forall_mem_append.1 hrun
    have hbefore : ∀ k ∈ beforeDone w.live, k.Plain := fun k hk => hlive k (mem_of_mem_beforeDone hk)
    have hafter : ∀ k ∈ afterDone w.live ++ w.others, k.Plain :=
      List.forall_mem_append.2 ⟨fun k hk => hlive k (mem_of_mem_afterDone hk), hothers⟩
    have hpending : w.verdict = .pending := by
      have hgood : w.verdict ≠ .bad := hc.sound w hw
      have hne : (w.live.isEmpty && w.others.isEmpty) = false := by
        rw [Bool.eq_false_iff, Ne, Bool.and_eq_true, List.isEmpty_iff, List.isEmpty_iff]
        rintro ⟨h₁, h₂⟩
        obtain ⟨q, hq, -⟩ := hsome
        rw [h₁, h₂] at hq
        cases hq
      unfold verdict at hgood ⊢
      split
      next h => exact absurd (if_pos h) hgood
      next => rw [hne]; rfl
    obtain ⟨d, hd, hnext⟩ := exists_nextChar w.all ch.toNat
    have hw' : states (w.next fresh ch.toNat) := by
      have hsame : w.next fresh d = w.next fresh ch.toNat := by
        have hcongr : ∀ ks, (∀ k ∈ ks, k ∈ w.all) → nextSteps d ks = nextSteps ch.toNat ks :=
          fun ks hks => nextSteps_congr fun k hk => hnext k (hks k hk)
        simp only [next]
        rw [hcongr, hcongr, hcongr]
        · exact fun k hk => List.mem_append_right _ hk
        · intro k hk
          rcases List.mem_append.1 hk with hk | hk
          · exact List.mem_append_left _ (List.mem_append_left _ (mem_of_mem_afterDone hk))
          · exact List.mem_append_left _ (List.mem_append_right _ hk)
        · exact fun k hk => List.mem_append_left _ (List.mem_append_left _ (mem_of_mem_beforeDone hk))
      have := hc.step w hw hpending _ (List.mem_map_of_mem hd)
      exact hsame ▸ this.resolve_right List.not_mem_nil
    have hsome' : SomeEnds ((w.next fresh ch.toNat).live ++ (w.next fresh ch.toNat).others) (p.past [ch]) := by
      simp only [next]
      rw [← nextSteps_append, ← someEnds_next (List.forall_mem_append.2 ⟨hbefore, hafter⟩) hp, ← List.append_assoc,
        someEnds_append, ← someEnds_split hp, ← someEnds_append]
      exact hsome
    have hplain' : ∀ k ∈ (w.next fresh ch.toNat).all, k.Plain :=
      List.forall_mem_append.2 ⟨List.forall_mem_append.2 ⟨plain_nextSteps hbefore, plain_nextSteps hafter⟩,
        List.forall_mem_append.2 ⟨plain_nextSteps hendings, hf⟩⟩
    rw [firstEnds_split hp, firstEnds_next hbefore (done_not_mem_beforeDone _) hp, Caught]
    exact firstEnds_of_closed hc hf rest _ _ (by simp [Place.past, hp]) hw' hplain' hsome'

end Watch

/-- Whether the texts that an expression matches to their ends, but does not prefer to, are those
with one of the endings. -/
def endingsOf (r : Regex) (endings : List (List CharSet)) : Bool :=
  r.plain && (Watch.system (endingSteps endings)).explore 10000 [⟨r.steps, [], endingSteps endings⟩] []

/-- A text that an expression can match to its end is so matched by the preferred way, unless it has
one of the endings. -/
theorem firstEnds_iff {r : Regex} {endings : List (List CharSet)} (h : r.endingsOf endings = true) {p : Place}
    (hsome : ∃ q ∈ r.reach p, q.rest = []) :
    (∃ q, (r.reach p).head? = some q ∧ q.rest = []) ↔ ¬ EndsWith endings p.rest := by
  rw [endingsOf, Bool.and_eq_true] at h
  obtain ⟨hr, hx⟩ := h
  obtain ⟨states, hc, hs⟩ := (Watch.system _).exists_closed_of_explore hx
  have hf := plain_endingSteps endings
  rw [← reach_steps r hr] at hsome ⊢
  rw [← Watch.caught_endingSteps]
  exact Watch.firstEnds_of_closed hc hf p.rest p _ rfl hs
    (List.forall_mem_append.2 ⟨by simpa using plain_steps r hr, hf⟩) (by rw [List.append_nil]; exact hsome)

end TemporalTagger.Regex
