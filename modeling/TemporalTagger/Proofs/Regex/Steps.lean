/-
How far an expression matches, step by step: each way ends at a place, and to get there it reads a
character at a time. For expressions that look at nothing but what they read, the next characters
that can be read are listed with what is left to match after them, in order of preference.
Main fact: `reach_steps`.
-/
import TemporalTagger.Proofs.Regex.Leftmost

namespace TemporalTagger.Regex

/-! ## Reached places -/

/-- The places that the ways of an expression lead to. -/
def reach (r : Regex) (p : Place) : List Place := (r.ways ⟨p, []⟩).map Cursor.place

theorem reach_eq (r : Regex) (c : Cursor) : (r.ways c).map Cursor.place = r.reach c.place := by
  have h : c = Cursor.after ⟨c.place, []⟩ c.trail := rfl
  rw [reach, h, ways_after, List.map_map]
  rfl

theorem map_place_flatMap (r : Regex) (cs : List Cursor) :
    (cs.flatMap r.ways).map Cursor.place = (cs.map Cursor.place).flatMap r.reach := by
  rw [List.map_flatMap, List.flatMap_map]
  exact List.flatMap_congr fun c _ => reach_eq r c

theorem reach_empty (p : Place) : empty.reach p = [p] := rfl

theorem reach_set (s : CharSet) {p : Place} {ch : Char} {rest : List Char} (h : p.rest = ch :: rest) :
    (set s).reach p = if s.holds ch then [p.past [ch]] else [] := by
  simp only [reach, ways, Cursor.read, h]
  split <;> rfl

theorem reach_set_nil (s : CharSet) {p : Place} (h : p.rest = []) : (set s).reach p = [] := by
  simp only [reach, ways, Cursor.read, h, List.map_nil]

theorem reach_look (l : Look) (p : Place) : (look l).reach p = if p.satisfies l then [p] else [] := by
  simp only [reach, ways]
  split <;> rfl

theorem reach_cat (r s : Regex) (p : Place) : (cat r s).reach p = (r.reach p).flatMap s.reach :=
  map_place_flatMap s _

theorem reach_alt (r s : Regex) (p : Place) : (alt r s).reach p = r.reach p ++ s.reach p := List.map_append

theorem reach_star {r : Regex} (hr : r.nullable = false) (greedy : Bool) (p : Place) :
    (star r greedy).reach p =
      if greedy then (r.reach p).flatMap (star r greedy).reach ++ [p]
      else p :: (r.reach p).flatMap (star r greedy).reach := by
  rw [reach, ways_star hr]
  cases greedy
  · rw [if_neg Bool.false_ne_true, if_neg Bool.false_ne_true, List.map_cons, map_place_flatMap]; rfl
  · rw [if_pos rfl, if_pos rfl, List.map_append, map_place_flatMap]; rfl

theorem reach_plus (r : Regex) (greedy : Bool) (p : Place) :
    (plus r greedy).reach p = (r.reach p).flatMap (star r greedy).reach := map_place_flatMap (star r greedy) _

theorem reach_group (n : Nat) (r : Regex) (p : Place) : (group n r).reach p = r.reach p := by
  rw [reach, ways, List.map_map]
  exact reach_eq r (Cursor.mark (2 * n) ⟨p, []⟩)

/-- The places that expressions lead to one after another. -/
def reachAll : List Regex → Place → List Place
  | [], p => [p]
  | r :: rs, p => (r.reach p).flatMap (reachAll rs)

theorem reachAll_append (rs ss : List Regex) (p : Place) :
    reachAll (rs ++ ss) p = (reachAll rs p).flatMap (reachAll ss) := by
  induction rs generalizing p with
  | nil => simp [reachAll]
  | cons r rs ih =>
    rw [List.cons_append, reachAll, reachAll, List.flatMap_assoc]
    exact List.flatMap_congr fun q _ => ih q

theorem reachAll_singleton (r : Regex) (p : Place) : reachAll [r] p = r.reach p := by simp [reachAll]

/-! ## Steps -/

/-- What can come next: the match ends, or a character of a set is read and what is left has to
match. -/
inductive Step
  | done
  | read (chars : CharSet) (left : List Regex)

namespace Step

def reach : Step → Place → List Place
  | done, p => [p]
  | read s left, p => ((set s).reach p).flatMap (reachAll left)

/-- The step with more to match after it; at the end the first steps of that come next. -/
def andThen (more : List Regex) (first : List Step) : Step → List Step
  | done => first
  | read s left => [read s (left ++ more)]

end Step

/-- The next steps of an expression. A loop reads in each round, so its rounds do not end at once. -/
def steps : Regex → List Step
  | empty => [.done]
  | set s => [.read s []]
  | look _ => []
  | cat r s => r.steps.flatMap (·.andThen [s] s.steps)
  | alt r s => r.steps ++ s.steps
  | star r greedy =>
    let more := r.steps.flatMap (·.andThen [star r greedy] [])
    if greedy then more ++ [.done] else .done :: more
  | plus r greedy => r.steps.flatMap (·.andThen [star r greedy] [])
  | group _ r => r.steps

/-- The next steps of expressions one after another. -/
def stepsAll : List Regex → List Step
  | [] => [.done]
  | r :: rs => r.steps.flatMap (·.andThen rs (stepsAll rs))

/-- Whether an expression looks at nothing but what it reads. -/
def lookFree : Regex → Bool
  | empty | set _ => true
  | look _ => false
  | cat r s | alt r s => r.lookFree && s.lookFree
  | star r _ | plus r _ | group _ r => r.lookFree

/-- Whether steps say all about an expression. -/
def plain (r : Regex) : Bool := r.lookFree && r.loopsRead

/-- The places that steps lead to. -/
def reachSteps (ks : List Step) (p : Place) : List Place := ks.flatMap (·.reach p)

theorem reachSteps_append (ks ls : List Step) (p : Place) :
    reachSteps (ks ++ ls) p = reachSteps ks p ++ reachSteps ls p := List.flatMap_append

theorem reach_andThen {more : List Regex} {first : List Step} {p : Place}
    (h : reachSteps first p = reachAll more p) (k : Step) :
    reachSteps (k.andThen more first) p = (k.reach p).flatMap (reachAll more) := by
  cases k with
  | done => simpa [Step.andThen, Step.reach] using h
  | read s left =>
    rw [Step.andThen, reachSteps, List.flatMap_singleton, Step.reach, Step.reach, List.flatMap_assoc]
    exact List.flatMap_congr fun q _ => reachAll_append left more q

theorem reachSteps_andThen {more : List Regex} {first : List Step} {p : Place}
    (h : reachSteps first p = reachAll more p) (ks : List Step) :
    reachSteps (ks.flatMap (·.andThen more first)) p = (reachSteps ks p).flatMap (reachAll more) := by
  rw [reachSteps, reachSteps, List.flatMap_assoc, List.flatMap_assoc]
  exact List.flatMap_congr fun k _ => reach_andThen h k

theorem done_not_mem_steps : ∀ (r : Regex), r.nullable = false → Step.done ∉ r.steps
  | empty, h => by cases h
  | set s, _ => by simp [steps]
  | look _, h => by cases h
  | cat r s, h => by
    rw [nullable, Bool.and_eq_false_iff] at h
    intro hd
    obtain ⟨k, hk, hd⟩ := List.mem_flatMap.1 hd
    cases k with
    | done =>
      rcases h with h | h
      · exact done_not_mem_steps r h hk
      · exact done_not_mem_steps s h hd
    | read => simp [Step.andThen] at hd
  | alt r s, h => by
    rw [nullable, Bool.or_eq_false_iff] at h
    intro hd
    rcases List.mem_append.1 hd with hd | hd
    · exact done_not_mem_steps r h.1 hd
    · exact done_not_mem_steps s h.2 hd
  | star _ _, h => by cases h
  | plus r _, h => by
    intro hd
    obtain ⟨k, hk, hd⟩ := List.mem_flatMap.1 hd
    cases k with
    | done => exact done_not_mem_steps r h hk
    | read => simp [Step.andThen] at hd
  | group _ r, h => done_not_mem_steps r h

/-- What the rounds of a loop read, step by step. -/
theorem reachSteps_rounds {r : Regex} {greedy : Bool} (hr : r.nullable = false) {p : Place}
    (ih : reachSteps r.steps p = r.reach p) :
    reachSteps (r.steps.flatMap (·.andThen [star r greedy] [])) p =
      (r.reach p).flatMap (star r greedy).reach := by
  have hd := done_not_mem_steps r hr
  rw [← ih, reachSteps, reachSteps, List.flatMap_assoc, List.flatMap_assoc]
  refine List.flatMap_congr fun k hk => ?_
  cases k with
  | done => exact absurd hk hd
  | read s left =>
    rw [Step.andThen, List.flatMap_singleton, Step.reach, Step.reach, List.flatMap_assoc]
    refine List.flatMap_congr fun q _ => ?_
    rw [reachAll_append]
    exact List.flatMap_congr fun q _ => reachAll_singleton _ q

/-- The steps of an expression lead where its ways do, in the same order. -/
theorem reach_steps : ∀ (r : Regex), r.plain = true → ∀ p : Place, reachSteps r.steps p = r.reach p
  | empty, _, p => rfl
  | set s, _, p => by simp [steps, reachSteps, Step.reach, reachAll]
  | look _, h, _ => by simp [plain, lookFree] at h
  | cat r s, h, p => by
    simp only [plain, lookFree, loopsRead, Bool.and_eq_true] at h
    have ihr := reach_steps r (by simp [plain, h]) 
    have ihs := reach_steps s (by simp [plain, h])
    rw [steps, reachSteps_andThen (by rw [ihs, reachAll_singleton]), ihr, reach_cat]
    exact List.flatMap_congr fun q _ => reachAll_singleton s q
  | alt r s, h, p => by
    simp only [plain, lookFree, loopsRead, Bool.and_eq_true] at h
    rw [steps, reachSteps_append, reach_steps r (by simp [plain, h]), reach_steps s (by simp [plain, h]),
      reach_alt]
  | star r greedy, h, p => by
    simp only [plain, lookFree, loopsRead, Bool.and_eq_true, Bool.not_eq_true'] at h
    have hmore := @reachSteps_rounds r greedy h.2.1 p (reach_steps r (by simp [plain, h]) p)
    rw [steps, reach_star h.2.1]
    cases greedy with
    | true => 
      rw [if_pos rfl, if_pos rfl, reachSteps_append, hmore]
      rfl
    | false =>
      rw [if_neg Bool.false_ne_true, if_neg Bool.false_ne_true, ← hmore]
      rfl
  | plus r greedy, h, p => by
    simp only [plain, lookFree, loopsRead, Bool.and_eq_true, Bool.not_eq_true'] at h
    rw [steps, reachSteps_rounds h.2.1 (reach_steps r (by simp [plain, h]) p), reach_plus]
  | group _ r, h, p => by
    rw [steps, reach_group]
    exact reach_steps r h p

/-- Steps say all about what is left to match after them. -/
def Step.Plain : Step → Prop
  | .done => True
  | .read _ left => ∀ r ∈ left, r.plain = true

theorem plain_andThen {more : List Regex} {first : List Step} (hmore : ∀ r ∈ more, r.plain = true)
    (hfirst : ∀ k ∈ first, k.Plain) {ks : List Step} (hks : ∀ k ∈ ks, k.Plain) :
    ∀ k ∈ ks.flatMap (·.andThen more first), k.Plain := by
  intro k hk
  obtain ⟨k', hk', hk⟩ := List.mem_flatMap.1 hk
  cases k' with
  | done => exact hfirst k hk
  | read s left =>
    obtain rfl := List.mem_singleton.1 hk
    exact List.forall_mem_append.2 ⟨hks _ hk', hmore⟩

theorem plain_steps : ∀ r : Regex, r.plain = true → ∀ k ∈ r.steps, k.Plain
  | empty, _ => by simp [steps, Step.Plain]
  | set s, _ => by simp [steps, Step.Plain]
  | look _, _ => by simp [steps]
  | cat r s, h => by
    simp only [plain, lookFree, loopsRead, Bool.and_eq_true] at h
    have hs : s.plain = true := by simp [plain, h]
    exact plain_andThen (by simpa using hs) (plain_steps s hs) (plain_steps r (by simp [plain, h]))
  | alt r s, h => by
    simp only [plain, lookFree, loopsRead, Bool.and_eq_true] at h
    exact List.forall_mem_append.2 ⟨plain_steps r (by simp [plain, h]), plain_steps s (by simp [plain, h])⟩
  | star r greedy, h => by
    have h' := h
    simp only [plain, lookFree, loopsRead, Bool.and_eq_true] at h'
    have hmore : ∀ k ∈ r.steps.flatMap (·.andThen [star r greedy] []), k.Plain :=
      plain_andThen (by simpa using h) (by simp) (plain_steps r (by simp [plain, h']))
    rw [steps]
    split
    · exact List.forall_mem_append.2 ⟨hmore, by simp [Step.Plain]⟩
    · exact List.forall_mem_cons.2 ⟨trivial, hmore⟩
  | plus r greedy, h => by
    have h' := h
    simp only [plain, lookFree, loopsRead, Bool.and_eq_true] at h'
    exact plain_andThen (by simpa [plain, lookFree, loopsRead] using h) (by simp)
      (plain_steps r (by simp [plain, h']))
  | group _ r, h => plain_steps r h

theorem plain_stepsAll : ∀ rs : List Regex, (∀ r ∈ rs, r.plain = true) → ∀ k ∈ stepsAll rs, k.Plain
  | [], _ => by simp [stepsAll, Step.Plain]
  | r :: rs, h => by
    obtain ⟨hr, hrs⟩ := List.forall_mem_cons.1 h
    exact plain_andThen hrs (plain_stepsAll rs hrs) (plain_steps r hr)

theorem reach_stepsAll : ∀ (rs : List Regex), (∀ r ∈ rs, r.plain = true) → ∀ p : Place,
    reachSteps (stepsAll rs) p = reachAll rs p
  | [], _, p => rfl
  | r :: rs, h, p => by
    obtain ⟨hr, hrs⟩ := List.forall_mem_cons.1 h
    rw [stepsAll, reachSteps_andThen (reach_stepsAll rs hrs p), reach_steps r hr, reachAll]

/-! ## Reading -/

namespace Step

def isDone : Step → Bool
  | done => true
  | read _ _ => false

/-- The next steps after reading a code point. -/
def next (c : Nat) : Step → List Step
  | done => []
  | read s left => if s.mem c then stepsAll left else []

end Step

/-- The next steps after reading a code point. -/
def nextSteps (c : Nat) (ks : List Step) : List Step := ks.flatMap (·.next c)

theorem any_isDone {ks : List Step} : ks.any Step.isDone = true ↔ Step.done ∈ ks := by
  rw [List.any_eq_true]
  refine ⟨?_, fun h => ⟨_, h, rfl⟩⟩
  rintro ⟨_ | _, h, hd⟩
  · exact h
  · cases hd

theorem nextSteps_append (c : Nat) (ks ls : List Step) :
    nextSteps c (ks ++ ls) = nextSteps c ks ++ nextSteps c ls := List.flatMap_append

theorem plain_nextSteps {c : Nat} {ks : List Step} (h : ∀ k ∈ ks, k.Plain) : ∀ k ∈ nextSteps c ks, k.Plain := by
  intro k hk
  obtain ⟨k', hk', hk⟩ := List.mem_flatMap.1 hk
  cases k' with
  | done => cases hk
  | read s left =>
    rw [Step.next] at hk
    split at hk
    · exact plain_stepsAll left (h _ hk') k hk
    · cases hk

theorem reach_next {k : Step} (hk : k.Plain) {p : Place} {ch : Char} {rest : List Char} (hp : p.rest = ch :: rest) :
    k.reach p = (if k.isDone then [p] else []) ++ reachSteps (k.next ch.toNat) (p.past [ch]) := by
  cases k with
  | done => rfl
  | read s left =>
    rw [Step.reach, Step.next, reach_set s hp]
    show _ = reachSteps (if s.holds ch then _ else _) _
    split
    · rw [List.flatMap_singleton, reach_stepsAll left hk]
    · rfl

/-- Before a character, steps lead where the next steps after it lead. -/
theorem reachSteps_next {ks : List Step} (hks : ∀ k ∈ ks, k.Plain) (hd : Step.done ∉ ks) {p : Place} {ch : Char}
    {rest : List Char} (hp : p.rest = ch :: rest) :
    reachSteps ks p = reachSteps (nextSteps ch.toNat ks) (p.past [ch]) := by
  rw [reachSteps, reachSteps, nextSteps, List.flatMap_assoc]
  refine List.flatMap_congr fun k hk => ?_
  rw [reach_next (hks k hk) hp]
  cases k with
  | done => exact absurd hk hd
  | read => rfl

theorem mem_reachSteps {ks : List Step} {p q : Place} : q ∈ reachSteps ks p ↔ ∃ k ∈ ks, q ∈ k.reach p :=
  List.mem_flatMap

theorem mem_reachSteps_next {ks : List Step} (hks : ∀ k ∈ ks, k.Plain) {p q : Place} {ch : Char} {rest : List Char}
    (hp : p.rest = ch :: rest) :
    q ∈ reachSteps ks p ↔ (Step.done ∈ ks ∧ q = p) ∨ q ∈ reachSteps (nextSteps ch.toNat ks) (p.past [ch]) := by
  simp only [mem_reachSteps, nextSteps, List.mem_flatMap]
  constructor
  · rintro ⟨k, hk, hq⟩
    rw [reach_next (hks k hk) hp, List.mem_append] at hq
    rcases hq with hq | hq
    · cases k with
      | done => exact Or.inl ⟨hk, List.mem_singleton.1 hq⟩
      | read => cases hq
    · obtain ⟨k', hk', hq⟩ := mem_reachSteps.1 hq
      exact Or.inr ⟨k', ⟨k, hk, hk'⟩, hq⟩
  · rintro (⟨hd, rfl⟩ | ⟨k', ⟨k, hk, hk'⟩, hq⟩)
    · exact ⟨_, hd, List.mem_singleton_self q⟩
    · refine ⟨k, hk, ?_⟩
      rw [reach_next (hks k hk) hp]
      exact List.mem_append_right _ (mem_reachSteps.2 ⟨k', hk', hq⟩)

/-- At the end of the text only a match that ends there is left. -/
theorem reachSteps_of_rest_eq_nil {ks : List Step} {p : Place} (hp : p.rest = []) :
    ∀ q ∈ reachSteps ks p, q = p ∧ Step.done ∈ ks := by
  intro q hq
  obtain ⟨k, hk, hq⟩ := mem_reachSteps.1 hq
  cases k with
  | done => exact ⟨List.mem_singleton.1 hq, hk⟩
  | read s left => rw [Step.reach, reach_set_nil s hp] at hq; cases hq

end TemporalTagger.Regex
