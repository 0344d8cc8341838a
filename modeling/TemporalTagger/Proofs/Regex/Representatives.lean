/-
Finitely many code points stand for all: membership in a set changes at few points only, so of the
code points that lie in the same of some sets one is enough. Main fact: `exists_representative`.
-/
import TemporalTagger.Proofs.Regex.Steps

namespace TemporalTagger.Regex

namespace CharSet

/-- The parts of a class of code points in a set and outside it. A class of one has one part only. -/
def parts (s : CharSet) : List Nat → List (List Nat)
  | [] => []
  | [c] => [[c]]
  | cs => [cs.filter s.mem, cs.filter fun c => !s.mem c]

/-- Classes of code points, split by one set after another. -/
def refine (sets : List CharSet) (classes : List (List Nat)) : List (List Nat) :=
  sets.foldl (fun classes s => classes.flatMap s.parts) classes

/-- A code point of each class that the sets tell apart. -/
def representatives (sets : List CharSet) : List Nat := (refine sets [0 :: sets.flatMap points]).filterMap List.head?

theorem exists_point (sets : List CharSet) (c : Nat) :
    ∃ d ∈ 0 :: sets.flatMap points, ∀ s ∈ sets, s.mem d = s.mem c := by
  induction c with
  | zero => exact ⟨0, List.mem_cons_self, fun _ _ => rfl⟩
  | succ c ih =>
    by_cases hc : c + 1 ∈ sets.flatMap points
    · exact ⟨c + 1, List.mem_cons_of_mem _ hc, fun _ _ => rfl⟩
    · obtain ⟨d, hd, h⟩ := ih
      refine ⟨d, hd, fun s hs => (h s hs).trans (mem_succ fun hp => hc ?_).symm⟩
      exact List.mem_flatMap.2 ⟨s, hs, hp⟩

theorem exists_part (s : CharSet) : ∀ {cs : List Nat} {c : Nat}, c ∈ cs →
    ∃ ds ∈ s.parts cs, c ∈ ds ∧ ∀ d ∈ ds, d ∈ cs ∧ s.mem d = s.mem c
  | [a], c, h => by
    obtain rfl := List.mem_singleton.1 h
    exact ⟨[c], List.mem_singleton_self _, h, fun d hd => ⟨hd, by rw [List.mem_singleton.1 hd]⟩⟩
  | a :: b :: cs, c, h => by
    cases hc : s.mem c with
    | true =>
      refine ⟨_, List.mem_cons_self, List.mem_filter.2 ⟨h, hc⟩, fun d hd => ?_⟩
      exact List.mem_filter.1 hd
    | false =>
      refine ⟨_, List.mem_cons_of_mem _ (List.mem_singleton_self _), List.mem_filter.2 ⟨h, by rw [hc]; rfl⟩, fun d hd => ?_⟩
      exact ⟨(List.mem_filter.1 hd).1, by simpa using (List.mem_filter.1 hd).2⟩

/-- A code point of a class stays in one, and the others there lie in the same sets. -/
theorem exists_class : ∀ (sets : List CharSet) {classes : List (List Nat)} {cs : List Nat} {c : Nat},
    cs ∈ classes → c ∈ cs →
    ∃ ds ∈ refine sets classes, c ∈ ds ∧ ∀ d ∈ ds, d ∈ cs ∧ ∀ s ∈ sets, s.mem d = s.mem c
  | [], _, cs, _, hcs, hc => ⟨cs, hcs, hc, fun d hd => ⟨hd, fun s hs => absurd hs List.not_mem_nil⟩⟩
  | s :: sets, classes, cs, c, hcs, hc => by
    obtain ⟨ds, hds, hcd, hd⟩ := s.exists_part hc
    obtain ⟨es, hes, hce, he⟩ := exists_class sets (List.mem_flatMap.2 ⟨cs, hcs, hds⟩) hcd
    refine ⟨es, hes, hce, fun e h => ?_⟩
    obtain ⟨hed, hsame⟩ := he e h
    exact ⟨(hd e hed).1, List.forall_mem_cons.2 ⟨(hd e hed).2, hsame⟩⟩

theorem exists_representative (sets : List CharSet) (c : Nat) :
    ∃ d ∈ representatives sets, ∀ s ∈ sets, s.mem d = s.mem c := by
  obtain ⟨p, hp, hsame⟩ := exists_point sets c
  obtain ⟨ds, hds, hpd, hd⟩ := exists_class sets (List.mem_singleton_self _) hp
  obtain ⟨d, ds, rfl⟩ := List.exists_cons_of_ne_nil (List.ne_nil_of_mem hpd)
  refine ⟨d, List.mem_filterMap.2 ⟨_, hds, rfl⟩, fun s hs => ?_⟩
  rw [(hd d List.mem_cons_self).2 s hs, hsame s hs]

end CharSet

/-! ## Steps -/

/-- The set of characters that a step reads. -/
def Step.chars? : Step → Option CharSet
  | .done => none
  | .read s _ => some s

/-- Code points that stand for all as the next character. -/
def nextChars (ks : List Step) : List Nat := CharSet.representatives (ks.filterMap Step.chars?).dedup

theorem exists_nextChar (ks : List Step) (c : Nat) :
    ∃ d ∈ nextChars ks, ∀ k ∈ ks, k.next d = k.next c := by
  obtain ⟨d, hd, h⟩ := CharSet.exists_representative (ks.filterMap Step.chars?).dedup c
  refine ⟨d, hd, fun k hk => ?_⟩
  cases k with
  | done => rfl
  | read s left => rw [Step.next, Step.next, h s (List.mem_dedup.2 (List.mem_filterMap.2 ⟨_, hk, rfl⟩))]

theorem nextSteps_congr {ks : List Step} {c d : Nat} (h : ∀ k ∈ ks, k.next c = k.next d) :
    nextSteps c ks = nextSteps d ks := List.flatMap_congr h

end TemporalTagger.Regex
