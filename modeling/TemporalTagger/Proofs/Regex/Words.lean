/-
The texts that an expression matches, laid out as words: sequences of single characters of sets and
runs of such characters. Expressions that repeat more than one set have none. Main facts:
`exists_word_of_matches`, and `holds_of_avoids` for what the characters of the texts cannot be.
-/
import TemporalTagger.Proofs.Regex.Matching

namespace TemporalTagger.Regex

/-! ## Sets -/

namespace CharSet

/-- The code points of a set that is put together from ranges. -/
def members? : CharSet → Option (List Nat)
  | range lo hi => some (List.range' lo (hi + 1 - lo))
  | within [] => some []
  | union a b => do some ((← a.members?) ++ (← b.members?))
  | _ => none

theorem mem_members : ∀ {s : CharSet} {cs : List Nat}, s.members? = some cs → ∀ {c : Nat}, s.mem c = true → c ∈ cs
  | range lo hi, cs, h, c, hc => by
    obtain rfl := Option.some.inj h
    simp only [mem_range, Bool.and_eq_true, decide_eq_true_eq] at hc
    rw [List.mem_range'_1]
    omega
  | within [], _, _, _, hc => by cases hc
  | union a b, cs, h, c, hc => by
    obtain ⟨as, ha, h⟩ := Option.bind_eq_some_iff.1 h
    obtain ⟨bs, hb, h⟩ := Option.bind_eq_some_iff.1 h
    obtain rfl := Option.some.inj h
    rw [mem_union, Bool.or_eq_true] at hc
    exact List.mem_append.2 (hc.imp (mem_members ha) (mem_members hb))
  | within (_ :: _), _, h, _, _ | inter _ _, _, h, _, _ | compl _, _, h, _, _ | folded _, _, h, _, _ => by cases h

/-- Whether two sets have no code point in common. -/
def disjoint (a b : CharSet) : Bool := (inter a b).alike empty

theorem holds_of_disjoint {a b : CharSet} (h : a.disjoint b = true) {c : Char} (hc : a.holds c = true) :
    b.holds c = false := by
  have := mem_eq_of_alike h c.toNat
  rw [mem_inter, mem_empty, show a.mem c.toNat = true from hc, Bool.true_and] at this
  exact this

end CharSet

/-! ## Characters -/

/-- The sets that the characters of a match are taken from. -/
def sets : Regex → List CharSet
  | empty | look _ => []
  | set s => [s]
  | cat r s | alt r s => r.sets ++ s.sets
  | star r _ | plus r _ | group _ r => r.sets

/-- Whether no match holds a character of a set. -/
def avoids (r : Regex) (s : CharSet) : Bool := r.sets.all (·.disjoint s)

theorem exists_set_of_matches {r : Regex} {t : List Char} (h : r.Matches t) :
    ∀ c ∈ t, ∃ s ∈ r.sets, s.holds c = true := by
  induction h with
  | empty | look | none => exact fun c hc => absurd hc List.not_mem_nil
  | @set s ch hs => exact fun c hc => ⟨s, List.mem_singleton_self s, List.mem_singleton.1 hc ▸ hs⟩
  | cat _ _ ihr ihs =>
    intro c hc
    rcases List.mem_append.1 hc with hc | hc
    · obtain ⟨s, hs, h⟩ := ihr c hc
      exact ⟨s, List.mem_append_left _ hs, h⟩
    · obtain ⟨s, hs, h⟩ := ihs c hc
      exact ⟨s, List.mem_append_right _ hs, h⟩
  | left _ ih =>
    intro c hc
    obtain ⟨s, hs, h⟩ := ih c hc
    exact ⟨s, List.mem_append_left _ hs, h⟩
  | right _ ih =>
    intro c hc
    obtain ⟨s, hs, h⟩ := ih c hc
    exact ⟨s, List.mem_append_right _ hs, h⟩
  | more _ _ ihr ihs | plus _ _ ihr ihs => exact fun c hc => (List.mem_append.1 hc).elim (ihr c) (ihs c)
  | group _ ih => exact ih

theorem holds_of_avoids {r : Regex} {s : CharSet} (h : r.avoids s = true) {t : List Char} (ht : r.Matches t)
    {c : Char} (hc : c ∈ t) : s.holds c = false := by
  obtain ⟨a, ha, hac⟩ := exists_set_of_matches ht c hc
  exact CharSet.holds_of_disjoint (List.all_eq_true.1 h a ha) hac

/-! ## Words -/

/-- A part of a word: one character of a set, or a run of them. -/
inductive Item
  | one (s : CharSet)
  | run (s : CharSet)
  deriving DecidableEq

/-- A word spells a text. -/
inductive Spells : List Item → List Char → Prop
  | nil : Spells [] []
  | one {s : CharSet} {w : List Item} {c : Char} {t : List Char} (h : s.holds c = true) (hw : Spells w t) :
    Spells (.one s :: w) (c :: t)
  | run {s : CharSet} {w : List Item} {u t : List Char} (hu : u ≠ []) (h : ∀ c ∈ u, s.holds c = true)
    (hw : Spells w t) : Spells (.run s :: w) (u ++ t)

theorem Spells.append {v w : List Item} {t u : List Char} (hv : Spells v t) (hw : Spells w u) :
    Spells (v ++ w) (t ++ u) := by
  induction hv with
  | nil => exact hw
  | one h _ ih => exact .one h ih
  | run hu h _ ih => rw [List.append_assoc]; exact .run hu h ih

/-- The words of an expression that repeats nothing but characters of a set. -/
def words : Regex → Option (List (List Item))
  | empty => some [[]]
  | set s => some [[.one s]]
  | cat r s => do
    let vs ← r.words
    let ws ← s.words
    some (vs.flatMap fun v => ws.map (v ++ ·))
  | alt r s => do some ((← r.words) ++ (← s.words))
  | group _ r => r.words
  | plus (set s) _ => some [[.run s]]
  | look _ | star _ _ | plus _ _ => none

theorem holds_of_matches_star {s : CharSet} {greedy : Bool} {t : List Char} (h : (star (set s) greedy).Matches t) :
    ∀ c ∈ t, s.holds c = true := by
  intro c hc
  obtain ⟨a, ha, hac⟩ := exists_set_of_matches h c hc
  obtain rfl := List.mem_singleton.1 ha
  exact hac

/-- Each match is spelled by a word. -/
theorem exists_word_of_matches : ∀ {r : Regex} {ws : List (List Item)}, r.words = some ws →
    ∀ {t : List Char}, r.Matches t → ∃ w ∈ ws, Spells w t
  | empty, _, h, _, .empty => ⟨[], by rw [← Option.some.inj h]; exact List.mem_singleton_self _, .nil⟩
  | set s, _, h, _, .set hs => ⟨_, by rw [← Option.some.inj h]; exact List.mem_singleton_self _, .one hs .nil⟩
  | cat r s, ws, h, _, .cat hr hs => by
    obtain ⟨us, hus, h⟩ := Option.bind_eq_some_iff.1 h
    obtain ⟨vs, hvs, h⟩ := Option.bind_eq_some_iff.1 h
    obtain rfl := Option.some.inj h
    obtain ⟨u, hu, hsu⟩ := exists_word_of_matches hus hr
    obtain ⟨v, hv, hsv⟩ := exists_word_of_matches hvs hs
    exact ⟨u ++ v, List.mem_flatMap.2 ⟨u, hu, List.mem_map_of_mem hv⟩, hsu.append hsv⟩
  | alt r s, ws, h, _, hm => by
    obtain ⟨us, hus, h⟩ := Option.bind_eq_some_iff.1 h
    obtain ⟨vs, hvs, h⟩ := Option.bind_eq_some_iff.1 h
    obtain rfl := Option.some.inj h
    cases hm with
    | left hm =>
      obtain ⟨u, hu, hs⟩ := exists_word_of_matches hus hm
      exact ⟨u, List.mem_append_left _ hu, hs⟩
    | right hm =>
      obtain ⟨v, hv, hs⟩ := exists_word_of_matches hvs hm
      exact ⟨v, List.mem_append_right _ hv, hs⟩
  | group _ r, _, h, _, .group hm => exists_word_of_matches (r := r) h hm
  | plus (set s) _, _, h, _, .plus (.set hs) hstar => by
    refine ⟨_, by rw [← Option.some.inj h]; exact List.mem_singleton_self _, ?_⟩
    rw [← List.append_nil (_ ++ _)]
    refine .run (List.append_ne_nil_of_left_ne_nil (List.cons_ne_nil _ _) _) (fun c hc => ?_) .nil
    rcases List.mem_append.1 hc with hc | hc
    · rwa [List.mem_singleton.1 hc]
    · exact holds_of_matches_star hstar c hc

end TemporalTagger.Regex
