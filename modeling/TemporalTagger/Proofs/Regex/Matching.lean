/-
Which texts an expression matches, as a relation that says nothing of preference, and that its ways
read just these. Main fact: `mem_reach_iff`.
-/
import TemporalTagger.Proofs.Regex.Endings

namespace TemporalTagger.Regex

/-- An expression matches a text, where it stands in the right place for what is looked at. -/
inductive Matches : Regex → List Char → Prop
  | empty : Matches empty []
  | set {s : CharSet} {ch : Char} (h : s.holds ch = true) : Matches (set s) [ch]
  | look {l : Look} : Matches (look l) []
  | cat {r s : Regex} {t u : List Char} (hr : Matches r t) (hs : Matches s u) : Matches (cat r s) (t ++ u)
  | left {r s : Regex} {t : List Char} (h : Matches r t) : Matches (alt r s) t
  | right {r s : Regex} {t : List Char} (h : Matches s t) : Matches (alt r s) t
  | none {r : Regex} {greedy : Bool} : Matches (star r greedy) []
  | more {r : Regex} {greedy : Bool} {t u : List Char} (hr : Matches r t) (hs : Matches (star r greedy) u) :
    Matches (star r greedy) (t ++ u)
  | plus {r : Regex} {greedy : Bool} {t u : List Char} (hr : Matches r t) (hs : Matches (star r greedy) u) :
    Matches (plus r greedy) (t ++ u)
  | group {n : Nat} {r : Regex} {t : List Char} (h : Matches r t) : Matches (group n r) t

theorem Matches.ne_nil {r : Regex} {t : List Char} (h : r.Matches t) (hr : r.nullable = false) : t ≠ [] := by
  induction h with
  | empty | look | none | more => cases hr
  | set => exact List.cons_ne_nil _ _
  | cat _ _ ihr ihs =>
    rw [nullable, Bool.and_eq_false_iff] at hr
    rcases hr with hr | hr
    · exact List.append_ne_nil_of_left_ne_nil (ihr hr) _
    · exact List.append_ne_nil_of_right_ne_nil _ (ihs hr)
  | left _ ih => rw [nullable, Bool.or_eq_false_iff] at hr; exact ih hr.1
  | right _ ih => rw [nullable, Bool.or_eq_false_iff] at hr; exact ih hr.2
  | plus _ _ ihr _ => exact List.append_ne_nil_of_left_ne_nil (ihr hr) _
  | group _ ih => exact ih hr

/-- A place is reached by reading a text that an expression matches. -/
def ReadsTo (r : Regex) (p q : Place) : Prop := ∃ t, t <+: p.rest ∧ q = p.past t ∧ r.Matches t

theorem prefix_append {p : Place} {t u : List Char} (ht : t <+: p.rest) (hu : u <+: (p.past t).rest) :
    t ++ u <+: p.rest := by
  rw [Place.rest_past_prefix ht]
  exact (List.prefix_append_right_inj t).2 hu

theorem prefix_of_append {p : Place} {t u : List Char} (h : t ++ u <+: p.rest) :
    t <+: p.rest ∧ u <+: (p.past t).rest := by
  have ht := (List.prefix_append t u).trans h
  refine ⟨ht, ?_⟩
  rwa [Place.rest_past_prefix ht, List.prefix_append_right_inj] at h

theorem ReadsTo.trans {r s rs : Regex} (h : ∀ t u, r.Matches t → s.Matches u → rs.Matches (t ++ u))
    {p q o : Place} (hr : r.ReadsTo p q) (hs : s.ReadsTo q o) : rs.ReadsTo p o := by
  obtain ⟨t, ht, rfl, hr⟩ := hr
  obtain ⟨u, hu, rfl, hs⟩ := hs
  exact ⟨t ++ u, prefix_append ht hu, Place.past_past p t u, h t u hr hs⟩

theorem readsTo_star {r : Regex} {greedy : Bool} (hr : r.nullable = false)
    (ih : ∀ p, ∀ q ∈ r.reach p, r.ReadsTo p q) :
    ∀ (n : Nat) (p : Place), p.rest.length = n → ∀ q ∈ (star r greedy).reach p, (star r greedy).ReadsTo p q := by
  intro n
  induction n using Nat.strong_induction_on with
  | _ n ihn =>
    rintro p rfl q hq
    have hq : q = p ∨ ∃ e ∈ r.reach p, q ∈ (star r greedy).reach e := by
      rw [reach_star hr] at hq
      cases greedy <;> simpa [or_comm] using hq
    rcases hq with rfl | ⟨e, he, hq⟩
    · exact ⟨[], List.nil_prefix, (Place.past_nil q).symm, .none⟩
    · have hre := ih p e he
      refine hre.trans (fun _ _ => .more) (ihn _ ?_ e rfl q hq)
      obtain ⟨t, ht, rfl, hm⟩ := hre
      rw [Place.rest_past_prefix ht, List.length_append]
      have := List.length_pos_of_ne_nil (hm.ne_nil hr)
      omega

/-- What an expression reads it matches. -/
theorem readsTo_of_mem_reach : ∀ (r : Regex), r.loopsRead = true → ∀ (p : Place), ∀ q ∈ r.reach p, r.ReadsTo p q
  | empty, _, p, q, hq => by
    obtain rfl := List.mem_singleton.1 hq
    exact ⟨[], List.nil_prefix, (Place.past_nil q).symm, .empty⟩
  | set s, _, p, q, hq => by
    cases hp : p.rest with
    | nil => rw [reach_set_nil s hp] at hq; cases hq
    | cons ch rest =>
      rw [reach_set s hp] at hq
      split at hq
      next hs => exact ⟨[ch], ⟨rest, hp.symm⟩, List.mem_singleton.1 hq, .set hs⟩
      next => cases hq
  | look l, _, p, q, hq => by
    rw [reach_look] at hq
    split at hq
    · obtain rfl := List.mem_singleton.1 hq
      exact ⟨[], List.nil_prefix, (Place.past_nil q).symm, .look⟩
    · cases hq
  | cat r s, h, p, q, hq => by
    rw [loopsRead, Bool.and_eq_true] at h
    rw [reach_cat] at hq
    obtain ⟨e, he, hq⟩ := List.mem_flatMap.1 hq
    exact (readsTo_of_mem_reach r h.1 p e he).trans (fun _ _ => .cat) (readsTo_of_mem_reach s h.2 e q hq)
  | alt r s, h, p, q, hq => by
    rw [loopsRead, Bool.and_eq_true] at h
    rw [reach_alt] at hq
    rcases List.mem_append.1 hq with hq | hq
    · obtain ⟨t, ht, he, hm⟩ := readsTo_of_mem_reach r h.1 p q hq
      exact ⟨t, ht, he, .left hm⟩
    · obtain ⟨t, ht, he, hm⟩ := readsTo_of_mem_reach s h.2 p q hq
      exact ⟨t, ht, he, .right hm⟩
  | star r greedy, h, p, q, hq => by
    rw [loopsRead, Bool.and_eq_true, Bool.not_eq_true'] at h
    exact readsTo_star h.1 (fun p => readsTo_of_mem_reach r h.2 p) _ p rfl q hq
  | plus r greedy, h, p, q, hq => by
    rw [loopsRead, Bool.and_eq_true, Bool.not_eq_true'] at h
    rw [reach_plus] at hq
    obtain ⟨e, he, hq⟩ := List.mem_flatMap.1 hq
    have ih : ∀ p, ∀ q ∈ r.reach p, r.ReadsTo p q := fun p => readsTo_of_mem_reach r h.2 p
    exact (ih p e he).trans (fun _ _ => .plus) (readsTo_star h.1 ih _ e rfl q hq)
  | group n r, h, p, q, hq => by
    rw [reach_group] at hq
    obtain ⟨t, ht, he, hm⟩ := readsTo_of_mem_reach r h p q hq
    exact ⟨t, ht, he, .group hm⟩

/-- What an expression matches it reads, if it looks at nothing else. -/
theorem mem_reach_of_matches {r : Regex} {t : List Char} (hm : r.Matches t) :
    r.plain = true → ∀ {p : Place}, t <+: p.rest → p.past t ∈ r.reach p := by
  induction hm with
  | empty => intro _ p _; rw [Place.past_nil]; exact List.mem_singleton_self p
  | @set s ch hs =>
    rintro _ p ⟨rest, hp⟩
    rw [reach_set s hp.symm, if_pos hs]
    exact List.mem_singleton_self _
  | look => intro h; simp [plain, lookFree] at h
  | cat _ _ ihr ihs =>
    intro h p ht
    simp only [plain, lookFree, loopsRead, Bool.and_eq_true] at h
    obtain ⟨ht, hu⟩ := prefix_of_append ht
    rw [reach_cat, ← Place.past_past]
    exact List.mem_flatMap.2 ⟨_, ihr (by simp [plain, h]) ht, ihs (by simp [plain, h]) hu⟩
  | left _ ih =>
    intro h p ht
    simp only [plain, lookFree, loopsRead, Bool.and_eq_true] at h
    rw [reach_alt]
    exact List.mem_append_left _ (ih (by simp [plain, h]) ht)
  | right _ ih =>
    intro h p ht
    simp only [plain, lookFree, loopsRead, Bool.and_eq_true] at h
    rw [reach_alt]
    exact List.mem_append_right _ (ih (by simp [plain, h]) ht)
  | @none r greedy =>
    intro h p _
    simp only [plain, loopsRead, Bool.and_eq_true, Bool.not_eq_true'] at h
    rw [Place.past_nil, reach_star h.2.1]
    cases greedy <;> simp
  | @more r greedy t u _ _ ihr ihs =>
    intro h p ht
    have h' := h
    simp only [plain, lookFree, loopsRead, Bool.and_eq_true, Bool.not_eq_true'] at h'
    obtain ⟨ht, hu⟩ := prefix_of_append ht
    have hmore : (p.past t).past u ∈ (r.reach p).flatMap (star r greedy).reach :=
      List.mem_flatMap.2 ⟨_, ihr (by simp [plain, h']) ht, ihs h hu⟩
    rw [reach_star h'.2.1, ← Place.past_past]
    cases greedy <;> simp [hmore]
  | plus _ _ ihr ihs =>
    intro h p ht
    have h' := h
    simp only [plain, lookFree, loopsRead, Bool.and_eq_true, Bool.not_eq_true'] at h'
    obtain ⟨ht, hu⟩ := prefix_of_append ht
    rw [reach_plus, ← Place.past_past]
    exact List.mem_flatMap.2
      ⟨_, ihr (by simp [plain, h']) ht, ihs (by simpa [plain, lookFree, loopsRead] using h) hu⟩
  | group _ ih =>
    intro h p ht
    rw [reach_group]
    exact ih h ht

/-- The places reached are those behind a text that is matched. -/
theorem mem_reach_iff {r : Regex} (hr : r.plain = true) {p q : Place} : q ∈ r.reach p ↔ r.ReadsTo p q := by
  constructor
  · rw [plain, Bool.and_eq_true] at hr
    exact readsTo_of_mem_reach r hr.2 p q
  · rintro ⟨t, ht, rfl, hm⟩
    exact mem_reach_of_matches hm hr ht

end TemporalTagger.Regex
