/-
What the groups of a match hold. A way writes down only the boundaries of its own groups, and a
group that takes part in every way holds a text that its body matches. Main facts:
`exists_way_of_mem_allMatches` and `exists_capture_of_mem_allMatches`.
-/
import TemporalTagger.Proofs.Regex.Matching
import TemporalTagger.Proofs.Text.Cuts

namespace TemporalTagger.Regex

open Text

/-! ## Boundaries -/

/-- The numbers of the groups, in order. -/
def groups : Regex → List Nat
  | empty | set _ | look _ => []
  | cat r s | alt r s => r.groups ++ s.groups
  | star r _ | plus r _ => r.groups
  | group n r => n :: r.groups

theorem le_maxGroup : ∀ {r : Regex} {n : Nat}, n ∈ r.groups → n ≤ r.maxGroup
  | cat r s, n, h | alt r s, n, h => by
    rcases List.mem_append.1 h with h | h
    · exact (le_maxGroup h).trans (Nat.le_max_left _ _)
    · exact (le_maxGroup h).trans (Nat.le_max_right _ _)
  | star r _, n, h | plus r _, n, h => le_maxGroup (r := r) h
  | group m r, n, h => by
    rcases List.mem_cons.1 h with rfl | h
    · exact Nat.le_max_left _ _
    · exact (le_maxGroup h).trans (Nat.le_max_right _ _)

theorem lookup_rounds {r : Regex} {greedy : Bool} {slot : Nat}
    (ih : ∀ c, ∀ d ∈ r.ways c, d.trail.lookup slot = c.trail.lookup slot) :
    ∀ (fuel : Nat) (c : Cursor), ∀ d ∈ rounds r.ways greedy fuel c, d.trail.lookup slot = c.trail.lookup slot
  | 0, c, d, hd => by rw [List.mem_singleton.1 hd]
  | fuel + 1, c, d, hd => by
    have hd : d = c ∨ ∃ e ∈ r.ways c, d ∈ rounds r.ways greedy fuel e := by
      unfold rounds at hd
      cases greedy <;> simp only [if_true, Bool.false_eq_true, if_false, List.mem_append, List.mem_cons,
        List.mem_flatMap, List.not_mem_nil, or_false, List.mem_ite_nil_right] at hd
      · obtain rfl | ⟨e, he, -, hd⟩ := hd
        · exact Or.inl rfl
        · exact Or.inr ⟨e, he, hd⟩
      · obtain ⟨e, he, -, hd⟩ | rfl := hd
        · exact Or.inr ⟨e, he, hd⟩
        · exact Or.inl rfl
    rcases hd with rfl | ⟨e, he, hd⟩
    · rfl
    · rw [lookup_rounds ih fuel e d hd, ih c e he]

/-- A way leaves the boundaries of groups that are not its own. -/
theorem lookup_ways {slot : Nat} : ∀ (r : Regex), slot / 2 ∉ r.groups → ∀ c, ∀ d ∈ r.ways c,
    d.trail.lookup slot = c.trail.lookup slot
  | empty, _, c, d, hd => by rw [List.mem_singleton.1 hd]
  | set s, _, c, d, hd => by
    obtain ⟨ch, rest, -, -, rfl⟩ := Cursor.mem_read.1 hd
    rfl
  | look l, _, c, d, hd => by
    obtain ⟨-, rfl⟩ : c.place.satisfies l = true ∧ d = c := by simpa [ways] using hd
    rfl
  | cat r s, h, c, d, hd => by
    rw [groups, List.mem_append, not_or] at h
    obtain ⟨e, he, hd⟩ := List.mem_flatMap.1 hd
    rw [lookup_ways s h.2 e d hd, lookup_ways r h.1 c e he]
  | alt r s, h, c, d, hd => by
    rw [groups, List.mem_append, not_or] at h
    rcases List.mem_append.1 hd with hd | hd
    · exact lookup_ways r h.1 c d hd
    · exact lookup_ways s h.2 c d hd
  | star r greedy, h, c, d, hd => lookup_rounds (lookup_ways r h) _ c d hd
  | plus r greedy, h, c, d, hd => by
    obtain ⟨e, he, hd⟩ := List.mem_flatMap.1 hd
    rw [lookup_rounds (lookup_ways r h) _ e d hd, lookup_ways r h c e he]
  | group n r, h, c, d, hd => by
    rw [groups, List.mem_cons, not_or] at h
    obtain ⟨e, he, rfl⟩ := List.mem_map.1 hd
    have hskip : ∀ m o, m / 2 = n → ∀ τ : Trail, List.lookup slot ((m, o) :: τ) = τ.lookup slot := by
      intro m o hm τ
      rw [List.lookup_cons, beq_eq_false_iff_ne.2 fun h' => h.1 (by rw [h', hm])]
    rw [Cursor.mark_trail, hskip _ _ (by omega), lookup_ways r h.2 _ e he, Cursor.mark_trail, hskip _ _ (by omega)]

/-! ## Texts of groups -/

/-- The body of a group that takes part in every way, once and no more. -/
def sureGroup (n : Nat) : Regex → Option Regex
  | cat r s =>
    match sureGroup n s with
    | some body => some body
    | none => if n ∈ s.groups then none else sureGroup n r
  | group m r => if m = n then if n ∈ r.groups then none else some r else sureGroup n r
  | _ => none

/-- A group holds a text that an expression matches, somewhere in what a way has read. -/
def Captures (n : Nat) (body : Regex) (c d : Cursor) : Prop :=
  ∃ u t, u ++ t <+: c.place.rest ∧ d.trail.lookup (2 * n) = some (c.place.offset + byteLength u) ∧
    d.trail.lookup (2 * n + 1) = some (c.place.offset + byteLength (u ++ t)) ∧ body.Matches t

theorem mem_groups_of_sureGroup {n : Nat} {body : Regex} : ∀ {r : Regex}, r.sureGroup n = some body → n ∈ r.groups
  | cat r s, h => by
    rw [sureGroup] at h
    cases hs : s.sureGroup n with
    | some => exact List.mem_append_right _ (mem_groups_of_sureGroup hs)
    | none =>
      simp only [hs] at h
      split at h
      · cases h
      · exact List.mem_append_left _ (mem_groups_of_sureGroup h)
  | group m r, h => by
    rw [sureGroup] at h
    split at h
    next hm => rw [groups, hm]; exact List.mem_cons_self
    next => exact List.mem_cons_of_mem _ (mem_groups_of_sureGroup h)

/-- A group that takes part in every way holds what its body matches. -/
theorem captures_of_sureGroup {n : Nat} {body : Regex} : ∀ (r : Regex), r.loopsRead = true →
    r.sureGroup n = some body → ∀ c, ∀ d ∈ r.ways c, Captures n body c d
  | cat r s, hl, h, c, d, hd => by
    rw [loopsRead, Bool.and_eq_true] at hl
    obtain ⟨e, he, hd⟩ := List.mem_flatMap.1 hd
    rw [sureGroup] at h
    cases hs : s.sureGroup n with
    | some body' =>
      simp only [hs] at h
      obtain rfl := Option.some.inj h
      obtain ⟨x, hx⟩ := ways_reads he
      obtain ⟨u, t, hut, h₁, h₂, hm⟩ := captures_of_sureGroup s hl.2 hs e d hd
      have hoff : e.place.offset = c.place.offset + byteLength x := by rw [hx.place]; rfl
      refine ⟨x ++ u, t, ?_, ?_, ?_, hm⟩
      · rw [hx.rest, List.append_assoc]
        exact (List.prefix_append_right_inj x).2 hut
      · rw [h₁, hoff, byteLength_append, Nat.add_assoc]
      · rw [h₂, hoff, List.append_assoc, byteLength_append x, Nat.add_assoc]
    | none =>
      simp only [hs] at h
      split at h
      · cases h
      next hn =>
        obtain ⟨u, t, hut, h₁, h₂, hm⟩ := captures_of_sureGroup r hl.1 h c e he
        refine ⟨u, t, hut, ?_, ?_, hm⟩
        · rw [lookup_ways s (by rwa [show 2 * n / 2 = n by omega]) e d hd, h₁]
        · rw [lookup_ways s (by rwa [show (2 * n + 1) / 2 = n by omega]) e d hd, h₂]
  | group m r, hl, h, c, d, hd => by
    rw [loopsRead] at hl
    obtain ⟨e, he, rfl⟩ := List.mem_map.1 hd
    rw [sureGroup] at h
    have hskip : ∀ k o l (τ : Trail), l ≠ k → List.lookup l ((k, o) :: τ) = τ.lookup l := by
      intro k o l τ hkl
      rw [List.lookup_cons, beq_eq_false_iff_ne.2 hkl]
    split at h
    next hm =>
      subst hm
      split at h
      · cases h
      next hn =>
        obtain rfl := Option.some.inj h
        have hreach : e.place ∈ r.reach c.place := by
          rw [← Cursor.mark_place (2 * m) c, ← reach_eq]
          exact List.mem_map_of_mem he
        obtain ⟨t, ht, hplace, hm⟩ := readsTo_of_mem_reach r hl _ _ hreach
        refine ⟨[], t, ht, ?_, ?_, hm⟩
        · rw [Cursor.mark_trail, hskip _ _ _ _ (by omega),
            lookup_ways r (by rwa [show 2 * m / 2 = m by omega]) _ e he, Cursor.mark_trail, List.lookup_cons_self]
          rfl
        · rw [Cursor.mark_trail, List.lookup_cons_self, hplace]
          rfl
    next hm =>
      obtain ⟨u, t, hut, h₁, h₂, hmt⟩ := captures_of_sureGroup r hl h _ e he
      refine ⟨u, t, hut, ?_, ?_, hmt⟩
      · rw [Cursor.mark_trail, hskip _ _ _ _ (by omega), h₁]; rfl
      · rw [Cursor.mark_trail, hskip _ _ _ _ (by omega), h₂]; rfl

/-! ## Matches of a pattern -/

theorem exists_way_of_leftmost {r : Regex} {p : Place} {τ : Trail} (h : r.leftmost p = some τ) :
    ∃ t, t <+: p.rest ∧ ∃ d, ((group 0 r).ways ⟨p.past t, []⟩).head? = some d ∧ d.trail = τ := by
  obtain ⟨q, hq, hτ⟩ := List.exists_of_findSome?_eq_some h
  obtain ⟨t, ht, rfl⟩ := List.mem_map.1 hq
  obtain ⟨d, hd, rfl⟩ := Option.map_eq_some_iff.1 hτ
  exact ⟨t, (List.mem_inits ..).1 ht, d, hd, rfl⟩

theorem exists_past_advanceTo (p : Place) (stop : Nat) : ∃ t, t <+: p.rest ∧ p.advanceTo stop = p.past t := by
  obtain ⟨offset, before, rest⟩ := p
  show ∃ t, t <+: rest ∧ Place.advanceTo.go stop offset before rest = _
  induction rest generalizing offset before with
  | nil => exact ⟨[], List.nil_prefix, (Place.past_nil _).symm⟩
  | cons ch rest ih =>
    rw [Place.advanceTo.go]
    split
    · obtain ⟨t, ht, h⟩ := ih (offset + ch.utf8Size) (some ch)
      refine ⟨ch :: t, (List.prefix_append_right_inj [ch]).2 ht, ?_⟩
      rw [h, ← Place.past_singleton (p := ⟨offset, before, ch :: rest⟩) rfl, Place.past_past]
      rfl
    · exact ⟨[], List.nil_prefix, (Place.past_nil _).symm⟩

end TemporalTagger.Regex

namespace TemporalTagger.Pattern

open Regex Text

variable {source : String} {r : Regex}

/-- A match is the preferred way from some place of those after a given one. -/
def MadeAfter (r : Regex) (p : Place) (m : Match) : Prop :=
  ∃ t, t <+: p.rest ∧ ∃ d, ((group 0 r).ways ⟨p.past t, []⟩).head? = some d ∧
    m = Match.ofTrail (r.maxGroup + 1) d.trail

theorem MadeAfter.of_past {p : Place} {t : List Char} (ht : t <+: p.rest) {m : Match}
    (h : MadeAfter r (p.past t) m) : MadeAfter r p m := by
  obtain ⟨u, hu, d, hd, rfl⟩ := h
  exact ⟨t ++ u, prefix_append ht hu, d, by rwa [← Place.past_past], rfl⟩

theorem madeAfter_of_findFrom (hr : r.loopsRead = true) {p : Place} {m : Match}
    (h : (ofRegex source r).findFrom p = some m) : MadeAfter r p m := by
  obtain ⟨τ, hτ, rfl⟩ := Option.map_eq_some_iff.1 h
  obtain ⟨t, ht, d, hd, rfl⟩ := exists_way_of_leftmost ((searchFrom_program hr p).symm.trans hτ)
  exact ⟨t, ht, d, hd, rfl⟩

theorem madeAfter_of_mem_matchesFrom (hr : r.loopsRead = true) : ∀ (fuel : Nat) (p : Place) (last : Option Nat),
    ∀ m ∈ (ofRegex source r).matchesFrom fuel p last, MadeAfter r p m
  | 0, _, _, _, hm => by cases hm
  | fuel + 1, p, last, m, hm => by
    have goOn : ∀ m', MadeAfter r p m' →
        m ∈ m' :: (ofRegex source r).matchesFrom fuel (p.advanceTo m'.span.stop) (some m'.span.stop) →
        MadeAfter r p m := by
      intro m' hm' h
      rcases List.mem_cons.1 h with rfl | h
      · exact hm'
      · obtain ⟨t, ht, hadv⟩ := exists_past_advanceTo p m'.span.stop
        rw [hadv] at h
        exact (madeAfter_of_mem_matchesFrom hr fuel _ _ m h).of_past ht
    rw [matchesFrom] at hm
    split at hm
    · cases hm
    next m' hm' =>
      dsimp only at hm
      split at hm
      · split at hm
        · cases hm
        next m'' hm'' =>
          obtain ⟨q, hq, hm''⟩ := Option.bind_eq_some_iff.1 hm''
          cases hrest : p.rest with
          | nil => rw [Place.next?, hrest] at hq; cases hq
          | cons ch rest =>
            rw [Place.next?, hrest] at hq
            obtain rfl := (Place.past_singleton hrest).trans (Option.some.inj hq)
            have hch : [ch] <+: p.rest := ⟨rest, hrest.symm⟩
            exact goOn m'' ((madeAfter_of_findFrom hr hm'').of_past hch) hm
      · exact goOn m' (madeAfter_of_findFrom hr hm') hm

theorem group?_ofTrail {count n : Nat} (hn : n < count) (τ : Trail) :
    (Match.ofTrail count τ).group? n =
      (τ.lookup (2 * n)).bind fun a => (τ.lookup (2 * n + 1)).map (Span.mk a) := by
  simp only [Match.group?, Match.ofTrail, List.getElem?_map, List.getElem?_range hn, Option.map_some, Option.join_some]
  cases τ.lookup (2 * n) with
  | none => rfl
  | some => cases τ.lookup (2 * n + 1) <;> rfl

/-- What a group of a match holds, if it takes part in every way: a text that its body matches. -/
theorem exists_capture_of_mem_allMatches (hr : r.loopsRead = true) {n : Nat} (hn : n ≠ 0) {body : Regex}
    (hbody : r.sureGroup n = some body) {text : String} {m : Match} (hm : m ∈ (ofRegex source r).allMatches text) :
    ∃ t, (m.group? n).bind (slice? text) = some (String.ofList t) ∧ body.Matches t := by
  obtain ⟨t, ht, d, hd, rfl⟩ := madeAfter_of_mem_matchesFrom hr _ _ _ m hm
  have hsure : (group 0 r).sureGroup n = some body := by rw [sureGroup, if_neg hn.symm, hbody]
  obtain ⟨u, v, huv, h₁, h₂, hmatch⟩ := captures_of_sureGroup (group 0 r) hr hsure _ d (List.mem_of_head? hd)
  obtain ⟨w, hw⟩ := huv
  have htext : text = String.ofList (t ++ u ++ v ++ w) := by
    rw [← String.ofList_toList (s := text), show text.toList = t ++ _ from Place.rest_past_prefix ht, ← hw]
    simp only [List.append_assoc]
  refine ⟨v, ?_, hmatch⟩
  rw [group?_ofTrail (Nat.lt_succ_of_le (le_maxGroup (mem_groups_of_sureGroup hbody))), h₁, h₂]
  have hoff : ((Place.ofText text).past t).offset = byteLength t := Nat.zero_add _
  show slice? text _ = _
  rw [hoff, ← byteLength_append, ← byteLength_append, ← List.append_assoc, htext, slice?_ofList]

end TemporalTagger.Pattern
