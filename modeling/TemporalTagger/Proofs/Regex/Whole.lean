/-
When a pattern reports a whole text as one match. If a text can be matched to its end, the first
match starts where the text does and all others after it, so the whole is reported exactly if the
preferred way leads to the end. Main facts: `occursIn_whole_iff` and `exists_whole_match_iff`.
-/
import TemporalTagger.Proofs.Regex.Captures

namespace TemporalTagger.Regex

open Text

/-! ## Sequences -/

/-- The expressions that a sequence puts one after another. -/
def parts : Regex → List Regex
  | empty => []
  | cat r s => r.parts ++ s.parts
  | r => [r]

theorem reachAll_parts : ∀ (r : Regex) (p : Place), reachAll r.parts p = r.reach p
  | empty, _ => rfl
  | cat r s, p => by
    rw [parts, reachAll_append, reachAll_parts r p, reach_cat]
    exact List.flatMap_congr fun q _ => reachAll_parts s q
  | set _, p | look _, p | alt _ _, p | star _ _, p | plus _ _, p | group _ _, p => reachAll_singleton _ p

theorem loopsRead_parts : ∀ r : Regex, r.parts.all loopsRead = r.loopsRead
  | empty => rfl
  | cat r s => by rw [parts, List.all_append, loopsRead_parts r, loopsRead_parts s, loopsRead]
  | set _ | look _ => rfl
  | alt _ _ | star _ _ | plus _ _ | group _ _ => by simp [parts]

/-- An expression is another one between the two ends of the text. -/
def Encloses (whole r : Regex) : Prop := whole.parts = look .textStart :: r.parts ++ [look .textEnd]

instance (whole r : Regex) : Decidable (Encloses whole r) := inferInstanceAs (Decidable (_ = _))

/-- An enclosed expression matches the text from its start to its end. -/
theorem reach_of_encloses {whole r : Regex} (h : Encloses whole r) {p q : Place} :
    q ∈ whole.reach p ↔ p.before = none ∧ q ∈ r.reach p ∧ q.rest = [] := by
  rw [← reachAll_parts, h, List.cons_append, reachAll, reach_look]
  have hstart : p.satisfies .textStart = p.before.isNone := rfl
  have hend : ∀ o : Place, o.satisfies .textEnd = o.rest.head?.isNone := fun o => rfl
  rw [hstart]
  cases hb : p.before with
  | some => simp
  | none =>
    simp only [Option.isNone_none, if_true, List.flatMap_singleton, reachAll_append, reachAll_parts, true_and,
      List.mem_flatMap, reachAll_singleton, reach_look, hend]
    constructor
    · rintro ⟨o, ho, hq⟩
      cases hrest : o.rest with
      | nil =>
        rw [hrest] at hq
        obtain rfl := List.mem_singleton.1 hq
        exact ⟨ho, hrest⟩
      | cons => rw [hrest] at hq; cases hq
    · rintro ⟨hq, hrest⟩
      exact ⟨q, hq, by rw [hrest]; exact List.mem_singleton_self q⟩

end TemporalTagger.Regex

namespace TemporalTagger.Pattern

open Regex Text

variable {source source' : String} {whole r : Regex}

theorem occursIn_whole_iff (h : Encloses whole r) (hr : r.loopsRead = true) (w : String) :
    (ofRegex source whole).occursIn w = true ↔ ∃ q ∈ r.reach (Place.ofText w), q.rest = [] := by
  have hwhole : whole.loopsRead = true := by
    rw [← loopsRead_parts, h, List.all_append, List.all_cons, loopsRead_parts, hr]
    rfl
  rw [occursIn_iff hwhole]
  have hways : ∀ p : Place, whole.ways ⟨p, []⟩ ≠ [] ↔ ∃ q, q ∈ whole.reach p := by
    intro p
    rw [reach]
    cases whole.ways ⟨p, []⟩ <;> simp
  constructor
  · rintro ⟨t, -, ht⟩
    obtain ⟨q, hq⟩ := (hways _).1 ht
    obtain ⟨hbefore, hq, hrest⟩ := (reach_of_encloses h).1 hq
    obtain rfl : t = [] := by simpa [Place.past, Place.ofText] using hbefore
    rw [Place.past_nil] at hq
    exact ⟨q, hq, hrest⟩
  · rintro ⟨q, hq, hrest⟩
    refine ⟨[], List.nil_prefix, (hways _).2 ⟨q, ?_⟩⟩
    rw [Place.past_nil]
    exact (reach_of_encloses h).2 ⟨rfl, hq, hrest⟩

/-! ## The first match and the others -/

theorem group?_zero_of_head {p : Place} {d : Cursor} (hg : 0 ∉ r.groups) (count : Nat)
    (h : ((group 0 r).ways ⟨p, []⟩).head? = some d) :
    ∃ q, (r.reach p).head? = some q ∧ (Match.ofTrail (count + 1) d.trail).group? 0 = some ⟨p.offset, q.offset⟩ := by
  rw [ways, List.head?_map, Option.map_eq_some_iff] at h
  obtain ⟨e, he, rfl⟩ := h
  refine ⟨e.place, ?_, ?_⟩
  · show (r.reach (Cursor.mark (2 * 0) ⟨p, []⟩).place).head? = _
    rw [← reach_eq, List.head?_map, he]
    rfl
  · have hlow := @lookup_ways 0 r hg _ e (List.mem_of_head? he)
    rw [group?_ofTrail (Nat.succ_pos count), Cursor.mark_trail, Nat.mul_zero, Nat.zero_add, List.lookup_cons_self,
      List.lookup_cons, show ((0 : Nat) == 1) = false from rfl, hlow, Cursor.mark_trail, List.lookup_cons_self]
    rfl

theorem MadeAfter.start_le {p : Place} {m : Match} (hg : 0 ∉ r.groups) (h : MadeAfter r p m) :
    ∃ span, m.group? 0 = some span ∧ p.offset ≤ span.start := by
  obtain ⟨t, -, d, hd, rfl⟩ := h
  obtain ⟨q, -, hq⟩ := group?_zero_of_head hg r.maxGroup hd
  exact ⟨_, hq, Nat.le_add_right _ _⟩

theorem offset_lt_advanceTo {p : Place} {stop : Nat} (hrest : p.rest ≠ []) (hlt : p.offset < stop) :
    p.offset < (p.advanceTo stop).offset := by
  obtain ⟨offset, before, _ | ⟨ch, rest⟩⟩ := p
  · exact absurd rfl hrest
  · have hstep : Place.advanceTo ⟨offset, before, ch :: rest⟩ stop =
        Place.advanceTo ⟨offset + ch.utf8Size, some ch, rest⟩ stop := by
      rw [Place.advanceTo, Place.advanceTo.go, if_pos hlt]
      rfl
    obtain ⟨t, -, h⟩ := exists_past_advanceTo ⟨offset + ch.utf8Size, some ch, rest⟩ stop
    have := ch.utf8Size_pos
    rw [hstep, h, Place.past]
    show offset < offset + ch.utf8Size + byteLength t
    omega

/-- A text that can be matched to its end is reported as one match exactly if the preferred way from
its start leads to its end. -/
theorem exists_whole_match_iff (hr : r.loopsRead = true) (hn : r.nullable = false) (hg : 0 ∉ r.groups) {w : String}
    (hsome : ∃ q ∈ r.reach (Place.ofText w), q.rest = []) :
    (∃ m ∈ (ofRegex source r).allMatches w, m.group? 0 = some ⟨0, w.utf8ByteSize⟩) ↔
      ∃ q, (r.reach (Place.ofText w)).head? = some q ∧ q.rest = [] := by
  obtain ⟨q₀, hq₀⟩ : ∃ q₀, (r.reach (Place.ofText w)).head? = some q₀ := by
    obtain ⟨q, hq, -⟩ := hsome
    cases h : r.reach (Place.ofText w) with
    | nil => rw [h] at hq; cases hq
    | cons a as => exact ⟨a, rfl⟩
  obtain ⟨t, ⟨u, hu⟩, rfl, hmatch⟩ := readsTo_of_mem_reach r hr _ _ (List.mem_of_head? hq₀)
  have ht := byteLength_pos (hmatch.ne_nil hn)
  have hw : byteLength t + byteLength u = w.utf8ByteSize := by
    rw [← byteLength_append, hu, ← byteLength_toList]; rfl
  have hrest : ((Place.ofText w).past t).rest = u :=
    List.append_cancel_left ((Place.rest_past_prefix ⟨u, hu⟩).symm.trans hu.symm)
  have hoff : ((Place.ofText w).past t).offset = byteLength t := Nat.zero_add _
  -- the first match is the preferred way from the start of the text
  obtain ⟨d, hd⟩ : ∃ d, ((group 0 r).ways ⟨Place.ofText w, []⟩).head? = some d := by
    have := congrArg List.head? (reach_group 0 r (Place.ofText w))
    rw [reach, List.head?_map, hq₀, Option.map_eq_some_iff] at this
    obtain ⟨d, hd, -⟩ := this
    exact ⟨d, hd⟩
  obtain ⟨q, hq, hgroup⟩ := group?_zero_of_head hg r.maxGroup hd
  obtain rfl := Option.some.inj (hq₀.symm.trans hq)
  rw [hoff] at hgroup
  have hfind : (ofRegex source r).findFrom (Place.ofText w) = some (Match.ofTrail (r.maxGroup + 1) d.trail) := by
    have hpref : r.preferred (Place.ofText w) = some d.trail := by rw [preferred, hd]; rfl
    show (r.program.searchFrom _).map _ = _
    rw [searchFrom_program hr, leftmost_of_preferred hpref]
    rfl
  generalize Match.ofTrail (r.maxGroup + 1) d.trail = m at hgroup hfind
  have hspan : m.span = ⟨0, byteLength t⟩ := by rw [Match.span, hgroup]; rfl
  have hall : (ofRegex source r).allMatches w =
      m :: (ofRegex source r).matchesFrom w.length ((Place.ofText w).advanceTo (byteLength t)) (some (byteLength t)) := by
    rw [allMatches, matchesFrom, hfind]
    simp only [hspan]
    rw [if_neg fun h => by omega]
  have hiff : (∃ q, (r.reach (Place.ofText w)).head? = some q ∧ q.rest = []) ↔ u = [] := by
    rw [hq₀]
    constructor
    · rintro ⟨q, hq, hnil⟩
      obtain rfl := Option.some.inj hq
      rw [← hrest, hnil]
    · rintro rfl
      exact ⟨_, rfl, hrest⟩
  rw [hiff, hall]
  constructor
  · rintro ⟨m', hm', hg'⟩
    rcases List.mem_cons.1 hm' with rfl | hm'
    · have := congrArg Span.stop (Option.some.inj (hgroup.symm.trans hg'))
      simp only at this
      exact byteLength_eq_zero.1 (by omega)
    · obtain ⟨span, hspan', hle⟩ := (madeAfter_of_mem_matchesFrom hr _ _ _ m' hm').start_le hg
      obtain rfl := Option.some.inj (hspan'.symm.trans hg')
      have hne : (Place.ofText w).rest ≠ [] := by
        rw [← hu]
        exact List.append_ne_nil_of_left_ne_nil (hmatch.ne_nil hn) u
      exact absurd (Nat.lt_of_lt_of_le (offset_lt_advanceTo hne ht) hle) (Nat.not_lt_zero _)
  · rintro rfl
    refine ⟨m, List.mem_cons_self, ?_⟩
    rw [hgroup, show byteLength t = w.utf8ByteSize by simpa using hw]
    rfl

end TemporalTagger.Pattern
