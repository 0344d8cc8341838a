/-
The texts of a word as they enter a template, with each run of whitespace written as one space.
Main facts: `collapse_mem_texts` and `matches_collapse`.
-/
import TemporalTagger.Proofs.Regex.Inclusion
import TemporalTagger.Proofs.Regex.Words
import TemporalTagger.Proofs.Template
import TemporalTagger.Proofs.Values.Shapes

namespace TemporalTagger

open Unicode Template

namespace Template

theorem collapse_of_ne : ∀ (b : Bool) {t : List Char}, (∀ c ∈ t, isSpace c = false) → collapse b t = t
  | _, [], _ => rfl
  | b, c :: t, h => by
    obtain ⟨hc, h⟩ := List.forall_mem_cons.1 h
    rw [collapse, hc, if_neg Bool.false_ne_true, collapse_of_ne false h]

theorem collapse_append : ∀ (b : Bool) {u : List Char}, u ≠ [] → (∀ c ∈ u, isSpace c = true) → ∀ t : List Char,
    collapse b (u ++ t) = if b then collapse true t else ' ' :: collapse true t
  | _, [], hne, _, _ => absurd rfl hne
  | b, [c], _, h, t => by
    rw [List.singleton_append, collapse, if_pos (h c (List.mem_singleton_self c))]
  | b, c :: d :: u, _, h, t => by
    obtain ⟨hc, h⟩ := List.forall_mem_cons.1 h
    rw [List.cons_append, collapse, if_pos hc, collapse_append true (List.cons_ne_nil d u) h t, if_pos rfl]

theorem mem_collapse_of_ne {c : Char} (hc : isSpace c = false) : ∀ (b : Bool) {t : List Char}, c ∈ t → c ∈ collapse b t
  | b, d :: t, h => by
    rw [collapse]
    rcases List.mem_cons.1 h with rfl | h
    · rw [hc, if_neg Bool.false_ne_true]
      exact List.mem_cons_self
    · split
      · split
        · exact mem_collapse_of_ne hc true h
        · exact List.mem_cons_of_mem _ (mem_collapse_of_ne hc true h)
      · exact List.mem_cons_of_mem _ (mem_collapse_of_ne hc false h)

theorem mem_of_mem_collapse : ∀ (b : Bool) {t : List Char} {c : Char}, c ∈ collapse b t → c = ' ' ∨ c ∈ t
  | b, d :: t, c, h => by
    rw [collapse] at h
    split at h
    · split at h
      · exact (mem_of_mem_collapse true h).imp_right (List.mem_cons_of_mem _)
      · rcases List.mem_cons.1 h with rfl | h
        · exact Or.inl rfl
        · exact (mem_of_mem_collapse true h).imp_right (List.mem_cons_of_mem _)
    · rcases List.mem_cons.1 h with rfl | h
      · exact Or.inr List.mem_cons_self
      · exact (mem_of_mem_collapse false h).imp_right (List.mem_cons_of_mem _)

end Template

namespace Regex

/-- Whether all characters of a set but the separator are whitespace. -/
def isBlank (s : CharSet) : Bool := (s.diff (.union (.single DateValue.separator) .space)).alike .empty

theorem isSpace_of_isBlank {s : CharSet} (h : isBlank s = true) {c : Char} (hc : s.holds c = true)
    (hne : c ≠ DateValue.separator) : isSpace c = true := by
  have := CharSet.mem_eq_of_alike h c.toNat
  rw [CharSet.diff, CharSet.mem_inter, CharSet.mem_compl, CharSet.mem_union, CharSet.mem_empty,
    show s.mem c.toNat = true from hc, Bool.true_and, Bool.not_eq_false', Bool.or_eq_true] at this
  exact this.resolve_left fun h => hne (CharSet.holds_single_iff.1 h)

/-- The texts that a word spells without a separator, as they enter a template. `inRun` says that a run
has begun. Words have none if they hold whitespace other than in runs. -/
def texts : (inRun : Bool) → List Item → Option (List (List Char))
  | _, [] => some [[]]
  | _, .one s :: w => do
    let codes ← s.members?
    let ts ← texts false w
    if codes.any fun code => isSpace (Char.ofNat code) then none
    else some (codes.flatMap fun code => ts.map (Char.ofNat code :: ·))
  | inRun, .run s :: w => do
    let ts ← texts true w
    if isBlank s then some (if inRun then ts else ts.map (' ' :: ·)) else none

theorem collapse_mem_texts {w : List Item} {t : List Char} (h : Spells w t) : ∀ {b : Bool} {ts : List (List Char)},
    texts b w = some ts → DateValue.separator ∉ t → collapse b t ∈ ts := by
  induction h with
  | nil =>
    rintro b ts h -
    rw [← Option.some.inj h]
    exact List.mem_singleton_self _
  | @one s w c t hc _ ih =>
    intro b ts h hsep
    obtain ⟨codes, hcodes, h⟩ := Option.bind_eq_some_iff.1 h
    obtain ⟨us, hus, h⟩ := Option.bind_eq_some_iff.1 h
    split at h
    · cases h
    next hspace =>
      obtain rfl := Option.some.inj h
      have hmem := CharSet.mem_members hcodes hc
      have hno : isSpace c = false := by
        rw [Bool.not_eq_true, List.any_eq_false] at hspace
        simpa using hspace _ hmem
      rw [collapse, hno, if_neg Bool.false_ne_true]
      refine List.mem_flatMap.2 ⟨_, hmem, ?_⟩
      rw [Char.ofNat_toNat]
      exact List.mem_map_of_mem (ih hus fun h => hsep (List.mem_cons_of_mem _ h))
  | @run s w u t hu hc _ ih =>
    intro b ts h hsep
    obtain ⟨us, hus, h⟩ := Option.bind_eq_some_iff.1 h
    split at h
    next hblank =>
      obtain rfl := Option.some.inj h
      rw [List.mem_append, not_or] at hsep
      have hspace : ∀ c ∈ u, isSpace c = true := fun c h =>
        isSpace_of_isBlank hblank (hc c h) fun h' => hsep.1 (h' ▸ h)
      have := ih hus hsep.2
      rw [collapse_append b hu hspace]
      cases b with
      | true => exact this
      | false => exact List.mem_map_of_mem this
    next => cases h

/-- The expression of a word without runs. -/
def ofWord? : List Item → Option (List Regex)
  | [] => some []
  | .one s :: w => (ofWord? w).map (set s :: ·)
  | .run _ :: _ => none

/-- What a word without runs spells enters a template as it is. -/
theorem collapse_eq_of_ofWord? {w : List Item} {t : List Char} (h : Spells w t) : ∀ {b : Bool}
    {ts : List (List Char)} {rs : List Regex}, texts b w = some ts → ofWord? w = some rs →
    collapse b t = t ∧ List.Forall₂ Matches rs (t.map fun c => [c]) := by
  induction h with
  | nil =>
    rintro b ts rs - hrs
    rw [← Option.some.inj hrs]
    exact ⟨rfl, .nil⟩
  | @one s w c t hc _ ih =>
    intro b ts rs h hrs
    obtain ⟨codes, hcodes, h⟩ := Option.bind_eq_some_iff.1 h
    obtain ⟨us, hus, h⟩ := Option.bind_eq_some_iff.1 h
    obtain ⟨rs', hrs', rfl⟩ := Option.map_eq_some_iff.1 hrs
    obtain ⟨hcollapse, hmatches⟩ := ih hus hrs'
    split at h
    · cases h
    next hspace =>
      rw [Bool.not_eq_true, List.any_eq_false] at hspace
      have hno : isSpace c = false := by simpa using hspace _ (CharSet.mem_members hcodes hc)
      rw [collapse, hno, if_neg Bool.false_ne_true, hcollapse]
      exact ⟨rfl, .cons (.set hc) hmatches⟩
  | run => rintro b ts rs - hrs; cases hrs

theorem matches_collapse {w : List Item} {t : List Char} (h : Spells w t) {b : Bool} {ts : List (List Char)}
    {rs : List Regex} (hts : texts b w = some ts) (hrs : ofWord? w = some rs) :
    (catAll rs).Matches (collapse b t) := by
  obtain ⟨hcollapse, hmatches⟩ := collapse_eq_of_ofWord? h hts hrs
  have := matches_catAll hmatches
  rwa [← List.flatMap_def, List.flatMap_singleton', ← hcollapse] at this

end Regex

end TemporalTagger
