/-
The normal forms of the reader mean what the parts they are made of mean: sequences one part after another, alternatives
one of the branches, whatever literals were joined, sets united and shared parts taken out in front. Main facts:
`runs_sequence` and `runs_alternation`.
-/
import TemporalTagger.Proofs.Regex.Ways
import TemporalTagger.Regex.Form

namespace TemporalTagger.Regex

variable {p q : Place}

/-! ## Runs of each kind of expression -/

@[simp] theorem runs_empty : empty.Runs p q ↔ p = q :=
  ⟨fun h => by cases h; rfl, fun h => h ▸ .empty⟩

@[simp] theorem runs_cat {r s : Regex} : (cat r s).Runs p q ↔ ∃ e, r.Runs p e ∧ s.Runs e q :=
  ⟨fun h => by cases h with | cat hr hs => exact ⟨_, hr, hs⟩, fun ⟨_, hr, hs⟩ => .cat hr hs⟩

@[simp] theorem runs_alt {r s : Regex} : (alt r s).Runs p q ↔ r.Runs p q ∨ s.Runs p q := by
  constructor
  · intro h
    cases h with
    | left h => exact .inl h
    | right h => exact .inr h
  · exact fun h => h.elim .left .right

@[simp] theorem runs_group {n : Nat} {r : Regex} : (group n r).Runs p q ↔ r.Runs p q :=
  ⟨fun h => by cases h; assumption, .group⟩

theorem runs_set {s : CharSet} :
    (set s).Runs p q ↔ ∃ ch rest, p.rest = ch :: rest ∧ s.holds ch = true ∧ q = p.past [ch] := by
  constructor
  · intro h
    cases h with | set hp hs => exact ⟨_, _, hp, hs, rfl⟩
  · rintro ⟨ch, rest, hp, hs, rfl⟩
    exact .set hp hs

theorem runs_set_congr {s s' : CharSet} (h : ∀ ch, s.holds ch = true ↔ s'.holds ch = true) :
    (set s).Runs p q ↔ (set s').Runs p q := by
  rw [runs_set, runs_set]
  simp only [h]

/-- Expressions run one after another. -/
def RunsAll : List Regex → Place → Place → Prop
  | [], p, q => p = q
  | r :: rs, p, q => ∃ e, r.Runs p e ∧ RunsAll rs e q

theorem runsAll_append {rs ss : List Regex} : RunsAll (rs ++ ss) p q ↔ ∃ e, RunsAll rs p e ∧ RunsAll ss e q := by
  induction rs generalizing p with
  | nil => simp [RunsAll]
  | cons r rs ih =>
    simp only [List.cons_append, RunsAll, ih]
    exact ⟨fun ⟨e, hr, d, hrs, hss⟩ => ⟨d, ⟨e, hr, hrs⟩, hss⟩, fun ⟨d, ⟨e, hr, hrs⟩, hss⟩ => ⟨e, hr, d, hrs, hss⟩⟩

@[simp] theorem runsAll_singleton {r : Regex} : RunsAll [r] p q ↔ r.Runs p q := by simp [RunsAll]

theorem runs_catAll {rs : List Regex} : (catAll rs).Runs p q ↔ RunsAll rs p q := by
  induction rs generalizing p with
  | nil => exact runs_empty
  | cons r rs ih =>
    cases rs with
    | nil => exact runsAll_singleton.symm
    | cons s ss =>
      rw [show catAll (r :: s :: ss) = cat r (catAll (s :: ss)) from rfl, runs_cat, RunsAll]
      simp only [ih]

/-! ## Sets -/

namespace CharSet

/-- A set of a single character has no other code point: between two points of a set membership does not change. -/
theorem holds_of_single? {s : CharSet} {c : Char} (h : s.single? = some c) (ch : Char) :
    s.holds ch = true ↔ ch = c := by
  rw [single?] at h
  split at h
  · cases h
  next code hcode =>
    rw [Option.ite_none_left_eq_some, Bool.or_eq_true, not_or, List.any_eq_true] at h
    obtain ⟨⟨hsucc, hother⟩, h⟩ := h
    obtain ⟨hvalid, h⟩ := Option.ite_none_right_eq_some.1 h
    have hc : c.toNat = code := by
      rw [← Option.some.inj h, Char.ofNat, dif_pos hvalid]
      rfl
    have hmem : s.mem code = true := List.find?_some hcode
    have honly : ∀ d ∈ 0 :: s.points, s.mem d = true → d = code := by
      intro d hd hds
      rcases List.mem_cons.1 hd with rfl | hd
      · rw [List.find?_cons, hds] at hcode
        exact Option.some.inj hcode
      · by_contra hne
        exact hother ⟨d, hd, by simp [hne, hds]⟩
    -- going down from a code point of the set to the next point
    have hdown : ∀ n, s.mem n = true → code ≤ n ∧ ∀ k, code ≤ k → k ≤ n → s.mem k = true := by
      intro n
      induction n with
      | zero =>
        intro hn
        have hzero := honly 0 List.mem_cons_self hn
        exact ⟨hzero.ge, fun k _ hk => by rwa [Nat.le_zero.1 hk]⟩
      | succ n ih =>
        intro hn
        by_cases hpoint : n + 1 ∈ s.points
        · have heq := honly _ (List.mem_cons_of_mem _ hpoint) hn
          exact ⟨heq.ge, fun k hk hkn => by rwa [show k = n + 1 by omega]⟩
        · obtain ⟨hle, hall⟩ := ih (by rwa [← mem_succ hpoint])
          refine ⟨by omega, fun k hk hkn => ?_⟩
          rcases Nat.lt_or_ge n k with hlt | hge
          · rwa [show k = n + 1 by omega]
          · exact hall k hk hge
    constructor
    · intro hch
      obtain ⟨hle, hall⟩ := hdown ch.toNat hch
      rcases Nat.lt_or_ge code ch.toNat with hlt | hge
      · exact absurd (hall (code + 1) (Nat.le_succ _) hlt) hsucc
      · exact Char.toNat_inj.1 (by omega)
    · rintro rfl
      rw [holds, hc]
      exact hmem

end CharSet

namespace Form

variable {f g : Form} {fs gs : List Form}

/-- The expressions that forms unfold to. -/
def unfoldAll (fs : List Form) : List Regex := fs.map unfold

theorem runs_literal {cs : List Char} :
    (literal cs).unfold.Runs p q ↔ RunsAll (cs.map fun c => .set (.single c)) p q := runs_catAll

theorem runs_literal_append {cs ds : List Char} :
    (literal (cs ++ ds)).unfold.Runs p q ↔ ∃ e, (literal cs).unfold.Runs p e ∧ (literal ds).unfold.Runs e q := by
  simp only [runs_literal, List.map_append, runsAll_append]

theorem runs_literal_singleton {c : Char} : (literal [c]).unfold.Runs p q ↔ (Regex.set (.single c)).Runs p q :=
  runs_literal.trans runsAll_singleton

theorem runs_ofSet {s : CharSet} : (ofSet s).unfold.Runs p q ↔ (Regex.set s).Runs p q := by
  rw [ofSet]
  split
  next c hc =>
    rw [runs_literal_singleton]
    exact runs_set_congr fun ch => CharSet.holds_single_iff.trans (CharSet.holds_of_single? hc ch).symm
  next => rfl

/-! ## Sequences -/

theorem runs_parts : ∀ f : Form, ∀ {p : Place}, RunsAll (unfoldAll f.parts) p q ↔ f.unfold.Runs p q
  | empty, _ => runs_empty.symm
  | cat first rest, p => by
    rw [parts, unfoldAll, List.map_cons, ← unfoldAll, RunsAll, unfold, runs_cat]
    simp only [runs_parts rest]
  | literal _, _ | set _, _ | look _, _ | times .., _ | group .., _ | alt .., _ => runsAll_singleton

theorem runs_flatMap_parts : ∀ {fs : List Form} {p : Place},
    RunsAll (unfoldAll (fs.flatMap parts)) p q ↔ RunsAll (unfoldAll fs) p q
  | [], _ => Iff.rfl
  | f :: fs, p => by
    rw [List.flatMap_cons, unfoldAll, List.map_append, runsAll_append, ← unfoldAll, ← unfoldAll]
    simp only [runs_parts f, @runs_flatMap_parts fs]
    rfl

theorem runs_ofParts : ∀ {fs : List Form} {p : Place}, (ofParts fs).unfold.Runs p q ↔ RunsAll (unfoldAll fs) p q
  | [], _ => runs_empty
  | [_], _ => runsAll_singleton.symm
  | f :: g :: fs, p => by
    rw [show ofParts (f :: g :: fs) = cat f (ofParts (g :: fs)) from rfl, unfold, runs_cat]
    simp only [@runs_ofParts (g :: fs)]
    rfl

theorem runs_joinPart (f : Form) (fs : List Form) :
    RunsAll (unfoldAll (joinPart f fs)) p q ↔ RunsAll (unfoldAll (f :: fs)) p q := by
  unfold joinPart
  split
  next cs ds rest =>
    show (∃ e, (literal (cs ++ ds)).unfold.Runs p e ∧ RunsAll (unfoldAll rest) e q) ↔
      ∃ e, (literal cs).unfold.Runs p e ∧ ∃ d, (literal ds).unfold.Runs e d ∧ RunsAll (unfoldAll rest) d q
    simp only [runs_literal_append]
    exact ⟨fun ⟨d, ⟨e, hc, hd⟩, hr⟩ => ⟨e, hc, d, hd, hr⟩, fun ⟨e, hc, d, hd, hr⟩ => ⟨d, ⟨e, hc, hd⟩, hr⟩⟩
  next => rfl

theorem runs_foldr_joinPart : ∀ {fs : List Form} {p : Place},
    RunsAll (unfoldAll (fs.foldr joinPart [])) p q ↔ RunsAll (unfoldAll fs) p q
  | [], _ => Iff.rfl
  | f :: fs, p => by
    rw [List.foldr_cons, runs_joinPart]
    show (∃ e, f.unfold.Runs p e ∧ RunsAll (unfoldAll (fs.foldr joinPart [])) e q) ↔
      ∃ e, f.unfold.Runs p e ∧ RunsAll (unfoldAll fs) e q
    simp only [@runs_foldr_joinPart fs]

/-- A sequence runs as its parts do one after another. -/
theorem runs_sequence : (sequence fs).unfold.Runs p q ↔ RunsAll (unfoldAll fs) p q := by
  rw [sequence, runs_ofParts, runs_foldr_joinPart, runs_flatMap_parts]

/-! ## Alternatives -/

theorem runs_branches : ∀ f : Form, (∃ g ∈ f.branches, g.unfold.Runs p q) ↔ f.unfold.Runs p q
  | alt first rest => by
    rw [branches, List.exists_mem_cons_iff, runs_branches rest, unfold, runs_alt]
  | empty | literal _ | set _ | look _ | times .. | group .. | cat .. => by simp [branches]

theorem runs_flatMap_branches :
    (∃ g ∈ fs.flatMap branches, g.unfold.Runs p q) ↔ ∃ f ∈ fs, f.unfold.Runs p q := by
  constructor
  · rintro ⟨g, hg, h⟩
    obtain ⟨f, hf, hg⟩ := List.mem_flatMap.1 hg
    exact ⟨f, hf, (runs_branches f).1 ⟨g, hg, h⟩⟩
  · rintro ⟨f, hf, h⟩
    obtain ⟨g, hg, h⟩ := (runs_branches f).2 h
    exact ⟨g, List.mem_flatMap.2 ⟨f, hf, hg⟩, h⟩

theorem branches_ne_nil (f : Form) : f.branches ≠ [] := by
  cases f <;> simp [branches]

theorem flatMap_branches_ne_nil (h : fs ≠ []) : fs.flatMap branches ≠ [] := by
  obtain ⟨f, fs, rfl⟩ := List.exists_cons_of_ne_nil h
  simp [branches_ne_nil f]

theorem runs_ofBranches : ∀ {fs : List Form}, fs ≠ [] → ((ofBranches fs).unfold.Runs p q ↔ ∃ f ∈ fs, f.unfold.Runs p q)
  | [], h => absurd rfl h
  | [_], _ => by simp [ofBranches]
  | f :: g :: fs, _ => by
    rw [show ofBranches (f :: g :: fs) = alt f (ofBranches (g :: fs)) from rfl, unfold, runs_alt,
      runs_ofBranches (List.cons_ne_nil g fs)]
    simp

theorem runs_chars? {s : CharSet} (h : f.chars? = some s) : f.unfold.Runs p q ↔ (Regex.set s).Runs p q := by
  cases f with
  | literal cs =>
    match cs, h with
    | [c], h =>
      cases h
      exact runs_literal_singleton
  | set s' =>
    cases h
    rfl
  | _ => cases h

theorem runs_unionAll {sets : List CharSet} :
    (Regex.set (.unionAll sets)).Runs p q ↔ ∃ s ∈ sets, (Regex.set s).Runs p q := by
  simp only [runs_set, CharSet.holds, CharSet.mem_unionAll, List.any_eq_true]
  constructor
  · rintro ⟨ch, rest, hp, ⟨s, hs, hch⟩, hq⟩
    exact ⟨s, hs, ch, rest, hp, hch, hq⟩
  · rintro ⟨s, hs, ch, rest, hp, hch, hq⟩
    exact ⟨ch, rest, hp, ⟨s, hs, hch⟩, hq⟩

theorem runs_mapM_chars? : ∀ {fs : List Form} {sets : List CharSet}, fs.mapM chars? = some sets →
    ((∃ s ∈ sets, (Regex.set s).Runs p q) ↔ ∃ f ∈ fs, f.unfold.Runs p q)
  | [], _, h => by
    cases h
    simp
  | f :: fs, sets, h => by
    rw [List.mapM_cons] at h
    obtain ⟨s, hs, h⟩ := Option.bind_eq_some_iff.1 h
    obtain ⟨ss, hss, h⟩ := Option.bind_eq_some_iff.1 h
    cases h
    rw [List.exists_mem_cons_iff, List.exists_mem_cons_iff, runs_chars? hs, runs_mapM_chars? hss]

/-- A choice runs as one of its branches does. -/
theorem runs_choice (h : fs ≠ []) : (choice fs).unfold.Runs p q ↔ ∃ f ∈ fs, f.unfold.Runs p q := by
  rw [choice, ← runs_flatMap_branches]
  split
  next sets hsets => rw [runs_ofSet, runs_unionAll, runs_mapM_chars? hsets]
  next => exact runs_ofBranches (flatMap_branches_ne_nil h)

/-! ## Widths -/

theorem widthless_parts : ∀ f : Form, f.parts.all widthless = f.widthless
  | empty => rfl
  | cat first rest => by rw [parts, List.all_cons, widthless_parts rest, widthless]
  | literal _ | set _ | look _ | times .. | group .. | alt .. => Bool.and_true _

theorem widthless_flatMap_parts : ∀ fs : List Form, (fs.flatMap parts).all widthless = fs.all widthless
  | [] => rfl
  | f :: fs => by
    rw [List.flatMap_cons, List.all_append, widthless_parts, widthless_flatMap_parts fs, List.all_cons]

theorem widthless_ofParts : ∀ fs : List Form, (ofParts fs).widthless = fs.all widthless
  | [] => rfl
  | [f] => (Bool.and_true _).symm
  | f :: g :: fs => by
    rw [show ofParts (f :: g :: fs) = cat f (ofParts (g :: fs)) from rfl, widthless, widthless_ofParts (g :: fs)]
    rfl

theorem widthless_foldr_joinPart : ∀ fs : List Form, (fs.foldr joinPart []).all widthless = fs.all widthless
  | [] => rfl
  | f :: fs => by
    have hjoin : ∀ (f : Form) (fs : List Form), (joinPart f fs).all widthless = (f :: fs).all widthless := by
      intro f fs
      unfold joinPart
      split <;> rfl
    rw [List.foldr_cons, hjoin, List.all_cons, widthless_foldr_joinPart fs, List.all_cons]

theorem widthless_sequence (fs : List Form) : (sequence fs).widthless = fs.all widthless := by
  rw [sequence, widthless_ofParts, widthless_foldr_joinPart, widthless_flatMap_parts]

theorem widthless_branches : ∀ f : Form, f.branches.all widthless = f.widthless
  | alt first rest => by rw [branches, List.all_cons, widthless_branches rest, widthless]
  | empty | literal _ | set _ | look _ | times .. | group .. | cat .. => Bool.and_true _

theorem widthless_flatMap_branches : ∀ fs : List Form, (fs.flatMap branches).all widthless = fs.all widthless
  | [] => rfl
  | f :: fs => by
    rw [List.flatMap_cons, List.all_append, widthless_branches, widthless_flatMap_branches fs, List.all_cons]

theorem widthless_ofBranches : ∀ fs : List Form, (ofBranches fs).widthless = fs.all widthless
  | [] => rfl
  | [f] => (Bool.and_true _).symm
  | f :: g :: fs => by
    rw [show ofBranches (f :: g :: fs) = alt f (ofBranches (g :: fs)) from rfl, widthless,
      widthless_ofBranches (g :: fs)]
    rfl

theorem widthless_ofSet (s : CharSet) : (ofSet s).widthless = false := by
  rw [ofSet]
  split <;> rfl

theorem widthless_chars? {s : CharSet} (h : f.chars? = some s) : f.widthless = false := by
  cases f with
  | literal | set => rfl
  | _ => cases h

theorem widthless_choice (h : fs ≠ []) : (choice fs).widthless = fs.all widthless := by
  rw [choice, ← widthless_flatMap_branches]
  split
  next sets hsets =>
    obtain ⟨f, rest, hfs⟩ := List.exists_cons_of_ne_nil (flatMap_branches_ne_nil h)
    rw [hfs, List.mapM_cons] at hsets
    obtain ⟨s, hs, -⟩ := Option.bind_eq_some_iff.1 hsets
    rw [widthless_ofSet, hfs, List.all_cons, widthless_chars? hs, Bool.false_and]
  next => exact widthless_ofBranches _

end Form

/-! ## Inclusion -/

section

variable {r r' s s' : Regex}

/-- Wherever one expression runs to, the other one does too. -/
def Includes (s r : Regex) : Prop := ∀ ⦃p q : Place⦄, r.Runs p q → s.Runs p q

namespace Includes

theorem refl (r : Regex) : r.Includes r := fun _ _ h => h

theorem cat (hr : r'.Includes r) (hs : s'.Includes s) : (cat r' s').Includes (cat r s) := by
  intro p q h
  obtain ⟨e, h, h'⟩ := runs_cat.1 h
  exact .cat (hr h) (hs h')

theorem alt (hr : r'.Includes r) (hs : s'.Includes s) : (alt r' s').Includes (alt r s) :=
  fun _ _ h => (runs_alt.1 h).elim (fun h => .left (hr h)) fun h => .right (hs h)

theorem star (hr : r'.Includes r) {greedy greedy' : Bool} : (star r' greedy').Includes (star r greedy) := by
  intro p q h
  generalize hs : Regex.star r greedy = s at h
  induction h with
  | stop => exact .stop
  | more h _ _ ih =>
    cases hs
    exact .more (hr h) (ih rfl)
  | _ => cases hs

theorem plus (hr : r'.Includes r) {greedy greedy' : Bool} : (plus r' greedy').Includes (plus r greedy) := by
  intro p q h
  cases h with
  | plus h hs => exact .plus (hr h) (star hr hs)

theorem group (n : Nat) (hr : r'.Includes r) : (group n r').Includes (group n r) :=
  fun _ _ h => .group (hr (runs_group.1 h))

theorem opt (hr : r'.Includes r) (greedy : Bool) : (opt r' greedy).Includes (opt r greedy) := by
  cases greedy with
  | true => exact hr.alt (refl empty)
  | false => exact (refl empty).alt hr

end Includes

/-- Any number of times is any number of times, however it is written. -/
theorem runs_many {greedy : Bool} {p q : Place} : (many r greedy).Runs p q ↔ (star r greedy).Runs p q := by
  rw [many]
  split
  next =>
    have hopt : (opt (plus r greedy) greedy).Runs p q ↔ (plus r greedy).Runs p q ∨ p = q := by
      cases greedy
      · exact (runs_alt.trans (or_congr runs_empty Iff.rfl)).trans or_comm
      · exact runs_alt.trans (or_congr Iff.rfl runs_empty)
    rw [hopt]
    constructor
    · rintro (h | rfl)
      · cases h with
        | plus h hs => exact .more h hs
      · exact .stop
    · intro h
      cases h with
      | stop => exact .inr rfl
      | more h hs => exact .inl (.plus h hs)
  next => rfl

namespace Includes

theorem catAll_replicate (hr : r'.Includes r) :
    ∀ n, (catAll (List.replicate n r')).Includes (catAll (List.replicate n r))
  | 0 => refl empty
  | 1 => hr
  | n + 2 => hr.cat (catAll_replicate hr (n + 1))

theorem exactly (hr : r'.Includes r) (n : Nat) : (exactly r' n).Includes (exactly r n) := catAll_replicate hr n

theorem many (hr : r'.Includes r) (greedy : Bool) : (many r' greedy).Includes (many r greedy) :=
  fun _ _ h => runs_many.2 (star hr (runs_many.1 h))

theorem upTo (hr : r'.Includes r) (greedy : Bool) : ∀ n, (upTo r' greedy n).Includes (upTo r greedy n)
  | 0 => refl empty
  | 1 => hr.opt greedy
  | n + 2 => (hr.cat (upTo hr greedy (n + 1))).opt greedy

theorem atLeast (hr : r'.Includes r) (greedy : Bool) : ∀ n, (atLeast r' greedy n).Includes (atLeast r greedy n)
  | 0 => hr.many greedy
  | 1 => hr.plus
  | n + 2 => (hr.exactly (n + 1)).cat hr.plus

theorem repeated (hr : r'.Includes r) (min : Nat) (max : Option Nat) (greedy : Bool) :
    (repeated r' min max greedy).Includes (repeated r min max greedy) := by
  unfold Regex.repeated
  split
  · exact hr.atLeast greedy min
  · split
    · exact hr.exactly min
    · split
      · exact hr.upTo greedy _
      · exact (hr.exactly min).cat (hr.upTo greedy _)

end Includes

end

namespace Form

variable {f g : Form}

theorem includes_repeated (h : g.unfold.Includes f.unfold) (hw : g.widthless = f.widthless) (min : Nat)
    (max : Option Nat) (greedy : Bool) :
    (g.repeated min max greedy).unfold.Includes (f.repeated min max greedy).unfold := by
  unfold Form.repeated
  rw [hw]
  generalize (if f.widthless then _ else _ : Nat × Option Nat) = bounds
  obtain ⟨min, max⟩ := bounds
  dsimp only
  split
  · exact .refl _
  · split
    · exact h
    · exact h.repeated min max greedy

theorem widthless_repeated (hw : g.widthless = f.widthless) (min : Nat) (max : Option Nat) (greedy : Bool) :
    (g.repeated min max greedy).widthless = (f.repeated min max greedy).widthless := by
  unfold Form.repeated
  rw [hw]
  generalize (if f.widthless then _ else _ : Nat × Option Nat) = bounds
  obtain ⟨min, max⟩ := bounds
  dsimp only
  split
  · rfl
  · split <;> exact hw

/-! ## Shared parts -/

/-- Forms that run alike. -/
structure Alike (f g : Form) : Prop where
  sub : g.unfold.Includes f.unfold
  sup : f.unfold.Includes g.unfold
  widthless : f.widthless = g.widthless

theorem Alike.runs (h : Alike f g) {p q : Place} : f.unfold.Runs p q ↔ g.unfold.Runs p q :=
  ⟨fun hf => h.sub hf, fun hg => h.sup hg⟩

theorem alike_refl (f : Form) : Alike f f := ⟨.refl _, .refl _, rfl⟩

/-- Forms that are compared as equal run alike; their sets may be written in different ways. -/
theorem alike_of_beq : ∀ {f g : Form}, (f == g) = true → Alike f g := by
  intro f
  induction f with
  | empty =>
    intro g h
    cases g with
    | empty => exact alike_refl _
    | _ => simp [BEq.beq, instBEqForm.beq] at h
  | literal cs =>
    intro g h
    cases g with
    | literal ds =>
      have h : cs = ds := eq_of_beq (show (cs == ds) = true from h)
      exact h ▸ alike_refl _
    | _ => simp [BEq.beq, instBEqForm.beq] at h
  | set s =>
    intro g h
    cases g with
    | set s' =>
      have h : ∀ ch, s.holds ch = true ↔ s'.holds ch = true := fun ch => by
        rw [CharSet.holds, CharSet.holds, CharSet.mem_eq_of_alike h]
      exact ⟨fun _ _ => (runs_set_congr h).1, fun _ _ => (runs_set_congr h).2, rfl⟩
    | _ => simp [BEq.beq, instBEqForm.beq] at h
  | look l =>
    intro g h
    cases g with
    | look l' =>
      have h : l = l' := by simpa [BEq.beq, instBEqForm.beq] using h
      exact h ▸ alike_refl _
    | _ => simp [BEq.beq, instBEqForm.beq] at h
  | times f min max greedy ih =>
    intro g h
    cases g with
    | times f' min' max' greedy' =>
      obtain ⟨hf, rfl, hmax, rfl⟩ : (f == f') = true ∧ min = min' ∧ (max == max') = true ∧ greedy = greedy' := by
        simpa [BEq.beq, instBEqForm.beq] using h
      obtain rfl := eq_of_beq hmax
      exact ⟨(ih hf).sub.repeated min max greedy, (ih hf).sup.repeated min max greedy, (ih hf).widthless⟩
    | _ => simp [BEq.beq, instBEqForm.beq] at h
  | group n f ih =>
    intro g h
    cases g with
    | group n' f' =>
      obtain ⟨rfl, hf⟩ : n = n' ∧ (f == f') = true := by simpa [BEq.beq, instBEqForm.beq] using h
      exact ⟨(ih hf).sub.group n, (ih hf).sup.group n, (ih hf).widthless⟩
    | _ => simp [BEq.beq, instBEqForm.beq] at h
  | cat first rest ih₁ ih₂ =>
    intro g h
    cases g with
    | cat first' rest' =>
      obtain ⟨h₁, h₂⟩ : (first == first') = true ∧ (rest == rest') = true := by
        simpa [BEq.beq, instBEqForm.beq] using h
      exact ⟨(ih₁ h₁).sub.cat (ih₂ h₂).sub, (ih₁ h₁).sup.cat (ih₂ h₂).sup,
        congrArg₂ and (ih₁ h₁).widthless (ih₂ h₂).widthless⟩
    | _ => simp [BEq.beq, instBEqForm.beq] at h
  | alt first rest ih₁ ih₂ =>
    intro g h
    cases g with
    | alt first' rest' =>
      obtain ⟨h₁, h₂⟩ : (first == first') = true ∧ (rest == rest') = true := by
        simpa [BEq.beq, instBEqForm.beq] using h
      exact ⟨(ih₁ h₁).sub.alt (ih₂ h₂).sub, (ih₁ h₁).sup.alt (ih₂ h₂).sup,
        congrArg₂ and (ih₁ h₁).widthless (ih₂ h₂).widthless⟩
    | _ => simp [BEq.beq, instBEqForm.beq] at h

/-- A list of parts that starts as another one does. -/
def StartsLike (shared fs : List Form) : Prop := ∃ pre post, fs = pre ++ post ∧ List.Forall₂ Alike shared pre

namespace StartsLike

variable {shared fs : List Form}

theorem refl (fs : List Form) : StartsLike fs fs :=
  ⟨fs, [], (List.append_nil fs).symm, List.forall₂_same.2 fun f _ => alike_refl f⟩

theorem cons {f g : Form} (h : Alike f g) (hs : StartsLike shared fs) : StartsLike (f :: shared) (g :: fs) := by
  obtain ⟨pre, post, rfl, hpre⟩ := hs
  exact ⟨g :: pre, post, rfl, .cons h hpre⟩

theorem of_beginning {start : List Form} (h : StartsLike shared fs) (hstart : start <+: shared) :
    StartsLike start fs := by
  obtain ⟨more, rfl⟩ := hstart
  obtain ⟨pre, post, rfl, hpre⟩ := h
  refine ⟨pre.take start.length, pre.drop start.length ++ post, ?_, ?_⟩
  · rw [← List.append_assoc, List.take_append_drop]
  · have htake := List.forall₂_take start.length hpre
    rwa [List.take_left] at htake

theorem runs (h : StartsLike shared fs) {p q : Place} : RunsAll (unfoldAll fs) p q ↔
    ∃ e, RunsAll (unfoldAll shared) p e ∧ (ofParts (fs.drop shared.length)).unfold.Runs e q := by
  obtain ⟨pre, post, rfl, hpre⟩ := h
  have hstart : ∀ {shared pre : List Form}, List.Forall₂ Alike shared pre → ∀ {p e : Place},
      RunsAll (unfoldAll shared) p e ↔ RunsAll (unfoldAll pre) p e := by
    intro shared pre h
    induction h with
    | nil => exact Iff.rfl
    | cons hf _ ih => exact exists_congr fun d => and_congr hf.runs ih
  rw [unfoldAll, List.map_append, runsAll_append, hpre.length_eq, List.drop_left]
  simp only [runs_ofParts, hstart hpre]
  rfl

theorem widthless (h : StartsLike shared fs) : fs.all widthless =
    (shared.all Form.widthless && (ofParts (fs.drop shared.length)).widthless) := by
  obtain ⟨pre, post, rfl, hpre⟩ := h
  have hstart : ∀ {shared pre : List Form}, List.Forall₂ Alike shared pre →
      shared.all Form.widthless = pre.all Form.widthless := by
    intro shared pre h
    induction h with
    | nil => rfl
    | cons hf _ ih => rw [List.all_cons, List.all_cons, hf.widthless, ih]
  rw [List.all_append, widthless_ofParts, hpre.length_eq, List.drop_left, hstart hpre]

end StartsLike

theorem commonStart_spec : ∀ fs gs : List Form, commonStart fs gs <+: fs ∧ StartsLike (commonStart fs gs) gs
  | [], gs => ⟨List.prefix_rfl, ⟨[], gs, rfl, .nil⟩⟩
  | _ :: _, [] => ⟨List.nil_prefix, ⟨[], [], rfl, .nil⟩⟩
  | f :: fs, g :: gs => by
    rw [commonStart]
    split
    next h =>
      obtain ⟨hbeginning, hstarts⟩ := commonStart_spec fs gs
      exact ⟨List.cons_prefix_cons.2 ⟨rfl, hbeginning⟩, hstarts.cons (alike_of_beq h)⟩
    next => exact ⟨List.nil_prefix, ⟨[], g :: gs, rfl, .nil⟩⟩

theorem foldl_commonStart_spec : ∀ (rest : List (List Form)) (first : List Form),
    rest.foldl commonStart first <+: first ∧ ∀ fs ∈ rest, StartsLike (rest.foldl commonStart first) fs
  | [], _ => ⟨List.prefix_rfl, List.forall_mem_nil _⟩
  | fs :: rest, first => by
    obtain ⟨hfirst, hfs⟩ := commonStart_spec first fs
    obtain ⟨hbeginning, hrest⟩ := foldl_commonStart_spec rest (commonStart first fs)
    exact ⟨hbeginning.trans hfirst, List.forall_mem_cons.2 ⟨hfs.of_beginning hbeginning, hrest⟩⟩

/-- All branches start as the shared parts do. -/
theorem startsLike_sharedParts (fss : List (List Form)) : ∀ fs ∈ fss, StartsLike (sharedParts fss) fs := by
  intro fs hfs
  cases fss with
  | nil => cases hfs
  | cons first rest =>
    rw [sharedParts]
    split
    · obtain ⟨hbeginning, hrest⟩ := foldl_commonStart_spec rest first
      rcases List.mem_cons.1 hfs with rfl | hfs
      · exact (StartsLike.refl fs).of_beginning hbeginning
      · exact hrest fs hfs
    · exact ⟨[], fs, rfl, .nil⟩

/-- Alternatives run as one of them does. -/
theorem runs_alternation {fs : List Form} (h : fs ≠ []) {p q : Place} :
    (alternation fs).unfold.Runs p q ↔ ∃ f ∈ fs, f.unfold.Runs p q := by
  rw [← runs_flatMap_branches, alternation]
  have hne := flatMap_branches_ne_nil h
  generalize fs.flatMap branches = fs at hne
  have hstarts := startsLike_sharedParts (fs.map parts)
  generalize sharedParts (fs.map parts) = shared at hstarts
  split
  · exact runs_choice hne
  · rw [runs_sequence, unfoldAll, List.map_append, runsAll_append]
    simp only [List.map_cons, List.map_nil, runsAll_singleton, runs_choice (mt List.map_eq_nil_iff.1 hne)]
    constructor
    · rintro ⟨e, hshared, _, hmem, hrest⟩
      obtain ⟨f, hf, rfl⟩ := List.mem_map.1 hmem
      exact ⟨f, hf, (runs_parts f).1 ((hstarts _ (List.mem_map_of_mem hf)).runs.2 ⟨e, hshared, hrest⟩)⟩
    · rintro ⟨f, hf, h⟩
      obtain ⟨e, hshared, hrest⟩ := (hstarts _ (List.mem_map_of_mem hf)).runs.1 ((runs_parts f).2 h)
      exact ⟨e, hshared, _, List.mem_map_of_mem hf, hrest⟩

theorem widthless_alternation {fs : List Form} (h : fs ≠ []) : (alternation fs).widthless = fs.all widthless := by
  rw [← widthless_flatMap_branches, alternation]
  have hne := flatMap_branches_ne_nil h
  generalize fs.flatMap branches = fs at hne
  have hstarts := startsLike_sharedParts (fs.map parts)
  generalize sharedParts (fs.map parts) = shared at hstarts
  split
  · exact widthless_choice hne
  · have hparts : ∀ f ∈ fs, f.widthless =
        (shared.all widthless && (ofParts (f.parts.drop shared.length)).widthless) := fun f hf => by
      rw [← widthless_parts, (hstarts _ (List.mem_map_of_mem hf)).widthless]
    rw [widthless_sequence, List.all_append, List.all_cons, List.all_nil, Bool.and_true,
      widthless_choice (mt List.map_eq_nil_iff.1 hne), List.all_map, Bool.eq_iff_iff, Bool.and_eq_true,
      List.all_eq_true (l := fs), List.all_eq_true (l := fs)]
    obtain ⟨f, rest, rfl⟩ := List.exists_cons_of_ne_nil hne
    constructor
    · rintro ⟨hshared, hrest⟩ g hg
      rw [hparts g hg, hshared, Bool.true_and]
      exact hrest g hg
    · intro hall
      have hsplit : ∀ g ∈ f :: rest, shared.all widthless = true ∧
          (ofParts (g.parts.drop shared.length)).widthless = true := fun g hg => by
        rw [← Bool.and_eq_true, ← hparts g hg]
        exact hall g hg
      exact ⟨(hsplit f List.mem_cons_self).1, fun g hg => (hsplit g hg).2⟩

end Form

end TemporalTagger.Regex
