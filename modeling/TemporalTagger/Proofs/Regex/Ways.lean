/-
What matching means, said without a machine: the ways in which an expression matches from a place
on, the preferred one first. Main facts: a way reads a prefix of the text that is left, not an empty
one if the expression cannot match nothing, and a loop whose body always reads is unfolded round by
round.
-/
import TemporalTagger.Regex.Search
import TemporalTagger.Text.Bytes
import Mathlib.Tactic

namespace TemporalTagger.Regex

open Text

/-! ## Places -/

namespace Place

/-- The place after so much of the text that is left. -/
def past (p : Place) (t : List Char) : Place :=
  ⟨p.offset + byteLength t, t.getLast?.or p.before, p.rest.drop t.length⟩

@[simp] theorem past_nil (p : Place) : p.past [] = p := by simp [past]

theorem past_past (p : Place) (a b : List Char) : (p.past a).past b = p.past (a ++ b) := by
  simp [past, List.getLast?_append, Nat.add_assoc, Option.or_assoc]

theorem past_singleton {p : Place} {ch : Char} {rest : List Char} (h : p.rest = ch :: rest) :
    p.past [ch] = ⟨p.offset + ch.utf8Size, some ch, rest⟩ := by
  simp [past, h]

theorem rest_past_prefix {p : Place} {t : List Char} (h : t <+: p.rest) : p.rest = t ++ (p.past t).rest := by
  obtain ⟨s, hs⟩ := h
  simp [past, ← hs]

end Place

/-! ## Cursors -/

/-- A point of a match under way: the place reached and the group boundaries passed, the last one
first. -/
structure Cursor where
  place : Place
  trail : Trail

namespace Cursor

/-- How much text is left. -/
def left (c : Cursor) : Nat := c.place.rest.length

def mark (slot : Nat) (c : Cursor) : Cursor := ⟨c.place, (slot, c.place.offset) :: c.trail⟩

/-- Reads one character of a set. -/
def read (s : CharSet) (c : Cursor) : List Cursor :=
  match c.place.rest with
  | [] => []
  | ch :: _ => if s.holds ch then [⟨c.place.past [ch], c.trail⟩] else []

@[simp] theorem mark_place (slot : Nat) (c : Cursor) : (c.mark slot).place = c.place := rfl
@[simp] theorem mark_trail (slot : Nat) (c : Cursor) :
    (c.mark slot).trail = (slot, c.place.offset) :: c.trail := rfl

theorem mem_read {s : CharSet} {c d : Cursor} :
    d ∈ c.read s ↔ ∃ ch rest, c.place.rest = ch :: rest ∧ s.holds ch = true ∧
      d = ⟨c.place.past [ch], c.trail⟩ := by
  unfold read
  cases h : c.place.rest with
  | nil => simp
  | cons ch rest => by_cases hs : s.holds ch = true <;> simp [hs]

end Cursor

/-! ## Ways -/

/-- Any number of rounds of a loop. A round that reads nothing is none, so the text that is left
bounds their number. -/
def rounds (body : Cursor → List Cursor) (greedy : Bool) : (fuel : Nat) → Cursor → List Cursor
  | 0, c => [c]
  | fuel + 1, c =>
    let more := (body c).flatMap fun d => if d.left < c.left then rounds body greedy fuel d else []
    if greedy then more ++ [c] else c :: more

/-- The ways in which an expression matches from a cursor on, the preferred one first. -/
def ways : Regex → Cursor → List Cursor
  | empty, c => [c]
  | set s, c => c.read s
  | look l, c => if c.place.satisfies l then [c] else []
  | cat r s, c => (r.ways c).flatMap s.ways
  | alt r s, c => r.ways c ++ s.ways c
  | star r greedy, c => rounds r.ways greedy c.left c
  | plus r greedy, c => (r.ways c).flatMap fun d => rounds r.ways greedy d.left d
  | group n r, c => (r.ways (c.mark (2 * n))).map (·.mark (2 * n + 1))

/-- Whether every round of every loop reads something. -/
def loopsRead : Regex → Bool
  | empty | set _ | look _ => true
  | cat r s | alt r s => r.loopsRead && s.loopsRead
  | star r _ | plus r _ => !r.nullable && r.loopsRead
  | group _ r => r.loopsRead

/-! ## Runs -/

/-- An expression leads from one place to another, no matter which way is preferred. A loop may take rounds that read
nothing. -/
inductive Runs : Regex → Place → Place → Prop
  | empty {p : Place} : Runs empty p p
  | set {s : CharSet} {p : Place} {ch : Char} {rest : List Char} (hp : p.rest = ch :: rest)
      (hs : s.holds ch = true) : Runs (set s) p (p.past [ch])
  | look {l : Look} {p : Place} (h : p.satisfies l = true) : Runs (look l) p p
  | cat {r s : Regex} {p q e : Place} (hr : Runs r p q) (hs : Runs s q e) : Runs (cat r s) p e
  | left {r s : Regex} {p q : Place} (h : Runs r p q) : Runs (alt r s) p q
  | right {r s : Regex} {p q : Place} (h : Runs s p q) : Runs (alt r s) p q
  | stop {r : Regex} {greedy : Bool} {p : Place} : Runs (star r greedy) p p
  | more {r : Regex} {greedy : Bool} {p q e : Place} (hr : Runs r p q) (hs : Runs (star r greedy) q e) :
      Runs (star r greedy) p e
  | plus {r : Regex} {greedy : Bool} {p q e : Place} (hr : Runs r p q) (hs : Runs (star r greedy) q e) :
      Runs (plus r greedy) p e
  | group {n : Nat} {r : Regex} {p q : Place} (h : Runs r p q) : Runs (group n r) p q

theorem runs_of_mem_rounds {r : Regex} {greedy : Bool} (hr : ∀ c, ∀ d ∈ r.ways c, r.Runs c.place d.place) :
    ∀ (fuel : Nat) (c d : Cursor), d ∈ rounds r.ways greedy fuel c → (star r greedy).Runs c.place d.place
  | 0, _, _, h => List.mem_singleton.1 h ▸ .stop
  | fuel + 1, c, d, h => by
    have h : d = c ∨ ∃ e ∈ r.ways c, e.left < c.left ∧ d ∈ rounds r.ways greedy fuel e := by
      unfold rounds at h
      cases greedy <;> simp only [if_true, Bool.false_eq_true, if_false, List.mem_append, List.mem_cons,
        List.mem_flatMap, List.not_mem_nil, or_false, List.mem_ite_nil_right] at h
      · exact h
      · exact h.symm
    rcases h with rfl | ⟨e, he, -, hd⟩
    · exact .stop
    · exact .more (hr c e he) (runs_of_mem_rounds hr fuel e d hd)

/-- A way is a run. -/
theorem runs_of_mem_ways (r : Regex) : ∀ c, ∀ d ∈ r.ways c, r.Runs c.place d.place := by
  induction r with
  | empty => exact fun c d h => List.mem_singleton.1 h ▸ .empty
  | set s =>
    intro c d h
    obtain ⟨ch, rest, hrest, hs, rfl⟩ := Cursor.mem_read.1 h
    exact .set hrest hs
  | look l =>
    intro c d h
    obtain ⟨hl, rfl⟩ : c.place.satisfies l = true ∧ d = c := by simpa [ways] using h
    exact .look hl
  | cat r s ihr ihs =>
    intro c d h
    obtain ⟨e, he, hd⟩ := List.mem_flatMap.1 h
    exact .cat (ihr c e he) (ihs e d hd)
  | alt r s ihr ihs =>
    intro c d h
    exact (List.mem_append.1 h).elim (fun h => .left (ihr c d h)) fun h => .right (ihs c d h)
  | star r greedy ih => exact fun c d h => runs_of_mem_rounds ih _ c d h
  | plus r greedy ih =>
    intro c d h
    obtain ⟨e, he, hd⟩ := List.mem_flatMap.1 h
    exact .plus (ih c e he) (runs_of_mem_rounds ih _ e d hd)
  | group n r ih =>
    intro c d h
    obtain ⟨e, he, rfl⟩ := List.mem_map.1 h
    exact .group (ih (c.mark (2 * n)) e he)

/-! ## The trail of a way -/

/-- The same point of a match with other boundaries passed before. -/
def Cursor.after (c : Cursor) (τ : Trail) : Cursor := ⟨c.place, c.trail ++ τ⟩

theorem rounds_after {r : Regex} {greedy : Bool} {τ : Trail}
    (hr : ∀ c, r.ways (c.after τ) = (r.ways c).map (·.after τ)) : ∀ (fuel : Nat) (c : Cursor),
    rounds r.ways greedy fuel (c.after τ) = (rounds r.ways greedy fuel c).map (·.after τ)
  | 0, _ => rfl
  | fuel + 1, c => by
    have : (r.ways (c.after τ)).flatMap
        (fun d => if d.left < (c.after τ).left then rounds r.ways greedy fuel d else []) =
        ((r.ways c).flatMap fun d => if d.left < c.left then rounds r.ways greedy fuel d else []).map
          (·.after τ) := by
      rw [hr, List.flatMap_map, List.map_flatMap]
      refine List.flatMap_congr fun d _ => ?_
      show (if d.left < c.left then rounds r.ways greedy fuel (d.after τ) else []) = _
      rw [rounds_after hr fuel d]
      split <;> rfl
    rw [rounds, rounds, this]
    cases greedy <;> simp

/-- A way passes its own boundaries, whichever were passed before. -/
theorem ways_after (r : Regex) : ∀ (c : Cursor) (τ : Trail),
    r.ways (c.after τ) = (r.ways c).map (·.after τ) := by
  induction r with
  | empty => exact fun c τ => rfl
  | set s =>
    intro c τ
    simp only [ways, Cursor.read, Cursor.after]
    split
    · rfl
    · split <;> rfl
  | look l =>
    intro c τ
    rw [ways, ways, show (c.after τ).place = c.place from rfl]
    cases c.place.satisfies l <;> rfl
  | cat r s ihr ihs =>
    intro c τ
    rw [ways, ways, ihr, List.flatMap_map, List.map_flatMap]
    exact List.flatMap_congr fun d _ => ihs d τ
  | alt r s ihr ihs => intro c τ; rw [ways, ways, ihr, ihs, List.map_append]
  | star r greedy ih => exact fun c τ => rounds_after (fun c => ih c τ) _ c
  | plus r greedy ih =>
    intro c τ
    rw [ways, ways, ih, List.flatMap_map, List.map_flatMap]
    exact List.flatMap_congr fun d _ => rounds_after (fun c => ih c τ) _ d
  | group n r ih =>
    intro c τ
    rw [ways, ways, show (c.after τ).mark (2 * n) = (c.mark (2 * n)).after τ from rfl, ih, List.map_map,
      List.map_map]
    rfl

/-! ## What a way reads -/

/-- A way from `c` to `d` reads `t`. -/
structure Reads (c d : Cursor) (t : List Char) : Prop where
  pre : t <+: c.place.rest
  place : d.place = c.place.past t

namespace Reads

theorem refl (c : Cursor) : Reads c c [] := ⟨List.nil_prefix, (Place.past_nil _).symm⟩

theorem trans {c d e : Cursor} {t u : List Char} (h₁ : Reads c d t) (h₂ : Reads d e u) :
    Reads c e (t ++ u) := by
  obtain ⟨v, hv⟩ := h₂.pre
  refine ⟨⟨v, ?_⟩, by rw [h₂.place, h₁.place, Place.past_past]⟩
  rw [List.append_assoc, hv, h₁.place, ← Place.rest_past_prefix h₁.pre]

theorem rest {c d : Cursor} {t : List Char} (h : Reads c d t) : c.place.rest = t ++ d.place.rest := by
  rw [h.place]; exact Place.rest_past_prefix h.pre

theorem left_eq {c d : Cursor} {t : List Char} (h : Reads c d t) : c.left = t.length + d.left := by
  unfold Cursor.left; rw [h.rest, List.length_append]

theorem left_lt {c d : Cursor} {t : List Char} (h : Reads c d t) (ht : t ≠ []) : d.left < c.left := by
  rw [h.left_eq]; have := List.length_pos_of_ne_nil ht; omega

end Reads

/-- What a way of an expression reads: something if the expression cannot match nothing, and then
one of its first characters. -/
structure Spelled (r : Regex) (c d : Cursor) (t : List Char) : Prop extends Reads c d t where
  some_read : r.nullable = false → t ≠ []
  first : ∀ ch ∈ t.head?, r.first.holds ch = true

theorem holds_union {a b : CharSet} {ch : Char} :
    (CharSet.union a b).holds ch = true ↔ a.holds ch = true ∨ b.holds ch = true := by
  simp [CharSet.holds]

/-- Where an expression runs, it reads a prefix of the text that is left. -/
theorem spelled_of_runs {r : Regex} {p q : Place} (h : r.Runs p q) : ∃ t, Spelled r ⟨p, []⟩ ⟨q, []⟩ t := by
  induction h with
  | empty => exact ⟨[], Reads.refl _, by simp [nullable], by simp⟩
  | @set s p ch rest hp hs => exact ⟨[ch], ⟨⟨rest, by simp [hp]⟩, rfl⟩, by simp, by simpa [first] using hs⟩
  | look => exact ⟨[], Reads.refl _, by simp [nullable], by simp⟩
  | @cat r s p q e _ _ ihr ihs =>
    obtain ⟨t, ht⟩ := ihr
    obtain ⟨u, hu⟩ := ihs
    refine ⟨t ++ u, ht.toReads.trans hu.toReads, fun hn => ?_, fun ch hch => ?_⟩
    · rw [nullable, Bool.and_eq_false_iff] at hn
      rcases hn with hn | hn
      · simp [ht.some_read hn]
      · simp [hu.some_read hn]
    · cases t with
      | nil =>
        have hn : r.nullable = true := by by_contra hn; exact ht.some_read (by simpa using hn) rfl
        rw [first, if_pos hn, holds_union]
        exact Or.inr (hu.first ch hch)
      | cons a t =>
        have := ht.first ch hch
        rw [first]; split
        · exact holds_union.2 (Or.inl this)
        · exact this
  | left _ ih =>
    obtain ⟨t, ht⟩ := ih
    exact ⟨t, ht.toReads, fun hn => ht.some_read (by simp [nullable] at hn; exact hn.1),
      fun ch hch => holds_union.2 (Or.inl (ht.first ch hch))⟩
  | right _ ih =>
    obtain ⟨t, ht⟩ := ih
    exact ⟨t, ht.toReads, fun hn => ht.some_read (by simp [nullable] at hn; exact hn.2),
      fun ch hch => holds_union.2 (Or.inr (ht.first ch hch))⟩
  | stop => exact ⟨[], Reads.refl _, by simp [nullable], by simp⟩
  | more _ _ ihr ihs =>
    obtain ⟨t, ht⟩ := ihr
    obtain ⟨u, hu⟩ := ihs
    refine ⟨t ++ u, ht.toReads.trans hu.toReads, by simp [nullable], fun ch hch => ?_⟩
    cases t with
    | nil => exact hu.first ch hch
    | cons a t => exact ht.first ch hch
  | plus _ _ ihr ihs =>
    obtain ⟨t, ht⟩ := ihr
    obtain ⟨u, hu⟩ := ihs
    refine ⟨t ++ u, ht.toReads.trans hu.toReads, fun hn => ?_, fun ch hch => ?_⟩
    · simp [ht.some_read hn]
    · cases t with
      | nil => exact hu.first ch hch
      | cons a t => exact ht.first ch hch
  | group _ ih =>
    obtain ⟨t, ht⟩ := ih
    exact ⟨t, ht.toReads, ht.some_read, ht.first⟩

/-- A way reads a prefix of the text that is left. -/
theorem ways_spelled (r : Regex) (c d : Cursor) (h : d ∈ r.ways c) : ∃ t, Spelled r c d t := by
  obtain ⟨t, ht⟩ := spelled_of_runs (runs_of_mem_ways r c d h)
  exact ⟨t, ⟨ht.pre, ht.place⟩, ht.some_read, ht.first⟩

theorem ways_reads {r : Regex} {c d : Cursor} (h : d ∈ r.ways c) : ∃ t, Reads c d t :=
  let ⟨t, ht⟩ := ways_spelled r c d h; ⟨t, ht.toReads⟩

theorem left_lt_of_ways {r : Regex} (hr : r.nullable = false) {c d : Cursor} (h : d ∈ r.ways c) :
    d.left < c.left :=
  let ⟨_, ht⟩ := ways_spelled r c d h; ht.left_lt (ht.some_read hr)

/-- Where an expression runs, its program can start. -/
theorem canStart_of_runs {r : Regex} {p q : Place} (h : r.Runs p q) : r.program.canStart p.rest.head? = true := by
  obtain ⟨t, ht⟩ := spelled_of_runs h
  show (r.nullable || p.rest.head?.any r.first.holds) = true
  cases t with
  | nil =>
    have hn : r.nullable = true := by by_contra hn; exact ht.some_read (by simpa using hn) rfl
    rw [hn, Bool.true_or]
  | cons a t =>
    rw [show p.rest = (a :: t) ++ q.rest from ht.rest, Bool.or_eq_true]
    exact Or.inr (ht.first a rfl)

theorem canStart_of_ways {r : Regex} {c d : Cursor} (h : d ∈ r.ways c) :
    r.program.canStart c.place.rest.head? = true := canStart_of_runs (runs_of_mem_ways r c d h)

/-! ## Loops -/

theorem rounds_of_left_eq_zero (body : Cursor → List Cursor) (greedy : Bool) (n : Nat) {c : Cursor}
    (h : c.left = 0) : rounds body greedy (n + 1) c = [c] := by
  have : (body c).flatMap (fun d => if d.left < c.left then rounds body greedy n d else []) = [] := by
    refine List.flatMap_eq_nil_iff.2 fun d _ => if_neg ?_
    omega
  rw [rounds, this]
  cases greedy <;> rfl

/-- More rounds than there is text left make no difference. -/
theorem rounds_fuel (body : Cursor → List Cursor) (greedy : Bool) :
    ∀ (m n : Nat) (c : Cursor), c.left ≤ m → c.left ≤ n →
      rounds body greedy m c = rounds body greedy n c
  | 0, 0, _, _, _ => rfl
  | 0, n + 1, c, hm, _ => by rw [rounds, rounds_of_left_eq_zero body greedy n (by omega)]
  | m + 1, 0, c, _, hn => by rw [rounds, rounds_of_left_eq_zero body greedy m (by omega)]
  | m + 1, n + 1, c, hm, hn => by
    have : (body c).flatMap (fun d => if d.left < c.left then rounds body greedy m d else []) =
        (body c).flatMap (fun d => if d.left < c.left then rounds body greedy n d else []) := by
      refine List.flatMap_congr fun d _ => ?_
      split
      · exact rounds_fuel body greedy m n d (by omega) (by omega)
      · rfl
    simp only [rounds, this]

/-- A loop whose body reads prefers another round if it is greedy, and else to end. -/
theorem ways_star {r : Regex} (hr : r.nullable = false) (greedy : Bool) (c : Cursor) :
    (star r greedy).ways c =
      if greedy then (r.ways c).flatMap (star r greedy).ways ++ [c]
      else c :: (r.ways c).flatMap (star r greedy).ways := by
  have : (r.ways c).flatMap (fun d => if d.left < c.left then rounds r.ways greedy c.left d else []) =
      (r.ways c).flatMap (star r greedy).ways := by
    refine List.flatMap_congr fun d hd => ?_
    have hlt := left_lt_of_ways hr hd
    rw [if_pos hlt]
    exact rounds_fuel _ _ _ _ d hlt.le le_rfl
  rw [← this, ways, rounds_fuel r.ways greedy c.left (c.left + 1) c le_rfl (Nat.le_succ _), rounds]

theorem ways_plus (r : Regex) (greedy : Bool) (c : Cursor) :
    (plus r greedy).ways c = (r.ways c).flatMap (star r greedy).ways := rfl

end TemporalTagger.Regex
