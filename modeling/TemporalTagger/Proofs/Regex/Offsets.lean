/-
Whatever a program does, the group boundaries it passes lie between characters of the text it runs
on, and so do the ends of every group of every match. Main fact: `isCut_of_mem_allMatches`.
-/
import TemporalTagger.Proofs.Text.Cuts
import TemporalTagger.Regex.Match

namespace TemporalTagger.Regex

open Text

variable {text : List Char}

/-- A place is one of a text. -/
def Place.LiesIn (p : Place) (text : List Char) : Prop := ∃ t, text = t ++ p.rest ∧ byteLength t = p.offset

/-- All boundaries of a trail are cuts of a text. -/
def Trail.Cuts (τ : Trail) (text : List Char) : Prop := ∀ e ∈ τ, IsCut text e.2

namespace Place.LiesIn

variable {p : Place}

theorem isCut (h : p.LiesIn text) : IsCut text p.offset := by
  obtain ⟨t, ht, hp⟩ := h
  exact ⟨t, ⟨p.rest, ht.symm⟩, hp⟩

theorem step {offset : Nat} {before : Option Char} {ch : Char} {rest : List Char}
    (h : LiesIn ⟨offset, before, ch :: rest⟩ text) : LiesIn ⟨offset + ch.utf8Size, some ch, rest⟩ text := by
  obtain ⟨t, ht, hp⟩ := h
  refine ⟨t ++ [ch], by rw [ht, List.append_assoc, List.singleton_append], ?_⟩
  rw [byteLength_append, show byteLength t = offset from hp]
  rfl

theorem next (h : p.LiesIn text) : ∀ q ∈ p.next?, q.LiesIn text := by
  intro q hq
  obtain ⟨offset, before, _ | ⟨ch, rest⟩⟩ := p
  · cases hq
  · obtain rfl := Option.some.inj hq
    exact h.step

theorem advanceTo (h : p.LiesIn text) (stop : Nat) : (p.advanceTo stop).LiesIn text := by
  obtain ⟨offset, before, rest⟩ := p
  show (Place.advanceTo.go stop offset before rest).LiesIn text
  induction rest generalizing offset before with
  | nil => exact h
  | cons ch rest ih =>
    rw [Place.advanceTo.go]
    split
    · exact ih _ _ h.step
    · exact h

end Place.LiesIn

/-! ## Runs -/

theorem settle_cuts (code : Array Instr) {here : Place} (hp : here.LiesIn text) :
    ∀ (fuel : Nat) (threads : List Thread) (reached : Nat) (waiting : List (CharSet × Thread)),
    (∀ t ∈ threads, t.trail.Cuts text) → (∀ w ∈ waiting, w.2.trail.Cuts text) →
    (∀ τ ∈ (settle code here fuel threads reached waiting).accepted, τ.Cuts text) ∧
      ∀ w ∈ (settle code here fuel threads reached waiting).waiting, w.2.trail.Cuts text
  | 0, _, _, _, _, hw => ⟨by simp [settle], by simpa [settle] using hw⟩
  | _ + 1, [], _, _, _, hw => ⟨by simp [settle], by simpa [settle] using hw⟩
  | fuel + 1, ⟨pc, τ⟩ :: threads, reached, waiting, ht, hw => by
    obtain ⟨h, ht⟩ := List.forall_mem_cons.1 ht
    have skip : ∀ reached, _ := fun reached => settle_cuts code hp fuel threads reached waiting ht hw
    have go : ∀ (next : Nat) (σ : Trail), σ.Cuts text → ∀ reached, _ := fun next σ h' reached =>
      settle_cuts code hp fuel (⟨next, σ⟩ :: threads) reached waiting (List.forall_mem_cons.2 ⟨h', ht⟩) hw
    rw [settle]
    split
    · exact skip reached
    · split
      · exact skip _
      · exact settle_cuts code hp fuel threads _ _ ht (List.forall_mem_cons.2 ⟨h, hw⟩)
      · exact go _ τ h _
      · exact settle_cuts code hp fuel _ _ _ (List.forall_mem_cons.2 ⟨h, List.forall_mem_cons.2 ⟨h, ht⟩⟩) hw
      · split
        · exact go _ τ h _
        · exact skip _
      · exact go _ ((_, here.offset) :: τ) (List.forall_mem_cons.2 ⟨hp.isCut, h⟩) _
      · exact ⟨by simpa using h, fun w hm => hw w (List.mem_reverse.1 hm)⟩

theorem enter_cuts {p : Program} {threads : List Thread} {known : Option Trail} {next : Option Char}
    (ht : ∀ t ∈ threads, t.trail.Cuts text) : ∀ t ∈ p.enter threads known next, t.trail.Cuts text := by
  unfold Program.enter
  split
  · exact List.forall_mem_append.2 ⟨ht, by simp [Trail.Cuts]⟩
  · exact ht

theorem or_cuts {a b : Option Trail} (ha : ∀ τ ∈ a, τ.Cuts text) (hb : ∀ τ ∈ b, τ.Cuts text) :
    ∀ τ ∈ (a <|> b), τ.Cuts text := by
  cases a with
  | none => exact hb
  | some => exact ha

theorem follow_cuts (p : Program) : ∀ (rest : List Char) (offset : Nat) (before : Option Char)
    (threads : List Thread) (known : Option Trail), Place.LiesIn ⟨offset, before, rest⟩ text →
    (∀ t ∈ threads, t.trail.Cuts text) → (∀ τ ∈ known, τ.Cuts text) →
    ∀ τ ∈ p.follow offset before threads known rest, τ.Cuts text
  | [], offset, before, threads, known, hp, ht, hk => by
    rw [Program.follow]
    exact or_cuts (settle_cuts _ hp _ _ 0 [] (enter_cuts ht) (by simp)).1 hk
  | ch :: rest, offset, before, threads, known, hp, ht, hk => by
    have hs := settle_cuts p.code hp (p.fuel (p.enter threads known (some ch)))
      (p.enter threads known (some ch)) 0 [] (enter_cuts ht) (by simp)
    rw [Program.follow]
    revert hs
    generalize settle p.code ⟨offset, before, ch :: rest⟩ (p.fuel (p.enter threads known (some ch)))
      (p.enter threads known (some ch)) 0 [] = settled
    intro hs
    have hk := or_cuts hs.1 hk
    dsimp only
    split
    · exact hk
    · refine follow_cuts p rest _ _ _ _ hp.step (fun t hmem => ?_) hk
      obtain ⟨⟨chars, thread⟩, hw, h⟩ := List.mem_filterMap.1 hmem
      obtain ⟨-, rfl⟩ : chars.holds ch = true ∧ thread = t := by simpa using h
      exact hs.2 _ hw

theorem searchFrom_cuts (p : Program) {place : Place} (hp : place.LiesIn text) :
    ∀ τ ∈ p.searchFrom place, τ.Cuts text :=
  follow_cuts p place.rest _ _ [] none hp (by simp) (by simp)

/-! ## Matches -/

/-- The ends of all groups of a match are cuts of a text. -/
def Match.Cuts (m : Match) (text : List Char) : Prop :=
  ∀ n span, m.group? n = some span → IsCut text span.start ∧ IsCut text span.stop

theorem cuts_ofTrail {groupCount : Nat} {τ : Trail} (h : τ.Cuts text) : (Match.ofTrail groupCount τ).Cuts text := by
  have hlook : ∀ slot o, τ.lookup slot = some o → IsCut text o := fun slot o ho =>
    let ⟨_, _, hτ, _⟩ := List.lookup_eq_some_iff.1 ho
    h (slot, o) (by rw [hτ]; simp)
  intro n span hspan
  simp only [Match.group?, Match.ofTrail, List.getElem?_map, Option.join_eq_some_iff, Option.map_eq_some_iff] at hspan
  obtain ⟨k, -, hk⟩ := hspan
  obtain ⟨a, ha, b, hb, rfl⟩ : ∃ a, τ.lookup (2 * k) = some a ∧ ∃ b, τ.lookup (2 * k + 1) = some b ∧
      (⟨a, b⟩ : Span) = span := by simpa [Option.bind_eq_some_iff] using hk
  exact ⟨hlook _ a ha, hlook _ b hb⟩

end Regex

namespace Pattern

open Regex Text

variable {text : List Char}

theorem findFrom_cuts (p : Pattern) {place : Place} (hp : place.LiesIn text) :
    ∀ m ∈ p.findFrom place, m.Cuts text := by
  intro m hm
  obtain ⟨τ, hτ, rfl⟩ := Option.map_eq_some_iff.1 hm
  exact cuts_ofTrail (searchFrom_cuts _ hp τ hτ)

theorem matchesFrom_cuts (p : Pattern) : ∀ (fuel : Nat) (place : Place) (last : Option Nat),
    place.LiesIn text → ∀ m ∈ p.matchesFrom fuel place last, m.Cuts text
  | 0, _, _, _, _, hm => by cases hm
  | fuel + 1, place, last, hp, m, hm => by
    have goOn : ∀ m', m'.Cuts text →
        m ∈ m' :: p.matchesFrom fuel (place.advanceTo m'.span.stop) (some m'.span.stop) → m.Cuts text := by
      intro m' hm' h
      rcases List.mem_cons.1 h with rfl | h
      · exact hm'
      · exact matchesFrom_cuts p fuel _ _ (hp.advanceTo _) m h
    rw [matchesFrom] at hm
    split at hm
    · cases hm
    next m' hm' =>
      dsimp only at hm
      split at hm
      · split at hm
        · cases hm
        next m'' hm'' =>
          obtain ⟨q, hq, hm''⟩ := Option.bind_eq_some_iff.1 hm''
          exact goOn m'' (findFrom_cuts p (hp.next q hq) m'' hm'') hm
      · exact goOn m' (findFrom_cuts p hp m' hm') hm

/-- The groups of every match end between characters of the text. -/
theorem isCut_of_mem_allMatches {p : Pattern} {s : String} {m : Match} (h : m ∈ p.allMatches s) :
    m.Cuts s.toList :=
  matchesFrom_cuts p _ _ _ ⟨[], rfl, rfl⟩ m h

end TemporalTagger.Pattern
