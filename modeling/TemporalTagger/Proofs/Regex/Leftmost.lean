/-
The search follows all threads at once and still finds what backtracking finds: of the threads at a
place, those before the first that leads to a match only starve, and no instruction reached before
it leads to a match by as few steps. Main facts: `searchFrom_program` and `occursIn_iff`.
-/
import TemporalTagger.Proofs.Regex.Backtracking
import TemporalTagger.Regex.Match

namespace TemporalTagger.Regex

variable {code : Array Instr}

/-! ## Threads -/

def Fails (code : Array Instr) (p : Place) (t : Thread) : Prop := Decides code t.pc ⟨p, t.trail⟩ none

/-- A thread leads to a match with the given trail, by so many steps and no fewer. -/
structure Succeeds (code : Array Instr) (p : Place) (t : Thread) (res : Trail) (n : Nat) : Prop where
  run : backtrack code n t.pc ⟨p, t.trail⟩ = some (some res)
  least : ∀ m, m < n → backtrack code m t.pc ⟨p, t.trail⟩ = none

/-- A thread that waits to read leads nowhere. -/
def Starved (code : Array Instr) (p : Place) (w : CharSet × Thread) : Prop :=
  ∀ ch rest, p.rest = ch :: rest → w.1.holds ch = true → Fails code (p.past [ch]) w.2

/-- No instruction that the threads have reached leads to a match by so few steps. -/
def Barren (code : Array Instr) (p : Place) (reached n : Nat) : Prop :=
  ∀ pc, reached.testBit pc = true → ∀ τ res, backtrack code n pc ⟨p, τ⟩ ≠ some (some res)

theorem exists_succeeds {p : Place} {t : Thread} {res : Trail} {n : Nat}
    (h : backtrack code n t.pc ⟨p, t.trail⟩ = some (some res)) :
    ∃ m, m ≤ n ∧ Succeeds code p t res m := by
  classical
  have hex : ∃ m, (backtrack code m t.pc ⟨p, t.trail⟩).isSome = true := ⟨n, by rw [h]; rfl⟩
  have hle : Nat.find hex ≤ n := Nat.find_min' hex (by rw [h]; rfl)
  obtain ⟨res', hres'⟩ := Option.isSome_iff_exists.1 (Nat.find_spec hex)
  obtain rfl : res' = some res := Decides.unique ⟨_, hres'⟩ ⟨_, h⟩
  exact ⟨_, hle, hres', fun m hm => by simpa using Nat.find_min hex hm⟩

theorem ne_some_some_of_trail {n pc : Nat} {p : Place} {σ : Trail}
    (h : ∀ res, backtrack code n pc ⟨p, σ⟩ ≠ some (some res)) (τ res : Trail) :
    backtrack code n pc ⟨p, τ⟩ ≠ some (some res) := by
  intro hτ
  have := @backtrack_trail code σ τ n pc p
  rw [hτ] at this
  rcases hσ : backtrack code n pc ⟨p, σ⟩ with _ | _ | res' <;> rw [hσ] at this <;> simp at this
  exact h _ hσ

theorem Fails.not_success {p : Place} {t : Thread} (h : Fails code p t) (n : Nat) (τ res : Trail) :
    backtrack code n t.pc ⟨p, τ⟩ ≠ some (some res) :=
  ne_some_some_of_trail (fun _ hs => by cases Decides.unique h ⟨n, hs⟩) τ res

namespace Barren

variable {p : Place} {reached n m pc : Nat}

theorem mono (h : Barren code p reached n) (hm : m ≤ n) : Barren code p reached m :=
  fun pc hpc τ res hs => h pc hpc τ res (backtrack_mono hm hs)

theorem reach (h : Barren code p reached n) (hpc : ∀ τ res, backtrack code n pc ⟨p, τ⟩ ≠ some (some res)) :
    Barren code p (reached ||| (1 <<< pc)) n := by
  intro q hq τ res
  rw [Nat.testBit_or, Bool.or_eq_true] at hq
  rcases hq with hq | hq
  · exact h q hq τ res
  · obtain rfl : q = pc := by
      rw [Nat.one_shiftLeft, Nat.testBit_two_pow] at hq
      exact (by simpa using hq : pc = q).symm
    exact hpc τ res

end Barren

/-! ## One step of a thread -/

namespace Fails

variable {p : Place} {pc next first second : Nat} {τ : Trail}

theorem jump (h : Fails code p ⟨pc, τ⟩) (hc : code[pc]? = some (.jump next)) : Fails code p ⟨next, τ⟩ := by
  obtain ⟨_ | n, h⟩ := h
  · cases h
  · simp only [backtrack, hc] at h
    exact ⟨n, h⟩

theorem mark {slot : Nat} (h : Fails code p ⟨pc, τ⟩) (hc : code[pc]? = some (.mark slot next)) :
    Fails code p ⟨next, (slot, p.offset) :: τ⟩ := by
  obtain ⟨_ | n, h⟩ := h
  · cases h
  · simp only [backtrack, hc] at h
    exact ⟨n, h⟩

theorem check {l : Look} (h : Fails code p ⟨pc, τ⟩) (hc : code[pc]? = some (.check l next))
    (hl : p.satisfies l = true) : Fails code p ⟨next, τ⟩ := by
  obtain ⟨_ | n, h⟩ := h
  · cases h
  · simp only [backtrack, hc, hl, if_true] at h
    exact ⟨n, h⟩

theorem fork (h : Fails code p ⟨pc, τ⟩) (hc : code[pc]? = some (.fork first second)) :
    Fails code p ⟨first, τ⟩ ∧ Fails code p ⟨second, τ⟩ := by
  obtain ⟨_ | n, h⟩ := h
  · cases h
  · simp only [backtrack, hc] at h
    split at h
    next hf => exact ⟨⟨n, hf⟩, ⟨n, h⟩⟩
    next hf => exact absurd h (hf ·)

theorem read {s : CharSet} (h : Fails code p ⟨pc, τ⟩) (hc : code[pc]? = some (.read s next)) :
    Starved code p (s, ⟨next, τ⟩) := by
  intro ch rest hp hs
  obtain ⟨_ | n, h⟩ := h
  · cases h
  · simp only [backtrack, hc, Cursor.read, hp, show s.holds ch = true from hs, if_true] at h
    exact ⟨n, h⟩

theorem not_accept (h : Fails code p ⟨pc, τ⟩) : code[pc]? ≠ some .accept := fun hc => by
  cases Decides.unique h (Decides.accept hc)

end Fails

/-! ## Settling -/

theorem settle_fails {p : Place} : ∀ (fuel : Nat) (threads : List Thread) (reached : Nat)
    (waiting : List (CharSet × Thread)), (∀ t ∈ threads, Fails code p t) →
    (∀ w ∈ waiting, Starved code p w) →
    (settle code p fuel threads reached waiting).accepted = none ∧
      ∀ w ∈ (settle code p fuel threads reached waiting).waiting, Starved code p w
  | 0, _, _, _, _, hw => ⟨rfl, by simpa [settle] using hw⟩
  | _ + 1, [], _, _, _, hw => ⟨rfl, by simpa [settle] using hw⟩
  | fuel + 1, ⟨pc, τ⟩ :: threads, reached, waiting, ht, hw => by
    obtain ⟨h, ht⟩ := List.forall_mem_cons.1 ht
    have skip : ∀ reached, _ := fun reached => settle_fails fuel threads reached waiting ht hw
    have go : ∀ t, Fails code p t → ∀ reached, _ := fun t h' reached =>
      settle_fails fuel (t :: threads) reached waiting (List.forall_mem_cons.2 ⟨h', ht⟩) hw
    rw [settle]
    split
    · exact skip reached
    · split
      · exact skip _
      next hc => exact settle_fails fuel threads _ _ ht (List.forall_mem_cons.2 ⟨h.read hc, hw⟩)
      next hc => exact go _ (h.jump hc) _
      next hc =>
        obtain ⟨h₁, h₂⟩ := h.fork hc
        exact settle_fails fuel _ _ _ (List.forall_mem_cons.2 ⟨h₁, List.forall_mem_cons.2 ⟨h₂, ht⟩⟩) hw
      next hc =>
        split
        next hl => exact go _ (h.check hc hl) _
        · exact skip _
      next hc => exact go _ (h.mark hc) _
      next hc => exact absurd hc h.not_accept

/-- What waits goes on waiting. -/
theorem settle_waiting {p : Place} : ∀ (fuel : Nat) (threads : List Thread) (reached : Nat)
    (waiting : List (CharSet × Thread)),
    waiting.reverse <+: (settle code p fuel threads reached waiting).waiting
  | 0, _, _, _ => List.prefix_rfl
  | _ + 1, [], _, _ => List.prefix_rfl
  | fuel + 1, ⟨pc, τ⟩ :: threads, reached, waiting => by
    rw [settle]
    split
    · exact settle_waiting fuel ..
    · split
      · exact settle_waiting fuel ..
      next s next _ =>
        refine List.IsPrefix.trans ?_ (settle_waiting fuel ..)
        rw [List.reverse_cons]
        exact List.prefix_append ..
      · exact settle_waiting fuel ..
      · exact settle_waiting fuel ..
      · split <;> exact settle_waiting fuel ..
      · exact settle_waiting fuel ..
      · exact List.prefix_rfl

/-- The number of instructions not reached. -/
def unreached (code : Array Instr) (reached : Nat) : Nat :=
  ((Finset.range code.size).filter fun pc => reached.testBit pc = false).card

theorem unreached_le (code : Array Instr) (reached pc : Nat) :
    unreached code (reached ||| (1 <<< pc)) ≤ unreached code reached := by
  refine Finset.card_le_card fun q hq => ?_
  rw [Finset.mem_filter, Nat.testBit_or, Bool.or_eq_false_iff] at hq
  exact Finset.mem_filter.2 ⟨hq.1, hq.2.1⟩

theorem unreached_reach {reached pc : Nat} {i : Instr} (hpc : code[pc]? = some i)
    (hr : ¬ reached.testBit pc = true) : unreached code (reached ||| (1 <<< pc)) < unreached code reached := by
  obtain ⟨hpc, -⟩ := Array.getElem?_eq_some_iff.1 hpc
  refine Finset.card_lt_card ((Finset.ssubset_iff_of_subset fun q hq => ?_).2 ⟨pc, ?_, ?_⟩)
  · rw [Finset.mem_filter, Nat.testBit_or, Bool.or_eq_false_iff] at hq
    exact Finset.mem_filter.2 ⟨hq.1, hq.2.1⟩
  · exact Finset.mem_filter.2 ⟨Finset.mem_range.2 hpc, by simpa using hr⟩
  · simp [Nat.testBit_or, Nat.one_shiftLeft]

/-- What settling makes of threads of which one leads to a match: it is accepted, or it waits and
only threads that lead nowhere wait before it. -/
def Kept (code : Array Instr) (p : Place) (res : Trail) (s : Settled) : Prop :=
  (s.accepted = some res ∧ ∀ w ∈ s.waiting, Starved code p w) ∨
    ∃ pre w post ch rest n, s.waiting = pre ++ w :: post ∧ (∀ w ∈ pre, Starved code p w) ∧
      p.rest = ch :: rest ∧ w.1.holds ch = true ∧ Succeeds code (p.past [ch]) w.2 res n

theorem settle_kept {p : Place} {res : Trail} : ∀ (fuel : Nat) (pre : List Thread) (t : Thread)
    (post : List Thread) (reached : Nat) (waiting : List (CharSet × Thread)) (n : Nat),
    (∀ u ∈ pre, Fails code p u) → Succeeds code p t res n → Barren code p reached n →
    (∀ w ∈ waiting, Starved code p w) → pre.length + 2 * unreached code reached < fuel →
    Kept code p res (settle code p fuel (pre ++ t :: post) reached waiting)
  | 0, _, _, _, _, _, _, _, _, _, _, hf => by omega
  | fuel + 1, [], ⟨pc, τ⟩, post, reached, waiting, n, _, ht, hb, hw, hf => by
    have hr : ¬ reached.testBit pc = true := fun hr => hb pc hr τ res ht.run
    obtain ⟨_ | n, hrun, hleast⟩ := n, ht
    · cases hrun
    have hb' : Barren code p (reached ||| (1 <<< pc)) n := (hb.mono n.le_succ).reach
      (ne_some_some_of_trail (σ := τ) fun res h => by cases (hleast n n.lt_succ_self).symm.trans h)
    have go : ∀ u v, (∀ v ∈ u, Fails code p v) → backtrack code n v.pc ⟨p, v.trail⟩ = some (some res) →
        u.length ≤ 1 → (∃ i, code[pc]? = some i) → ∀ post,
        Kept code p res (settle code p fuel (u ++ v :: post) (reached ||| (1 <<< pc)) waiting) := by
      intro u v hu hv hlen ⟨i, hi⟩ post
      obtain ⟨m, hm, hv⟩ := exists_succeeds hv
      have := unreached_reach hi hr
      simp only [List.length_nil] at hf
      exact settle_kept fuel u v post _ waiting m hu hv (hb'.mono hm) hw (by omega)
    rw [backtrack] at hrun
    rw [List.nil_append, settle, if_neg hr]
    cases hc : code[pc]? with
    | none => simp only [hc] at hrun; cases hrun
    | some i =>
      cases i with
      | read s next =>
        simp only [hc, Cursor.read] at hrun ⊢
        rcases hp : p.rest with _ | ⟨ch, rest⟩
        · simp [hp] at hrun
        · by_cases hs : s.holds ch = true
          · simp only [hp, hs, if_true] at hrun
            obtain ⟨m, -, hm⟩ := exists_succeeds (p := p.past [ch]) (t := ⟨next, τ⟩) hrun
            obtain ⟨more, hmore⟩ := @settle_waiting code p fuel post
              (reached ||| (1 <<< pc)) ((s, ⟨next, τ⟩) :: waiting)
            refine Or.inr ⟨waiting.reverse, (s, ⟨next, τ⟩), more, ch, rest, m, ?_, ?_, hp, hs, hm⟩
            · rw [← hmore, List.reverse_cons, List.append_assoc, List.singleton_append]
            · exact fun w h => hw w (List.mem_reverse.1 h)
          · simp [hp, hs] at hrun
      | jump next =>
        simp only [hc] at hrun ⊢
        exact go [] ⟨next, τ⟩ (by simp) hrun (by simp) ⟨_, hc⟩ post
      | fork first second =>
        simp only [hc] at hrun ⊢
        split at hrun
        next hf => exact go [⟨first, τ⟩] ⟨second, τ⟩ (by simpa using ⟨n, hf⟩) hrun (by simp) ⟨_, hc⟩ post
        next => exact go [] ⟨first, τ⟩ (by simp) hrun (by simp) ⟨_, hc⟩ (⟨second, τ⟩ :: post)
      | check l next =>
        simp only [hc] at hrun ⊢
        by_cases hl : p.satisfies l = true
        · simp only [hl, if_true] at hrun ⊢
          exact go [] ⟨next, τ⟩ (by simp) hrun (by simp) ⟨_, hc⟩ post
        · simp [hl] at hrun
      | mark slot next =>
        simp only [hc] at hrun ⊢
        exact go [] ⟨next, (slot, p.offset) :: τ⟩ (by simp) hrun (by simp) ⟨_, hc⟩ post
      | accept =>
        simp only [hc, Option.some.injEq] at hrun ⊢
        exact Or.inl ⟨by rw [← hrun], fun w h => hw w (List.mem_reverse.1 h)⟩
  | fuel + 1, ⟨pc, σ⟩ :: pre, t, post, reached, waiting, n, hp, ht, hb, hw, hf => by
    obtain ⟨h, hp⟩ := List.forall_mem_cons.1 hp
    have go : ∀ u, (∀ v ∈ u, Fails code p v) → u.length ≤ 2 → (∃ i, code[pc]? = some i) →
        ¬ reached.testBit pc = true → ∀ waiting, (∀ w ∈ waiting, Starved code p w) →
        Kept code p res
          (settle code p fuel (u ++ (pre ++ t :: post)) (reached ||| (1 <<< pc)) waiting) := by
      intro u hu hlen ⟨i, hi⟩ hr waiting hw
      have := unreached_reach hi hr
      rw [List.length_cons] at hf
      rw [← List.append_assoc]
      exact settle_kept fuel (u ++ pre) t post _ waiting n (List.forall_mem_append.2 ⟨hu, hp⟩) ht
        (hb.reach (h.not_success n)) hw (by rw [List.length_append]; omega)
    rw [List.cons_append, settle]
    rw [List.length_cons] at hf
    split
    · exact settle_kept fuel pre t post reached waiting n hp ht hb hw (by omega)
    next hr =>
      cases hc : code[pc]? with
      | none =>
        have := unreached_le code reached pc
        exact settle_kept fuel pre t post _ waiting n hp ht (hb.reach (h.not_success n)) hw (by omega)
      | some i =>
        cases i with
        | read s next => exact go [] (by simp) (by simp) ⟨_, hc⟩ hr _ (List.forall_mem_cons.2 ⟨h.read hc, hw⟩)
        | jump next => exact go [⟨next, σ⟩] (by simpa using h.jump hc) (by simp) ⟨_, hc⟩ hr _ hw
        | fork first second =>
          exact go [⟨first, σ⟩, ⟨second, σ⟩] (by simpa using h.fork hc) (by simp) ⟨_, hc⟩ hr _ hw
        | check l next =>
          simp only
          split
          next hl => exact go [⟨next, σ⟩] (by simpa using h.check hc hl) (by simp) ⟨_, hc⟩ hr _ hw
          · exact go [] (by simp) (by simp) ⟨_, hc⟩ hr _ hw
        | mark slot next =>
          exact go [⟨next, (slot, p.offset) :: σ⟩] (by simpa using h.mark hc) (by simp) ⟨_, hc⟩ hr _ hw
        | accept => exact absurd hc h.not_accept

/-! ## Following threads -/

theorem kept_of_succeeds (p : Program) {place : Place} {pre post : List Thread} {t : Thread} {res : Trail}
    {n : Nat} (hpre : ∀ u ∈ pre, Fails p.code place u) (ht : Succeeds p.code place t res n) :
    Kept p.code place res
      (settle p.code place (p.fuel (pre ++ t :: post)) (pre ++ t :: post) 0 []) := by
  refine settle_kept _ pre t post 0 [] n hpre ht (fun pc h => by simp at h) (by simp) ?_
  have : unreached p.code 0 ≤ p.code.size := (Finset.card_filter_le _ _).trans (Finset.card_range _).le
  simp only [Program.fuel, List.length_append, List.length_cons]
  omega

/-- The threads that read the next character. -/
theorem fails_of_starved {p : Program} {place : Place} {ch : Char} {rest : List Char}
    (hp : place.rest = ch :: rest) {waiting : List (CharSet × Thread)}
    (hw : ∀ w ∈ waiting, Starved p.code place w) :
    ∀ t ∈ waiting.filterMap (fun (chars, thread) => if chars.holds ch then some thread else none),
      Fails p.code (place.past [ch]) t := by
  intro t ht
  obtain ⟨⟨chars, thread⟩, hmem, h⟩ := List.mem_filterMap.1 ht
  obtain ⟨hs, rfl⟩ : chars.holds ch = true ∧ thread = t := by simpa using h
  exact hw _ hmem ch rest hp hs

/-- Once a match is known, threads that lead nowhere do not change it. -/
theorem follow_known (p : Program) (res : Trail) : ∀ (text : List Char) (offset : Nat) (before : Option Char)
    (threads : List Thread), (∀ t ∈ threads, Fails p.code ⟨offset, before, text⟩ t) →
    p.follow offset before threads (some res) text = some res
  | [], offset, before, threads, ht => by
    obtain ⟨ha, -⟩ := settle_fails (p.fuel threads) threads 0 [] ht (by simp)
    simp [Program.follow, Program.enter, ha]
  | ch :: rest, offset, before, threads, ht => by
    obtain ⟨ha, hw⟩ := settle_fails (p.fuel threads) threads 0 [] ht (by simp)
    have := fails_of_starved rfl hw
    rw [Place.past_singleton rfl] at this
    simp only [Program.follow, Program.enter, Option.isNone_some, Bool.false_and, Bool.false_eq_true,
      if_false, ha, Option.orElse_eq_orElse, Option.orElse_none]
    split
    · rfl
    · exact follow_known p res rest _ _ _ this

/-- The first thread that leads to a match gets through. -/
theorem follow_kept (p : Program) (res : Trail) : ∀ (text : List Char) (offset : Nat)
    (before : Option Char) (threads : List Thread) (known : Option Trail),
    Kept p.code ⟨offset, before, text⟩ res
      (settle p.code ⟨offset, before, text⟩ (p.fuel (p.enter threads known text.head?))
        (p.enter threads known text.head?) 0 []) →
    p.follow offset before threads known text = some res
  | [], offset, before, threads, known, hk => by
    rcases hk with ⟨ha, -⟩ | ⟨_, _, _, _, _, _, -, -, h, -⟩
    · rw [Program.follow]
      simp only [List.head?_nil] at ha
      simp only [ha]
      rfl
    · cases h
  | ch :: rest, offset, before, threads, known, hk => by
    rw [Program.follow]
    rw [List.head?_cons] at hk
    revert hk
    generalize settle p.code ⟨offset, before, ch :: rest⟩ (p.fuel (p.enter threads known (some ch)))
      (p.enter threads known (some ch)) 0 [] = settled
    intro hk
    rcases hk with ⟨ha, hw⟩ | ⟨pre, w, post, ch', rest', n, hw, hpre, hp, hs, ht⟩
    · have := fails_of_starved rfl hw
      rw [Place.past_singleton rfl] at this
      simp only [ha, Option.orElse_eq_orElse, Option.orElse_some]
      split
      · rfl
      · exact follow_known p res rest _ _ _ this
    · cases hp
      have hpre := fails_of_starved rfl hpre
      rw [Place.past_singleton rfl] at hpre ht
      simp only [hw, List.filterMap_append, List.filterMap_cons, hs, if_true]
      rw [if_neg (by simp)]
      refine follow_kept p res rest _ _ _ _ ?_
      unfold Program.enter
      split
      · rw [List.append_assoc]
        exact kept_of_succeeds p hpre ht
      · exact kept_of_succeeds p hpre ht

/-! ## Leftmost matches -/

/-- The trail of the preferred match at a place. -/
def preferred (r : Regex) (p : Place) : Option Trail := ((group 0 r).ways ⟨p, []⟩).head?.map Cursor.trail

/-- The trail of the leftmost match at or after a place. -/
def leftmost (r : Regex) (p : Place) : Option Trail := (p.rest.inits.map p.past).findSome? r.preferred

theorem leftmost_cons (r : Regex) {p : Place} {ch : Char} {rest : List Char} (h : p.rest = ch :: rest) :
    r.leftmost p = (r.preferred p).or (r.leftmost (p.past [ch])) := by
  have hrest : (p.past [ch]).rest = rest := by simp [Place.past, h]
  have hmap : (rest.inits.map (ch :: ·)).map p.past = rest.inits.map (p.past [ch]).past := by
    rw [List.map_map]
    exact List.map_congr_left fun t _ => (Place.past_past p [ch] t).symm
  rw [leftmost, leftmost, h, hrest, List.inits_cons, List.map_cons, hmap, Place.past_nil, List.findSome?_cons]
  cases r.preferred p <;> rfl

theorem leftmost_nil (r : Regex) {p : Place} (h : p.rest = []) : r.leftmost p = r.preferred p := by
  rw [leftmost, h, List.inits, List.map_singleton, Place.past_nil, List.findSome?_singleton]

theorem leftmost_of_preferred {r : Regex} {p : Place} {res : Trail} (h : r.preferred p = some res) :
    r.leftmost p = some res := by
  cases hp : p.rest with
  | nil => rw [leftmost_nil r hp, h]
  | cons => rw [leftmost_cons r hp, h, Option.some_or]

theorem codeAt_program (r : Regex) :
    CodeAt r.program.code 0 ((group 0 r).code 0 (group 0 r).codeSize ++ [.accept]) :=
  fun i _ => by rw [Nat.zero_add]; exact List.getElem?_toArray

theorem accept_program (r : Regex) : r.program.code[(group 0 r).codeSize]? = some .accept := by
  have hend := (codeAt_program r).right.head
  rwa [length_code, Nat.zero_add] at hend

theorem decides_program {r : Regex} (hr : r.loopsRead = true) (p : Place) :
    Decides r.program.code 0 ⟨p, []⟩ (r.preferred p) := by
  have h := decides_code (group 0 r) hr 0 _ (codeAt_program r).left ⟨p, []⟩ (fun d => some d.trail)
    fun d _ => Decides.accept (accept_program r)
  have : r.preferred p = ((group 0 r).ways ⟨p, []⟩).findSome? fun d => some d.trail := by
    unfold preferred
    cases (group 0 r).ways ⟨p, []⟩ <;> rfl
  rwa [this]

theorem canStart_of_preferred {r : Regex} {p : Place} {res : Trail} (h : r.preferred p = some res) :
    r.program.canStart p.rest.head? = true := by
  unfold preferred at h
  cases hw : (group 0 r).ways ⟨p, []⟩ with
  | nil => rw [hw] at h; cases h
  | cons d ds =>
    obtain ⟨e, he, -⟩ := List.mem_map.1 (hw ▸ List.mem_cons_self : d ∈ (group 0 r).ways ⟨p, []⟩)
    exact canStart_of_ways he

/-- Threads that lead nowhere do not change what a search finds. -/
theorem follow_leftmost {r : Regex} (hr : r.loopsRead = true) : ∀ (text : List Char) (offset : Nat)
    (before : Option Char) (threads : List Thread),
    (∀ t ∈ threads, Fails r.program.code ⟨offset, before, text⟩ t) →
    r.program.follow offset before threads none text = r.leftmost ⟨offset, before, text⟩ := by
  intro text offset before threads ht
  have hstart := decides_program hr ⟨offset, before, text⟩
  cases hpref : r.preferred ⟨offset, before, text⟩ with
  | some res =>
    rw [hpref] at hstart
    obtain ⟨n, hn⟩ := hstart
    obtain ⟨m, -, hm⟩ := exists_succeeds (t := ⟨0, []⟩) hn
    rw [leftmost_of_preferred hpref]
    refine follow_kept _ res text offset before threads none ?_
    have henter : r.program.enter threads none text.head? = threads ++ [⟨0, []⟩] := by
      rw [Program.enter, show r.program.canStart text.head? = true from canStart_of_preferred hpref]
      rfl
    rw [henter]
    exact kept_of_succeeds _ ht hm
  | none =>
    rw [hpref] at hstart
    have henter : ∀ t ∈ r.program.enter threads none text.head?,
        Fails r.program.code ⟨offset, before, text⟩ t := by
      unfold Program.enter
      split
      · exact List.forall_mem_append.2 ⟨ht, fun t h => List.mem_singleton.1 h ▸ hstart⟩
      · exact ht
    obtain ⟨ha, hw⟩ := settle_fails (r.program.fuel (r.program.enter threads none text.head?)) _ 0 []
      henter (by simp)
    cases text with
    | nil =>
      rw [List.head?_nil] at ha
      rw [leftmost_nil r rfl, hpref, Program.follow]
      simp only [ha, Option.orElse_eq_orElse, Option.orElse_none]
    | cons ch rest =>
      have hnext := fails_of_starved rfl hw
      rw [Place.past_singleton rfl] at hnext
      rw [List.head?_cons] at ha hnext
      rw [leftmost_cons r rfl, hpref, Option.none_or, Place.past_singleton rfl, Program.follow]
      simp only [ha, Option.orElse_eq_orElse, Option.orElse_none, Option.isSome_none, Bool.and_false,
        Bool.false_eq_true, if_false]
      exact follow_leftmost hr rest _ _ _ hnext

/-- A search finds the preferred match at the first place that has one. -/
theorem searchFrom_program {r : Regex} (hr : r.loopsRead = true) (p : Place) :
    r.program.searchFrom p = r.leftmost p := follow_leftmost hr _ _ _ _ (by simp)

theorem preferred_isSome {r : Regex} {p : Place} : (r.preferred p).isSome = true ↔ r.ways ⟨p, []⟩ ≠ [] := by
  have h := ways_after r ⟨p, []⟩ [(0, p.offset)]
  unfold preferred
  rw [ways, show Cursor.mark (2 * 0) ⟨p, []⟩ = Cursor.after ⟨p, []⟩ [(0, p.offset)] from rfl, h]
  cases r.ways ⟨p, []⟩ <;> simp

/-- A pattern occurs in a text where it has a way after some prefix of it. -/
theorem occursIn_iff {source : String} {r : Regex} (hr : r.loopsRead = true) (text : String) :
    (Pattern.ofRegex source r).occursIn text = true ↔
      ∃ t, t <+: text.toList ∧ r.ways ⟨(Place.ofText text).past t, []⟩ ≠ [] := by
  show (r.program.searchFrom (Place.ofText text)).isSome = true ↔ _
  rw [searchFrom_program hr, leftmost, List.findSome?_isSome_iff]
  constructor
  · rintro ⟨p, hp, h⟩
    obtain ⟨t, ht, rfl⟩ := List.mem_map.1 hp
    exact ⟨t, (List.mem_inits ..).1 ht, preferred_isSome.1 h⟩
  · rintro ⟨t, ht, h⟩
    exact ⟨_, List.mem_map.2 ⟨t, (List.mem_inits ..).2 ht, rfl⟩, preferred_isSome.2 h⟩

end TemporalTagger.Regex
