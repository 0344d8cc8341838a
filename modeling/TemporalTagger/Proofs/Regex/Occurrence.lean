/-
Whether a pattern occurs in a text. For this it does not matter which thread is preferred, only that one of them gets
through, and so a loop whose body can match nothing is no exception. The threads dropped at a place do no harm: they are
at an instruction already reached, from which the match is no nearer. Main fact: `occursIn_iff_runs`.
-/
import TemporalTagger.Proofs.Regex.Leftmost

namespace TemporalTagger.Regex

variable {code : Array Instr}

/-! ## Arriving -/

/-- From an instruction, so many steps can lead to the end of the program. -/
def Arrives (code : Array Instr) : (steps pc : Nat) → Place → Prop
  | 0, pc, _ => code[pc]? = some .accept
  | n + 1, pc, p =>
    match code[pc]? with
    | some (.read s next) => ∃ ch rest, p.rest = ch :: rest ∧ s.holds ch = true ∧ Arrives code n next (p.past [ch])
    | some (.jump next) => Arrives code n next p
    | some (.fork first second) => Arrives code n first p ∨ Arrives code n second p
    | some (.check l next) => p.satisfies l = true ∧ Arrives code n next p
    | some (.mark _ next) => Arrives code n next p
    | some .accept | none => False

/-- From an instruction a match can be reached. -/
def Alive (code : Array Instr) (p : Place) (pc : Nat) : Prop := ∃ n, Arrives code n pc p

section

variable {p : Place} {n pc next first second : Nat}

theorem exists_of_arrives {i : Instr} (h : Arrives code n pc p) (hc : code[pc]? = some i) (hi : i ≠ .accept) :
    ∃ m, n = m + 1 := by
  cases n with
  | zero => exact absurd (Option.some.inj (hc.symm.trans h)) hi
  | succ m => exact ⟨m, rfl⟩

theorem arrives_read {s : CharSet} (hc : code[pc]? = some (.read s next)) : Arrives code (n + 1) pc p ↔
    ∃ ch rest, p.rest = ch :: rest ∧ s.holds ch = true ∧ Arrives code n next (p.past [ch]) := by
  rw [Arrives, hc]

theorem arrives_jump (hc : code[pc]? = some (.jump next)) : Arrives code (n + 1) pc p ↔ Arrives code n next p := by
  rw [Arrives, hc]

theorem arrives_fork (hc : code[pc]? = some (.fork first second)) :
    Arrives code (n + 1) pc p ↔ Arrives code n first p ∨ Arrives code n second p := by
  rw [Arrives, hc]

theorem arrives_check {l : Look} (hc : code[pc]? = some (.check l next)) :
    Arrives code (n + 1) pc p ↔ p.satisfies l = true ∧ Arrives code n next p := by
  rw [Arrives, hc]

theorem arrives_mark {slot : Nat} (hc : code[pc]? = some (.mark slot next)) :
    Arrives code (n + 1) pc p ↔ Arrives code n next p := by
  rw [Arrives, hc]

theorem arrives_loopFork {greedy : Bool} (hc : code[pc]? = some (loopFork greedy first next)) :
    Arrives code (n + 1) pc p ↔ Arrives code n first p ∨ Arrives code n next p := by
  cases greedy with
  | true => exact arrives_fork hc
  | false => exact (arrives_fork hc).trans or_comm

theorem alive_accept (hc : code[pc]? = some .accept) (p : Place) : Alive code p pc := ⟨0, hc⟩

theorem alive_read {s : CharSet} (hc : code[pc]? = some (.read s next)) {ch : Char} {rest : List Char}
    (hp : p.rest = ch :: rest) (hs : s.holds ch = true) (h : Alive code (p.past [ch]) next) : Alive code p pc :=
  let ⟨n, hn⟩ := h; ⟨n + 1, (arrives_read hc).2 ⟨ch, rest, hp, hs, hn⟩⟩

theorem alive_jump (hc : code[pc]? = some (.jump next)) (h : Alive code p next) : Alive code p pc :=
  let ⟨n, hn⟩ := h; ⟨n + 1, (arrives_jump hc).2 hn⟩

theorem alive_fork (hc : code[pc]? = some (.fork first second)) (h : Alive code p first ∨ Alive code p second) :
    Alive code p pc := by
  rcases h with ⟨n, hn⟩ | ⟨n, hn⟩
  · exact ⟨n + 1, (arrives_fork hc).2 (.inl hn)⟩
  · exact ⟨n + 1, (arrives_fork hc).2 (.inr hn)⟩

theorem alive_check {l : Look} (hc : code[pc]? = some (.check l next)) (hl : p.satisfies l = true)
    (h : Alive code p next) : Alive code p pc :=
  let ⟨n, hn⟩ := h; ⟨n + 1, (arrives_check hc).2 ⟨hl, hn⟩⟩

theorem alive_mark {slot : Nat} (hc : code[pc]? = some (.mark slot next)) (h : Alive code p next) : Alive code p pc :=
  let ⟨n, hn⟩ := h; ⟨n + 1, (arrives_mark hc).2 hn⟩

end

/-! ## The code of an expression -/

/-- A loop is alive where its rounds can end at a place from which the program goes on. -/
theorem alive_loop {r : Regex} {greedy : Bool} {body loop next : Nat}
    (hloop : code[loop]? = some (loopFork greedy body next))
    (hbody : ∀ {p q}, r.Runs p q → Alive code q loop → Alive code p body) {s : Regex} {p q : Place} (h : s.Runs p q)
    (hs : s = star r greedy) (hq : Alive code q next) : Alive code p loop := by
  have hfork : ∀ {p}, Alive code p body ∨ Alive code p next → Alive code p loop := by
    rintro p (⟨n, hn⟩ | ⟨n, hn⟩)
    · exact ⟨n + 1, (arrives_loopFork hloop).2 (.inl hn)⟩
    · exact ⟨n + 1, (arrives_loopFork hloop).2 (.inr hn)⟩
  induction h with
  | stop =>
    cases hs
    exact hfork (.inr hq)
  | more hr _ _ ih =>
    cases hs
    exact hfork (.inl (hbody hr (ih rfl hq)))
  | _ => cases hs

/-- Where an expression runs, its code leads on. -/
theorem alive_of_runs : ∀ (r : Regex) {base next : Nat}, CodeAt code base (r.code base next) → ∀ {p q : Place},
    r.Runs p q → Alive code q next → Alive code p base
  | empty, _, _, hc, _, _, .empty, h => alive_jump hc.head h
  | set _, _, _, hc, _, _, .set hp hs, h => alive_read hc.head hp hs h
  | look _, _, _, hc, _, _, .look hl, h => alive_check hc.head hl h
  | cat r s, base, next, hc, _, _, .cat hr hs, h => by
    have hright := hc.right
    rw [length_code] at hright
    exact alive_of_runs r hc.left hr (alive_of_runs s hright hs h)
  | alt r s, base, next, hc, _, _, .left hr, h => alive_fork hc.head (.inl (alive_of_runs r hc.tail.left hr h))
  | alt r s, base, next, hc, _, _, .right hs, h => by
    have hright := hc.tail.right
    rw [length_code] at hright
    exact alive_fork hc.head (.inr (alive_of_runs s hright hs h))
  | star r greedy, base, next, hc, _, _, hr, h => alive_loop hc.head (alive_of_runs r hc.tail) hr rfl h
  | plus r greedy, base, next, hc, _, _, .plus hr hs, h => by
    have hloop := hc.right.head
    rw [length_code] at hloop
    exact alive_of_runs r hc.left hr (alive_loop hloop (alive_of_runs r hc.left) hs rfl h)
  | group n r, base, next, hc, _, _, .group hr, h => by
    have hclose := hc.tail.right.head
    rw [length_code] at hclose
    exact alive_mark hc.head (alive_of_runs r hc.tail.left hr (alive_mark hclose h))

/-- What arrives at a loop leaves it after some rounds; each takes steps, so the induction is on their number. -/
theorem runs_of_arrives_loop {r : Regex} {greedy : Bool} {body loop next : Nat}
    (hloop : code[loop]? = some (loopFork greedy body next))
    (hbody : ∀ {n p}, Arrives code n body p → ∃ q m, m < n ∧ r.Runs p q ∧ Arrives code m loop q) :
    ∀ (n : Nat) (p : Place), Arrives code n loop p →
      ∃ q m, m < n ∧ (star r greedy).Runs p q ∧ Arrives code m next q := by
  intro n
  induction n using Nat.strong_induction_on with
  | _ n ih =>
    intro p h
    obtain ⟨n, rfl⟩ := exists_of_arrives h hloop (by cases greedy <;> simp [loopFork])
    rcases (arrives_loopFork hloop).1 h with h | h
    · obtain ⟨q, m, hm, hr, hq⟩ := hbody h
      obtain ⟨e, k, hk, hs, he⟩ := ih m (by omega) q hq
      exact ⟨e, k, by omega, .more hr hs, he⟩
    · exact ⟨p, n, n.lt_succ_self, .stop, h⟩

/-- What arrives through the code of an expression runs through the expression first. -/
theorem runs_of_arrives : ∀ (r : Regex) {base next : Nat}, CodeAt code base (r.code base next) →
    ∀ {n : Nat} {p : Place}, Arrives code n base p → ∃ q m, m < n ∧ r.Runs p q ∧ Arrives code m next q
  | empty, base, next, hc, n, p, h => by
    obtain ⟨n, rfl⟩ := exists_of_arrives h hc.head (by simp)
    exact ⟨p, n, n.lt_succ_self, .empty, (arrives_jump hc.head).1 h⟩
  | set s, base, next, hc, n, p, h => by
    obtain ⟨n, rfl⟩ := exists_of_arrives h hc.head (by simp)
    obtain ⟨ch, rest, hp, hs, hn⟩ := (arrives_read hc.head).1 h
    exact ⟨_, n, n.lt_succ_self, .set hp hs, hn⟩
  | look l, base, next, hc, n, p, h => by
    obtain ⟨n, rfl⟩ := exists_of_arrives h hc.head (by simp)
    obtain ⟨hl, hn⟩ := (arrives_check hc.head).1 h
    exact ⟨p, n, n.lt_succ_self, .look hl, hn⟩
  | cat r s, base, next, hc, n, p, h => by
    have hright := hc.right
    rw [length_code] at hright
    obtain ⟨q, m, hm, hr, hq⟩ := runs_of_arrives r hc.left h
    obtain ⟨e, k, hk, hs, he⟩ := runs_of_arrives s hright hq
    exact ⟨e, k, by omega, .cat hr hs, he⟩
  | alt r s, base, next, hc, n, p, h => by
    have hright := hc.tail.right
    rw [length_code] at hright
    obtain ⟨n, rfl⟩ := exists_of_arrives h hc.head (by simp)
    rcases (arrives_fork hc.head).1 h with h | h
    · obtain ⟨q, m, hm, hr, hq⟩ := runs_of_arrives r hc.tail.left h
      exact ⟨q, m, by omega, .left hr, hq⟩
    · obtain ⟨q, m, hm, hs, hq⟩ := runs_of_arrives s hright h
      exact ⟨q, m, by omega, .right hs, hq⟩
  | star r greedy, base, next, hc, n, p, h => runs_of_arrives_loop hc.head (runs_of_arrives r hc.tail) n p h
  | plus r greedy, base, next, hc, n, p, h => by
    have hloop := hc.right.head
    rw [length_code] at hloop
    obtain ⟨q, m, hm, hr, hq⟩ := runs_of_arrives r hc.left h
    obtain ⟨e, k, hk, hs, he⟩ := runs_of_arrives_loop hloop (runs_of_arrives r hc.left) m q hq
    exact ⟨e, k, by omega, .plus hr hs, he⟩
  | group k r, base, next, hc, n, p, h => by
    have hclose := hc.tail.right.head
    rw [length_code] at hclose
    obtain ⟨n, rfl⟩ := exists_of_arrives h hc.head (by simp)
    obtain ⟨q, m, hm, hr, hq⟩ := runs_of_arrives r hc.tail.left ((arrives_mark hc.head).1 h)
    obtain ⟨m, rfl⟩ := exists_of_arrives hq hclose (by simp)
    exact ⟨q, m, by omega, .group hr, (arrives_mark hclose).1 hq⟩

/-- The program of an expression is alive where the expression runs. -/
theorem alive_program (r : Regex) (p : Place) : Alive r.program.code p 0 ↔ ∃ q, r.Runs p q := by
  constructor
  · rintro ⟨n, hn⟩
    obtain ⟨q, -, -, hr, -⟩ := runs_of_arrives (group 0 r) (codeAt_program r).left hn
    cases hr with
    | group hr => exact ⟨q, hr⟩
  · rintro ⟨q, hq⟩
    exact alive_of_runs (group 0 r) (codeAt_program r).left (.group hq) (alive_accept (accept_program r) q)

/-! ## Settling -/

/-- A thread that waits can read on to a match. -/
def Hopeful (code : Array Instr) (p : Place) (w : CharSet × Thread) : Prop :=
  ∃ ch rest, p.rest = ch :: rest ∧ w.1.holds ch = true ∧ Alive code (p.past [ch]) w.2.pc

/-- Settled threads of which one has arrived or can still arrive. -/
def Promising (code : Array Instr) (p : Place) (s : Settled) : Prop :=
  s.accepted.isSome = true ∨ ∃ w ∈ s.waiting, Hopeful code p w

/-- Settling makes nothing of threads that lead nowhere. -/
theorem alive_of_settle {p : Place} : ∀ (fuel : Nat) (threads : List Thread) (reached : Nat)
    (waiting : List (CharSet × Thread)), Promising code p (settle code p fuel threads reached waiting) →
    (∃ t ∈ threads, Alive code p t.pc) ∨ ∃ w ∈ waiting, Hopeful code p w
  | 0, _, _, _, h | _ + 1, [], _, _, h => by
    rcases h with h | ⟨w, hw, h⟩
    · cases h
    · exact .inr ⟨w, List.mem_reverse.1 hw, h⟩
  | fuel + 1, ⟨pc, τ⟩ :: threads, reached, waiting, h => by
    have first : Alive code p pc → ∃ t ∈ ⟨pc, τ⟩ :: threads, Alive code p t.pc :=
      fun h => ⟨_, List.mem_cons_self, h⟩
    have other : (∃ t ∈ threads, Alive code p t.pc) → ∃ t ∈ ⟨pc, τ⟩ :: threads, Alive code p t.pc :=
      fun ⟨t, ht, h⟩ => ⟨t, List.mem_cons_of_mem _ ht, h⟩
    have step : ∀ next, (Alive code p next → Alive code p pc) →
        (∃ t ∈ (⟨next, τ⟩ : Thread) :: threads, Alive code p t.pc) → ∃ t ∈ ⟨pc, τ⟩ :: threads, Alive code p t.pc := by
      rintro next hnext ⟨t, ht, h⟩
      rcases List.mem_cons.1 ht with rfl | ht
      · exact first (hnext h)
      · exact other ⟨t, ht, h⟩
    rw [settle] at h
    split at h
    · exact (alive_of_settle fuel _ _ _ h).imp_left other
    · split at h
      · exact (alive_of_settle fuel _ _ _ h).imp_left other
      next s next hc =>
        rcases alive_of_settle fuel _ _ _ h with h | ⟨w, hw, h⟩
        · exact .inl (other h)
        · rcases List.mem_cons.1 hw with rfl | hw
          · obtain ⟨ch, rest, hp, hs, h⟩ := h
            exact .inl (first (alive_read hc hp hs h))
          · exact .inr ⟨w, hw, h⟩
      next hc => exact (alive_of_settle fuel _ _ _ h).imp_left (step _ (alive_jump hc))
      next a b hc =>
        rcases alive_of_settle fuel _ _ _ h with ⟨t, ht, h⟩ | h
        · rcases List.mem_cons.1 ht with rfl | ht
          · exact .inl (first (alive_fork hc (.inl h)))
          · exact .inl (step b (fun h => alive_fork hc (.inr h)) ⟨t, ht, h⟩)
        · exact .inr h
      next hc =>
        split at h
        next hl => exact (alive_of_settle fuel _ _ _ h).imp_left (step _ (alive_check hc hl))
        · exact (alive_of_settle fuel _ _ _ h).imp_left other
      next slot next hc =>
        rcases alive_of_settle fuel _ _ _ h with ⟨t, ht, h⟩ | h
        · rcases List.mem_cons.1 ht with rfl | ht
          · exact .inl (first (alive_mark hc h))
          · exact .inl (other ⟨t, ht, h⟩)
        · exact .inr h
      next hc => exact .inl (first (alive_accept hc p))

/-- No instruction reached leads to a match by so few steps. -/
def Farther (code : Array Instr) (p : Place) (reached n : Nat) : Prop :=
  ∀ pc, reached.testBit pc = true → ∀ m ≤ n, ¬ Arrives code m pc p

theorem Farther.reach {p : Place} {reached n pc : Nat} (h : Farther code p reached n)
    (hpc : ∀ m ≤ n, ¬ Arrives code m pc p) : Farther code p (reached ||| (1 <<< pc)) n := by
  intro q hq
  rw [Nat.testBit_or, Bool.or_eq_true] at hq
  rcases hq with hq | hq
  · exact h q hq
  · rw [Nat.one_shiftLeft, Nat.testBit_two_pow, decide_eq_true_eq] at hq
    exact hq ▸ hpc

theorem promising_of_hopeful {p : Place} {fuel : Nat} {threads : List Thread} {reached : Nat}
    {waiting : List (CharSet × Thread)} {w : CharSet × Thread} (hw : w ∈ waiting) (h : Hopeful code p w) :
    Promising code p (settle code p fuel threads reached waiting) :=
  .inr ⟨w, (settle_waiting fuel threads reached waiting).subset (List.mem_reverse.2 hw), h⟩

/-- A thread from which a match can be reached arrives, waits to read on, or is dropped for one that is no farther from
the match. -/
theorem promising_settle {p : Place} : ∀ (fuel : Nat) (threads : List Thread) (reached : Nat)
    (waiting : List (CharSet × Thread)) (n : Nat), (∃ t ∈ threads, Arrives code n t.pc p) → Farther code p reached n →
    threads.length + 2 * unreached code reached < fuel →
    Promising code p (settle code p fuel threads reached waiting)
  | 0, _, _, _, _, _, _, hf => absurd hf (Nat.not_lt_zero _)
  | _ + 1, [], _, _, _, ⟨t, ht, _⟩, _, _ => absurd ht List.not_mem_nil
  | fuel + 1, ⟨pc, τ⟩ :: threads, reached, waiting, n, ⟨t, ht, hn⟩, hfar, hf => by
    rw [List.length_cons] at hf
    rw [settle]
    split
    next hr =>
      -- the thread dropped is not the one that arrives
      rcases List.mem_cons.1 ht with rfl | ht
      · exact absurd hn (hfar _ hr n le_rfl)
      · exact promising_settle fuel threads reached waiting n ⟨t, ht, hn⟩ hfar (by omega)
    next hr =>
      by_cases hfirst : ∃ m ≤ n, Arrives code m pc p
      · -- the first thread arrives as soon; the instructions reached are farther than the one it goes to
        classical
        have hspec := Nat.find_spec hfirst
        have hleast : ∀ k < Nat.find hfirst, ¬ Arrives code k pc p :=
          fun k hk h => Nat.find_min hfirst hk ⟨by omega, h⟩
        generalize Nat.find hfirst = m at hspec hleast
        obtain ⟨hmn, hm⟩ := hspec
        cases m with
        | zero =>
          rw [show code[pc]? = some .accept from hm]
          exact .inl rfl
        | succ m =>
          have hfar' : Farther code p (reached ||| (1 <<< pc)) m :=
            Farther.reach (fun q hq k hk => hfar q hq k (by omega)) fun k hk => hleast k (by omega)
          have go : ∀ u : List Thread, u.length ≤ 2 → (∃ v ∈ u, Arrives code m v.pc p) →
              (∃ i, code[pc]? = some i) →
              Promising code p (settle code p fuel (u ++ threads) (reached ||| (1 <<< pc)) waiting) := by
            rintro u hu ⟨v, hv, h⟩ ⟨i, hi⟩
            have hlt := unreached_reach hi hr
            exact promising_settle fuel _ _ waiting m ⟨v, List.mem_append_left _ hv, h⟩ hfar'
              (by rw [List.length_append]; omega)
          cases hc : code[pc]? with
          | none =>
            rw [Arrives, hc] at hm
            exact hm.elim
          | some i =>
            cases i with
            | read s next =>
              obtain ⟨ch, rest, hp, hs, hnext⟩ := (arrives_read hc).1 hm
              exact promising_of_hopeful List.mem_cons_self ⟨ch, rest, hp, hs, m, hnext⟩
            | jump next => exact go [⟨next, τ⟩] (by simp) ⟨_, List.mem_cons_self, (arrives_jump hc).1 hm⟩ ⟨_, hc⟩
            | fork first second =>
              refine go [⟨first, τ⟩, ⟨second, τ⟩] (by simp) ?_ ⟨_, hc⟩
              exact ((arrives_fork hc).1 hm).elim (fun h => ⟨⟨first, τ⟩, by simp, h⟩) fun h => ⟨⟨second, τ⟩, by simp, h⟩
            | check l next =>
              obtain ⟨hl, hnext⟩ := (arrives_check hc).1 hm
              simp only [hl, if_true]
              exact go [⟨next, τ⟩] (by simp) ⟨_, List.mem_cons_self, hnext⟩ ⟨_, hc⟩
            | mark slot next =>
              exact go [⟨next, _⟩] (by simp) ⟨_, List.mem_cons_self, (arrives_mark hc).1 hm⟩ ⟨_, hc⟩
            | accept =>
              rw [Arrives, hc] at hm
              exact hm.elim
      · -- the first thread arrives later, if at all
        have hfirst : ∀ m ≤ n, ¬ Arrives code m pc p := fun m hm h => hfirst ⟨m, hm, h⟩
        have ht : t ∈ threads := (List.mem_cons.1 ht).resolve_left fun h => by
          rw [h] at hn
          exact hfirst n le_rfl hn
        have hfar' := hfar.reach hfirst
        have go : ∀ u : List Thread, u.length ≤ 2 → (∃ i, code[pc]? = some i) → ∀ waiting,
            Promising code p (settle code p fuel (u ++ threads) (reached ||| (1 <<< pc)) waiting) := by
          rintro u hu ⟨i, hi⟩ waiting
          have hlt := unreached_reach hi hr
          exact promising_settle fuel _ _ waiting n ⟨t, List.mem_append_right _ ht, hn⟩ hfar'
            (by rw [List.length_append]; omega)
        cases hc : code[pc]? with
        | none =>
          have hle := unreached_le code reached pc
          exact promising_settle fuel threads _ waiting n ⟨t, ht, hn⟩ hfar' (by omega)
        | some i =>
          cases i with
          | read s next => exact go [] (by simp) ⟨_, hc⟩ _
          | jump next => exact go [⟨next, τ⟩] (by simp) ⟨_, hc⟩ _
          | fork first second => exact go [⟨first, τ⟩, ⟨second, τ⟩] (by simp) ⟨_, hc⟩ _
          | check l next =>
            simp only
            split
            · exact go [⟨next, τ⟩] (by simp) ⟨_, hc⟩ _
            · exact go [] (by simp) ⟨_, hc⟩ _
          | mark slot next => exact go [⟨next, _⟩] (by simp) ⟨_, hc⟩ _
          | accept => exact absurd hc (hfirst 0 n.zero_le)

theorem promising_settle_iff (p : Program) (place : Place) (threads : List Thread) :
    Promising p.code place (settle p.code place (p.fuel threads) threads 0 []) ↔
      ∃ t ∈ threads, Alive p.code place t.pc := by
  constructor
  · intro h
    exact (alive_of_settle _ _ _ _ h).resolve_right (by simp)
  · rintro ⟨t, ht, n, hn⟩
    have hle : unreached p.code 0 ≤ p.code.size := (Finset.card_filter_le _ _).trans (Finset.card_range _).le
    exact promising_settle _ threads 0 [] n ⟨t, ht, hn⟩ (fun pc hpc => by simp at hpc)
      (by simp only [Program.fuel]; omega)

/-! ## Following threads -/

/-- The expression runs from the place or from a later one. -/
def RunsFrom (r : Regex) (p : Place) : Prop := ∃ t, t <+: p.rest ∧ ∃ q, r.Runs (p.past t) q

theorem runsFrom_nil {r : Regex} {p : Place} (hp : p.rest = []) : r.RunsFrom p ↔ ∃ q, r.Runs p q := by
  constructor
  · rintro ⟨t, ht, h⟩
    rw [hp, List.prefix_nil] at ht
    rwa [ht, Place.past_nil] at h
  · exact fun h => ⟨[], List.nil_prefix, by rwa [Place.past_nil]⟩

theorem runsFrom_cons {r : Regex} {p : Place} {ch : Char} {rest : List Char} (hp : p.rest = ch :: rest) :
    r.RunsFrom p ↔ (∃ q, r.Runs p q) ∨ r.RunsFrom (p.past [ch]) := by
  have hrest : (p.past [ch]).rest = rest := by simp [Place.past, hp]
  constructor
  · rintro ⟨t, ht, h⟩
    cases t with
    | nil => exact .inl (by rwa [Place.past_nil] at h)
    | cons a t =>
      rw [hp, List.cons_prefix_cons] at ht
      obtain ⟨rfl, ht⟩ := ht
      exact .inr ⟨t, hrest ▸ ht, by rwa [Place.past_past]⟩
  · rintro (h | ⟨t, ht, h⟩)
    · exact ⟨[], List.nil_prefix, by rwa [Place.past_nil]⟩
    · rw [hrest] at ht
      exact ⟨ch :: t, hp ▸ (List.cons_prefix_cons.2 ⟨rfl, ht⟩), by rwa [Place.past_past] at h⟩

/-- The threads at a place with the one that starts there. -/
theorem alive_enter {r : Regex} {p : Place} {threads : List Thread} {known : Option Trail} :
    known.isSome = true ∨ (∃ t ∈ r.program.enter threads known p.rest.head?, Alive r.program.code p t.pc) ↔
      known.isSome = true ∨ (∃ t ∈ threads, Alive r.program.code p t.pc) ∨ ∃ q, r.Runs p q := by
  have hstart := alive_program r p
  unfold Program.enter
  cases known with
  | some => simp
  | none =>
    simp only [Option.isSome_none, Bool.false_eq_true, false_or, Option.isNone_none, Bool.true_and]
    split
    · simp [or_and_right, exists_or, hstart]
    next hcan =>
      -- where the program cannot start the expression does not run
      have hno : ¬ ∃ q, r.Runs p q := fun ⟨q, hq⟩ => hcan (canStart_of_runs hq)
      simp [hno]

/-- The threads that read the next character. -/
theorem hopeful_filterMap {p : Place} {ch : Char} {rest : List Char} (hp : p.rest = ch :: rest)
    (waiting : List (CharSet × Thread)) :
    (∃ t ∈ waiting.filterMap fun (chars, thread) => if chars.holds ch then some thread else none,
      Alive code (p.past [ch]) t.pc) ↔ ∃ w ∈ waiting, Hopeful code p w := by
  constructor
  · rintro ⟨t, ht, h⟩
    obtain ⟨⟨chars, thread⟩, hw, ht⟩ := List.mem_filterMap.1 ht
    obtain ⟨hs, rfl⟩ : chars.holds ch = true ∧ thread = t := by simpa using ht
    exact ⟨_, hw, ch, rest, hp, hs, h⟩
  · rintro ⟨⟨chars, thread⟩, hw, ch', rest', hp', hs, h⟩
    obtain ⟨rfl, rfl⟩ := List.cons.inj (hp.symm.trans hp')
    exact ⟨thread, List.mem_filterMap.2 ⟨_, hw, if_pos hs⟩, h⟩

/-- A search succeeds if a match is known, a thread leads to one, or the expression runs from here on. -/
theorem follow_isSome_iff (r : Regex) : ∀ (text : List Char) (offset : Nat) (before : Option Char)
    (threads : List Thread) (known : Option Trail),
    (r.program.follow offset before threads known text).isSome = true ↔
      known.isSome = true ∨ (∃ t ∈ threads, Alive r.program.code ⟨offset, before, text⟩ t.pc) ∨
        r.RunsFrom ⟨offset, before, text⟩
  | [], offset, before, threads, known => by
    have henter := @alive_enter r ⟨offset, before, []⟩ threads known
    have hsettle := promising_settle_iff r.program ⟨offset, before, []⟩
      (r.program.enter threads known (none : Option Char))
    -- nothing waits at the end of the text
    have hend : ∀ s : Settled, Promising r.program.code ⟨offset, before, []⟩ s ↔ s.accepted.isSome = true := by
      refine fun s => or_iff_left ?_
      rintro ⟨w, -, ch, rest, hp, -⟩
      cases hp
    rw [hend] at hsettle
    rw [runsFrom_nil rfl, ← henter, Program.follow, Option.orElse_eq_orElse, Option.orElse_eq_or, Option.isSome_or,
      Bool.or_eq_true, hsettle, or_comm]
    rfl
  | ch :: text, offset, before, threads, known => by
    have henter := @alive_enter r ⟨offset, before, ch :: text⟩ threads known
    have hsettle := promising_settle_iff r.program ⟨offset, before, ch :: text⟩
      (r.program.enter threads known (some ch))
    rw [List.head?_cons] at henter
    rw [runsFrom_cons rfl, ← or_assoc (b := ∃ q, r.Runs _ q), ← or_assoc, ← henter, ← hsettle, Program.follow]
    generalize settle r.program.code ⟨offset, before, ch :: text⟩ _ _ 0 [] = settled
    have hknown : (settled.accepted <|> known).isSome = true ↔
        settled.accepted.isSome = true ∨ known.isSome = true := by
      rw [Option.orElse_eq_orElse, Option.orElse_eq_or, Option.isSome_or, Bool.or_eq_true]
    have ih := follow_isSome_iff r text (offset + ch.utf8Size) (some ch)
      (settled.waiting.filterMap fun (chars, thread) => if chars.holds ch then some thread else none)
      (settled.accepted <|> known)
    rw [← @Place.past_singleton ⟨offset, before, ch :: text⟩ ch text rfl, hopeful_filterMap rfl] at ih
    split
    next hstop =>
      -- a match is known and no thread goes on
      rw [Bool.and_eq_true, hknown] at hstop
      refine iff_of_true (hknown.2 hstop.2) (.inl ?_)
      exact hstop.2.elim (fun h => .inr (.inl h)) .inl
    next =>
      rw [ih, hknown]
      exact (or_or_or_comm.trans or_left_comm).trans or_assoc.symm

/-- A pattern occurs in a text if its expression runs from some place of it. -/
theorem occursIn_iff_runs {source : String} {r : Regex} (text : String) :
    (Pattern.ofRegex source r).occursIn text = true ↔ r.RunsFrom (Place.ofText text) := by
  show (r.program.follow 0 none [] none text.toList).isSome = true ↔ _
  rw [follow_isSome_iff]
  simp [Place.ofText]

end TemporalTagger.Regex
