/-
The repository of rule sets as a cache that no one notices. In a run of requests each key has one place, which
it gets on its first request and keeps; a set is cached once it was requested. The sets with and without
temponym rules tag the other categories alike. Main fact: `answers_transparent`.
-/
import TemporalTagger.Proofs.Language.Bundled
import TemporalTagger.Repository

namespace TemporalTagger

/-! ## Rules of other categories -/

namespace RuleSet

theorem ofCategory_insert {s : RuleSet} {r : Rule} {c : Category} (hr : r.category ≠ c) :
    (s.insert r).ofCategory c = s.ofCategory c := by
  have hplace : ∀ rs : List Rule, (place r rs).filter (·.category == c) = rs.filter (·.category == c) := by
    intro rs
    induction rs with
    | nil => exact List.filter_cons_of_neg (by simpa using hr)
    | cons a rs ih =>
      rw [place]
      split
      · exact List.filter_cons_of_neg (by simpa using hr)
      · rw [List.filter_cons, List.filter_cons, ih]
  exact hplace s.rules

end RuleSet

namespace Compilation

variable {vars : Variables} {category : Category}

/-- A line of one category leaves the rules of the others as they are. -/
theorem ofCategory_of_addLine {c c' : Compilation} {l : Category × Option RuleLine} (hl : l.1 ≠ category)
    (h : c.addLine vars l.1 l.2 = .ok c') : c'.set.ofCategory category = c.set.ofCategory category := by
  obtain ⟨other, line⟩ := l
  cases line with
  | none =>
    obtain rfl := Except.ok.inj h
    rfl
  | some line =>
    rw [addLine] at h
    split at h
    · obtain rfl := Except.ok.inj h
      rfl
    · cases hr : line.compile other vars with
      | error => rw [hr] at h; cases h
      | ok r =>
        rw [hr] at h
        obtain rfl := Except.ok.inj h
        refine RuleSet.ofCategory_insert ?_
        rwa [(RuleLine.compilesTo_of_compile hr).category]

theorem ofCategory_of_addLines : ∀ {ls : List (Category × Option RuleLine)} {c c' : Compilation},
    (∀ l ∈ ls, l.1 ≠ category) → c.addLines vars ls = .ok c' →
    c'.set.ofCategory category = c.set.ofCategory category
  | [], _, _, _, h => by
    obtain rfl := Except.ok.inj h
    rfl
  | (other, line) :: ls, c, c', hls, h => by
    obtain ⟨hl, hls⟩ := List.forall_mem_cons.1 hls
    cases hline : c.addLine vars other line with
    | error => rw [addLines, hline] at h; cases h
    | ok c₁ =>
      rw [addLines, hline] at h
      rw [ofCategory_of_addLines hls h, ofCategory_of_addLine hl hline]

theorem addLines_append (ls' : List (Category × Option RuleLine)) : ∀ (ls : List (Category × Option RuleLine))
    (c : Compilation), c.addLines vars (ls ++ ls') = (c.addLines vars ls).bind fun c => c.addLines vars ls'
  | [], _ => rfl
  | (other, line) :: ls, c => by
    rw [List.cons_append, addLines, addLines]
    cases c.addLine vars other line with
    | error => rfl
    | ok c₁ => exact addLines_append ls' ls c₁

end Compilation

namespace Language

variable {l : Language} {plain full : RuleSet}

/-- The temponym rules are compiled last. -/
theorem Resources.inOrder_sources (r : Resources) : RuleSource.inOrder (r.sources true) =
    RuleSource.inOrder (r.sources false) ++ (r.rules .temponym).map fun line => (.temponym, some line) := by
  simp [RuleSource.inOrder, sources, Category.all]

theorem Resources.ofCategory_compile {r : Resources} (hplain : r.compile false = .ok plain)
    (hfull : r.compile true = .ok full) {c : Category} (hc : c ≠ .temponym) :
    full.ofCategory c = plain.ofCategory c := by
  rw [compile, compileRules] at hplain hfull
  cases hp : Compilation.addLines r.vars ⟨RuleSet.empty r.normalization, {}⟩ (RuleSource.inOrder (r.sources false)) with
  | error => rw [hp] at hplain; cases hplain
  | ok before =>
    rw [hp] at hplain
    obtain rfl := Except.ok.inj hplain
    -- with the temponym rules the compilation goes on from here
    rw [inOrder_sources, Compilation.addLines_append, hp] at hfull
    change ((before.addLines r.vars _).map _) = _ at hfull
    cases hf : before.addLines r.vars ((r.rules .temponym).map fun line => (.temponym, some line)) with
    | error => rw [hf] at hfull; cases hfull
    | ok after =>
      rw [hf] at hfull
      obtain rfl := Except.ok.inj hfull
      refine Compilation.ofCategory_of_addLines ?_ hf
      intro line hline
      obtain ⟨_, -, rfl⟩ := List.mem_map.1 hline
      exact hc.symm

end Language

/-- A sentence is tagged by the rules of the wanted categories alone. -/
theorem Extraction.run_congr {rules rules' : RuleSet} {s : Sentence} {options : Options}
    (hnormalization : rules'.normalization = rules.normalization)
    (hrules : ∀ c ∈ options.categories.toList, rules'.ofCategory c = rules.ofCategory c) :
    run rules' s options = run rules s options := by
  have hresults :
      (options.categories.toList.map fun c => (c, (rules'.ofCategory c).map (outcomes? rules'.normalization s))) =
        options.categories.toList.map fun c => (c, (rules.ofCategory c).map (outcomes? rules.normalization s)) :=
    List.map_congr_left fun c hc => by rw [hrules c hc, hnormalization]
  rw [run, run, hresults]

/-- Two rule sets have the same rules outside the temponyms and tag the other categories alike. -/
structure RuleSet.DifferInTemponyms (plain full : RuleSet) : Prop where
  rules : ∀ c, c ≠ .temponym → full.ofCategory c = plain.ofCategory c
  alike : ∀ s options, options.categories.has .temponym = false →
    extractSentence full s options = extractSentence plain s options

theorem Language.differInTemponyms (l : Language) : ∃ plain full,
    l.ruleSet false = .ok plain ∧ l.ruleSet true = .ok full ∧ plain.DifferInTemponyms full := by
  obtain ⟨plain, hplain, -, -, hnormalization⟩ := l.exists_ruleSet_tested false
  obtain ⟨full, hfull, -, -, hnormalization'⟩ := l.exists_ruleSet_tested true
  have hrules : ∀ c, c ≠ .temponym → full.ofCategory c = plain.ofCategory c := by
    intro c hc
    rw [ruleSet_eq] at hplain hfull
    exact Resources.ofCategory_compile hplain hfull hc
  refine ⟨plain, full, hplain, hfull, hrules, ?_⟩
  intro s options hnone
  refine congrArg Prod.fst (Extraction.run_congr (hnormalization'.trans hnormalization.symm) fun c hc => hrules c ?_)
  rintro rfl
  rw [CategorySet.toList, List.mem_filter, hnone] at hc
  exact Bool.false_ne_true hc.2

/-! ## Requests -/

namespace Repository

/-- What a repository is asked. -/
inductive Request
  | get (key : RuleSetKey)
  | isCached (key : RuleSetKey)
  deriving DecidableEq

/-- What it answers. -/
inductive Answer
  | shared (place : Nat) (rules : RuleSet)
  | failed (e : TaggerError)
  | cached (known : Bool)

/-- The answer to a request, with the repository after it. -/
def respond (r : Repository) : Request → Answer × Repository
  | .isCached key => (.cached (r.isCached key), r)
  | .get key =>
    match r.get key with
    | .ok ((place, rules), r') => (.shared place rules, r')
    | .error e => (.failed e, r)

/-- The answers to requests in order. -/
def answers (r : Repository) : List Request → List Answer
  | [] => []
  | q :: qs => (r.respond q).1 :: (r.respond q).2.answers qs

/-- The repository after requests. -/
def after (r : Repository) : List Request → Repository
  | [] => r
  | q :: qs => (r.respond q).2.after qs

/-- The keys of the compiled sets. The place of a set is that of its key. -/
def keys (r : Repository) : List RuleSetKey := r.sets.map Prod.fst

/-- Under each key a repository holds the bundled set of that key. -/
def Sound (r : Repository) : Prop := ∀ p ∈ r.sets, p.1.language.ruleSet p.1.temponyms = .ok p.2

theorem sound_empty : empty.Sound := fun _ h => absurd h List.not_mem_nil

/-! ## One request -/

variable {r : Repository} {key : RuleSetKey}

theorem find?_eq (r : Repository) (key : RuleSetKey) :
    r.find? key = (r.sets.find? (·.1 == key)).map fun p => (r.keys.idxOf key, p.2) := by
  have hplaces : ∀ (sets : List (RuleSetKey × RuleSet)) (n : Nat),
      ((sets.zipIdx n).find? fun x => x.1.1 == key).map (fun x => (x.2, x.1.2)) =
        (sets.find? (·.1 == key)).map fun p => ((sets.map Prod.fst).idxOf key + n, p.2) := by
    intro sets
    induction sets with
    | nil => intro n; rfl
    | cons p sets ih =>
      intro n
      rw [List.zipIdx_cons, List.find?_cons, List.find?_cons, List.map_cons, List.idxOf_cons]
      cases p.1 == key with
      | true => simp
      | false =>
        simp only [cond_false]
        rw [ih (n + 1), Nat.add_right_comm]
        rfl
  exact hplaces r.sets 0

theorem find?_eq_none_iff : r.find? key = none ↔ key ∉ r.keys := by
  rw [find?_eq, Option.map_eq_none_iff, List.find?_eq_none, keys, List.mem_map]
  simp only [beq_iff_eq, not_exists, not_and]

theorem isCached_iff : r.isCached key = true ↔ key ∈ r.keys := by
  rw [isCached, Option.isSome_iff_ne_none, ne_eq, find?_eq_none_iff, not_not]

/-- A request that finds its set leaves the repository as it is; any other adds the set at the end. -/
theorem get_eq (hr : r.Sound) (key : RuleSetKey) : ∃ rules r', key.language.ruleSet key.temponyms = .ok rules ∧
    r.get key = .ok ((r'.keys.idxOf key, rules), r') ∧
    (key ∈ r.keys ∧ r' = r ∨ key ∉ r.keys ∧ r' = ⟨r.sets ++ [(key, rules)]⟩) := by
  rw [get]
  cases hfind : r.find? key with
  | some found =>
    rw [find?_eq, Option.map_eq_some_iff] at hfind
    obtain ⟨⟨k, rules⟩, hp, rfl⟩ := hfind
    obtain rfl : k = key := by simpa using List.find?_some hp
    have hmem := List.mem_of_find?_eq_some hp
    exact ⟨rules, r, hr _ hmem, rfl, .inl ⟨List.mem_map_of_mem hmem, rfl⟩⟩
  | none =>
    have hnew := find?_eq_none_iff.1 hfind
    obtain ⟨rules, hrules, -⟩ := key.language.exists_ruleSet_tested key.temponyms
    refine ⟨rules, ⟨r.sets ++ [(key, rules)]⟩, hrules, ?_, .inr ⟨hnew, rfl⟩⟩
    -- its place is behind all that were there
    have hplace : (Repository.mk (r.sets ++ [(key, rules)])).keys.idxOf key = r.sets.length := by
      rw [keys, List.map_append, ← keys, List.idxOf_append_of_notMem hnew, keys, List.length_map]
      simp
    rw [hplace, hrules]
    rfl

/-- What a request is answered by a repository that held sets of some keys before, where `places` are the keys
of a later repository in order. -/
def Fits (places : List RuleSetKey) (before : RuleSetKey → Prop) : Request → Answer → Prop
  | .get key, a => key ∈ places ∧ ∃ rules, a = .shared (places.idxOf key) rules ∧
      key.language.ruleSet key.temponyms = .ok rules
  | .isCached key, a => ∃ known, a = .cached known ∧ (known = true ↔ before key)

theorem Fits.mono {places later : List RuleSetKey} {before : RuleSetKey → Prop} {q : Request} {a : Answer}
    (h : Fits places before q a) (hlater : places <+: later) : Fits later before q a := by
  cases q with
  | isCached key => exact h
  | get key =>
    obtain ⟨hkey, rules, rfl, hrules⟩ := h
    obtain ⟨more, rfl⟩ := hlater
    exact ⟨List.mem_append_left _ hkey, rules, by rw [List.idxOf_append_of_mem hkey], hrules⟩

/-- What a request does to a sound repository. -/
structure Step (r : Repository) (q : Request) (a : Answer) (r' : Repository) : Prop where
  sound : r'.Sound
  keeps : r.keys <+: r'.keys
  keys : ∀ key, key ∈ r'.keys ↔ key ∈ r.keys ∨ q = .get key
  answer : Fits r'.keys (· ∈ r.keys) q a

theorem step_respond (hr : r.Sound) (q : Request) : Step r q (r.respond q).1 (r.respond q).2 := by
  cases q with
  | isCached key =>
    refine ⟨hr, List.prefix_refl _, fun k => ?_, r.isCached key, rfl, isCached_iff⟩
    exact (or_iff_left Request.noConfusion).symm
  | get key =>
    obtain ⟨rules, r', hrules, hget, hcases⟩ := get_eq hr key
    rw [respond, hget]
    rcases hcases with ⟨hold, rfl⟩ | ⟨hnew, rfl⟩
    · refine ⟨hr, List.prefix_refl _, fun k => (or_iff_left_of_imp ?_).symm, hold, rules, rfl, hrules⟩
      rintro h
      cases h
      exact hold
    · have hkeys : keys ⟨r.sets ++ [(key, rules)]⟩ = r.keys ++ [key] := List.map_append
      refine ⟨?_, ⟨[key], hkeys.symm⟩, fun k => ?_, ?_, rules, rfl, hrules⟩
      · exact List.forall_mem_append.2 ⟨hr, List.forall_mem_singleton.2 hrules⟩
      · rw [hkeys, List.mem_append, List.mem_singleton, Request.get.injEq, eq_comm (a := k)]
      · rw [hkeys]
        exact List.mem_append_right _ (List.mem_singleton_self key)

/-! ## Runs -/

theorem prefix_after : ∀ {r : Repository} (_ : r.Sound) (qs : List Request), r.keys <+: (r.after qs).keys
  | _, _, [] => List.prefix_refl _
  | _, hr, q :: qs =>
    have hstep := step_respond hr q
    hstep.keeps.trans (prefix_after hstep.sound qs)

theorem length_answers : ∀ (r : Repository) (qs : List Request), (r.answers qs).length = qs.length
  | _, [] => rfl
  | r, q :: qs => by rw [answers, List.length_cons, List.length_cons, length_answers _ qs]

/-- In a run each request is answered from the places in the last repository and the requests before it. -/
theorem exists_answer : ∀ {r : Repository} (_ : r.Sound) (qs : List Request) (i : Nat) (q : Request),
    qs[i]? = some q → ∃ a, (r.answers qs)[i]? = some a ∧
      Fits (r.after qs).keys (fun key => key ∈ r.keys ∨ .get key ∈ qs.take i) q a
  | r, hr, q :: qs, 0, _, hq => by
    obtain rfl := Option.some.inj hq
    have hstep := step_respond hr q
    refine ⟨(r.respond q).1, rfl, ?_⟩
    -- the rest of the run leaves the places that there are now
    simpa [after] using hstep.answer.mono (prefix_after hstep.sound qs)
  | r, hr, q₀ :: qs, i + 1, q, hq => by
    have hstep := step_respond hr q₀
    obtain ⟨a, ha, hfits⟩ := exists_answer hstep.sound qs i q hq
    refine ⟨a, ha, ?_⟩
    -- what the first request has added counts as requested before
    simpa only [after, hstep.keys, or_assoc, List.take_succ_cons, List.mem_cons, eq_comm (a := q₀)] using hfits

/-- The answers to requests are those of a cache that no one notices: a request for a set is answered with the
bundled set of its key, two of them with the same set exactly if they name the same key, and a key is cached
exactly if its set was requested before. -/
structure Transparent (requests : List Request) (answers : List Answer) : Prop where
  length : answers.length = requests.length
  rules : ∀ (i : Nat) (key : RuleSetKey), requests[i]? = some (.get key) →
    ∃ place rules, answers[i]? = some (.shared place rules) ∧ key.language.ruleSet key.temponyms = .ok rules
  shared : ∀ (i j : Nat) (key key' : RuleSetKey) (place place' : Nat) (rules rules' : RuleSet),
    requests[i]? = some (.get key) → requests[j]? = some (.get key') →
    answers[i]? = some (.shared place rules) → answers[j]? = some (.shared place' rules') →
    (place = place' ↔ key = key')
  cached : ∀ (i : Nat) (key : RuleSetKey), requests[i]? = some (.isCached key) →
    ∃ known, answers[i]? = some (.cached known) ∧ (known = true ↔ .get key ∈ requests.take i)

theorem transparent_empty (requests : List Request) : Transparent requests (empty.answers requests) := by
  have hanswer := exists_answer sound_empty requests
  refine ⟨length_answers _ _, ?_, ?_, ?_⟩
  · intro i key hi
    obtain ⟨_, ha, -, rules, rfl, hrules⟩ := hanswer i _ hi
    exact ⟨_, rules, ha, hrules⟩
  · intro i j key key' place place' rules rules' hi hj hai haj
    obtain ⟨_, ha, hkey, _, rfl, -⟩ := hanswer i _ hi
    obtain ⟨_, ha', -, _, rfl, -⟩ := hanswer j _ hj
    rw [hai, Option.some.injEq, Answer.shared.injEq] at ha
    rw [haj, Option.some.injEq, Answer.shared.injEq] at ha'
    rw [ha.1, ha'.1, List.idxOf_inj hkey]
  · intro i key hi
    obtain ⟨_, ha, known, rfl, hknown⟩ := hanswer i _ hi
    exact ⟨known, ha, hknown.trans (or_iff_right List.not_mem_nil)⟩

/-- Whatever a new repository is asked, no one notices that it keeps its sets; and it does not matter to the
other categories whether a set has the temponym rules. -/
theorem answers_transparent : (∀ requests, Transparent requests (empty.answers requests)) ∧
    ∀ l : Language, ∃ plain full, l.ruleSet false = .ok plain ∧ l.ruleSet true = .ok full ∧
      plain.DifferInTemponyms full :=
  ⟨transparent_empty, Language.differInTemponyms⟩

end Repository

end TemporalTagger
