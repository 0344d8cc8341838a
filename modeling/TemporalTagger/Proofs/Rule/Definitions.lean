/-
What becomes of the lines of rule sources. A line that can be read defines a rule; of the definitions of one
category and name the first is compiled and the others are duplicates. A compilation is the compilation of the
first definitions in order, by category, then by source, then by line. Main facts: `addLines_eq`, which says
this of any rule set that lines are added to, and `compileRules_accounts`.
-/
import TemporalTagger.Proofs.Rule.Compilation
import TemporalTagger.Proofs.Sorting

namespace TemporalTagger

/-! ## Lists of compilations -/

section

variable {α β ε : Type} {f : α → Except ε β}

theorem exists_of_mapM_ok : ∀ {l : List α} {bs : List β}, l.mapM f = .ok bs →
    List.Forall₂ (fun a b => f a = .ok b) l bs
  | [], bs, h => by
    rw [List.mapM_nil] at h
    cases h
    exact .nil
  | a :: l, bs, h => by
    rw [List.mapM_cons] at h
    cases ha : f a with
    | error => rw [ha] at h; cases h
    | ok b =>
      cases hl : l.mapM f with
      | error => rw [ha, hl] at h; cases h
      | ok bs' =>
        rw [ha, hl] at h
        cases h
        exact .cons ha (exists_of_mapM_ok hl)

/-- Compilation stops at the first failure. -/
theorem exists_of_mapM_error {e : ε} : ∀ {l : List α}, l.mapM f = .error e →
    ∃ pre a post, l = pre ++ a :: post ∧ f a = .error e ∧ ∀ x ∈ pre, ∃ b, f x = .ok b
  | [], h => by rw [List.mapM_nil] at h; cases h
  | a :: l, h => by
    rw [List.mapM_cons] at h
    cases ha : f a with
    | error =>
      rw [ha] at h
      cases h
      exact ⟨[], a, l, rfl, ha, by simp⟩
    | ok b =>
      cases hl : l.mapM f with
      | ok => rw [ha, hl] at h; cases h
      | error =>
        rw [ha, hl] at h
        cases h
        obtain ⟨pre, x, post, rfl, hx, hpre⟩ := exists_of_mapM_error hl
        exact ⟨a :: pre, x, post, rfl, hx, List.forall_mem_cons.2 ⟨⟨b, ha⟩, hpre⟩⟩

end

/-! ## Rule sets in order -/

namespace Rule

/-- What rules are told apart by. -/
def key (r : Rule) : Category × String := (r.category, r.name)

variable {a b c : Rule}

theorem precedes_iff : a.precedes b = true ↔
    a.category.rank < b.category.rank ∨ a.category = b.category ∧ a.name < b.name := by
  simp [precedes]

theorem precedes_trans (hab : a.precedes b = true) (hbc : b.precedes c = true) : a.precedes c = true := by
  rw [precedes_iff] at *
  rcases hab with hab | ⟨hab, hn⟩ <;> rcases hbc with hbc | ⟨hbc, hn'⟩
  · exact .inl (hab.trans hbc)
  · exact .inl (hbc ▸ hab)
  · exact .inl (hab ▸ hbc)
  · exact .inr ⟨hab.trans hbc, String.lt_trans hn hn'⟩

theorem not_precedes_self (a : Rule) : a.precedes a = false := by
  rw [Bool.eq_false_iff, ne_eq, precedes_iff]
  rintro (h | ⟨-, h⟩)
  · exact lt_irrefl _ h
  · exact String.lt_irrefl _ h

/-- Of two rules that differ in category or name, one precedes the other. -/
theorem precedes_or_precedes (h : ¬ (a.category = b.category ∧ a.name = b.name)) :
    a.precedes b = true ∨ b.precedes a = true := by
  rw [precedes_iff, precedes_iff]
  rcases lt_trichotomy a.category.rank b.category.rank with hlt | heq | hlt
  · exact .inl (.inl hlt)
  · have hc := Category.rank_inj.1 heq
    by_cases hab : a.name < b.name
    · exact .inl (.inr ⟨hc, hab⟩)
    · by_cases hba : b.name < a.name
      · exact .inr (.inr ⟨hc.symm, hba⟩)
      · exact absurd ⟨hc, String.le_antisymm (String.not_lt.1 hba) (String.not_lt.1 hab)⟩ h
  · exact .inr (.inl hlt)

end Rule

namespace RuleSet

variable {s t : RuleSet} {r : Rule} {c : Category} {name : String}

/-- The rules stand in order of application, so no two are of the same category and name. -/
def Ordered (s : RuleSet) : Prop := s.rules.Pairwise fun a b => a.precedes b = true

theorem ordered_empty (normalization : Normalization) : (empty normalization).Ordered := .nil

theorem contains_iff : s.contains c name = true ↔ ∃ r ∈ s.rules, r.category = c ∧ r.name = name := by
  simp [contains, find?, List.find?_isSome]

theorem contains_insert : (s.insert r).contains c name = true ↔
    (r.category = c ∧ r.name = name) ∨ s.contains c name = true := by
  rw [contains_iff, contains_iff]
  constructor
  · rintro ⟨a, ha, hkey⟩
    rcases mem_place.1 ha with rfl | ha
    · exact .inl hkey
    · exact .inr ⟨a, ha, hkey⟩
  · rintro (hkey | ⟨a, ha, hkey⟩)
    · exact ⟨r, mem_place.2 (.inl rfl), hkey⟩
    · exact ⟨a, mem_place.2 (.inr ha), hkey⟩

theorem pairwise_precedes_place : ∀ {rs : List Rule}, rs.Pairwise (fun a b => a.precedes b = true) →
    (∀ a ∈ rs, ¬ (r.category = a.category ∧ r.name = a.name)) →
    (place r rs).Pairwise fun a b => a.precedes b = true
  | [], _, _ => List.pairwise_singleton _ _
  | b :: rs, h, hr => by
    obtain ⟨hb, hrs⟩ := List.pairwise_cons.1 h
    obtain ⟨hrb, hr⟩ := List.forall_mem_cons.1 hr
    rw [place]
    split
    next hlt =>
      refine List.pairwise_cons.2 ⟨?_, h⟩
      intro a ha
      rcases List.mem_cons.1 ha with rfl | ha
      · exact hlt
      · exact Rule.precedes_trans hlt (hb a ha)
    next hlt =>
      refine List.pairwise_cons.2 ⟨?_, pairwise_precedes_place hrs hr⟩
      intro a ha
      rcases mem_place.1 ha with rfl | ha
      · exact (Rule.precedes_or_precedes hrb).resolve_left hlt
      · exact hb a ha

theorem Ordered.insert (h : s.Ordered) (hr : s.contains r.category r.name = false) : (s.insert r).Ordered := by
  refine pairwise_precedes_place h ?_
  rintro a ha ⟨hc, hn⟩
  rw [Bool.eq_false_iff, ne_eq, contains_iff] at hr
  exact hr ⟨a, ha, hc.symm, hn.symm⟩

theorem mem_rules_foldl_insert : ∀ {rs : List Rule} {s : RuleSet},
    r ∈ (rs.foldl insert s).rules ↔ r ∈ rs ∨ r ∈ s.rules
  | [], s => by simp
  | a :: rs, s => by
    rw [List.foldl_cons, mem_rules_foldl_insert, insert, mem_place, List.mem_cons]
    tauto

theorem length_place (r : Rule) : ∀ rs : List Rule, (place r rs).length = rs.length + 1
  | [] => rfl
  | a :: rs => by
    rw [place]
    split
    · rfl
    · rw [List.length_cons, length_place r rs, List.length_cons]

theorem size_foldl_insert : ∀ (rs : List Rule) (s : RuleSet), (rs.foldl insert s).size = s.size + rs.length
  | [], s => rfl
  | r :: rs, s => by
    rw [List.foldl_cons, size_foldl_insert, List.length_cons]
    simp only [size, insert, length_place]
    omega

/-- Rules of different keys that a set does not have find their places in it. -/
theorem Ordered.foldl_insert : ∀ {rs : List Rule} {s : RuleSet}, s.Ordered → (rs.map Rule.key).Nodup →
    (∀ r ∈ rs, s.contains r.category r.name = false) → (rs.foldl RuleSet.insert s).Ordered
  | [], s, h, _, _ => h
  | r :: rs, s, h, hnodup, hnew => by
    obtain ⟨hr, hrs⟩ := List.forall_mem_cons.1 hnew
    rw [List.map_cons, List.nodup_cons] at hnodup
    rw [List.foldl_cons]
    refine (h.insert hr).foldl_insert hnodup.2 ?_
    intro a ha
    rw [Bool.eq_false_iff, ne_eq, contains_insert]
    rintro (⟨hc, hn⟩ | hold)
    · exact hnodup.1 (List.mem_map.2 ⟨a, ha, by rw [Rule.key, Rule.key, hc, hn]⟩)
    · rw [hrs a ha] at hold
      cases hold

/-- Two rules in order differ. -/
theorem Ordered.differ (h : s.Ordered) : s.rules.Pairwise Differ := by
  refine List.Pairwise.imp ?_ h
  rintro a b hab ⟨hc, hn⟩
  rcases Rule.precedes_iff.1 hab with hlt | ⟨-, hlt⟩
  · rw [hc] at hlt
    exact lt_irrefl _ hlt
  · rw [hn] at hlt
    exact String.lt_irrefl _ hlt

/-- In an ordered set a rule is found by its category and name. -/
theorem Ordered.find?_eq_some_iff (h : s.Ordered) :
    s.find? c name = some r ↔ r ∈ s.rules ∧ r.category = c ∧ r.name = name := by
  constructor
  · intro hr
    have hkey := List.find?_some hr
    simp only [Bool.and_eq_true, beq_iff_eq] at hkey
    exact ⟨List.mem_of_find?_eq_some hr, hkey⟩
  · rintro ⟨hr, rfl, rfl⟩
    have hsome : s.contains r.category r.name = true := contains_iff.2 ⟨r, hr, rfl, rfl⟩
    obtain ⟨a, ha⟩ := Option.isSome_iff_exists.1 hsome
    have hkey := List.find?_some ha
    simp only [Bool.and_eq_true, beq_iff_eq] at hkey
    rw [ha]
    by_contra hne
    exact h.differ.forall (List.mem_of_find?_eq_some ha) hr (fun h => hne (congrArg some h)) hkey

/-- The rules of a category are known from what is found in it. -/
theorem Ordered.ofCategory_eq (hs : s.Ordered) (ht : t.Ordered) (h : ∀ name, s.find? c name = t.find? c name) :
    s.ofCategory c = t.ofCategory c := by
  have hmem : ∀ {u : RuleSet}, u.Ordered → ∀ r, r ∈ u.ofCategory c ↔ r.category = c ∧ u.find? c r.name = some r := by
    intro u hu r
    rw [hu.find?_eq_some_iff, ofCategory, List.mem_filter, beq_iff_eq]
    tauto
  have hordered : ∀ {u : RuleSet}, u.Ordered → (u.ofCategory c).Pairwise fun a b => a.precedes b = true :=
    fun hu => hu.filter _
  have hnodup : ∀ {u : RuleSet}, u.Ordered → (u.ofCategory c).Nodup := by
    intro u hu
    refine (hordered hu).imp ?_
    rintro a b hab rfl
    rw [Rule.not_precedes_self] at hab
    cases hab
  -- lists of the same elements in the same strict order are equal
  have hperm : (s.ofCategory c).Perm (t.ofCategory c) := by
    rw [List.perm_ext_iff_of_nodup (hnodup hs) (hnodup ht)]
    intro r
    rw [hmem hs, hmem ht, h]
  refine hperm.eq_of_pairwise ?_ (hordered hs) (hordered ht)
  intro a b _ _ hab hba
  have := Rule.precedes_trans hab hba
  rw [Rule.not_precedes_self] at this
  cases this

end RuleSet

/-! ## Definitions -/

/-- A rule line that can be read, with its category. -/
structure Definition where
  category : Category
  line : RuleLine

namespace Definition

/-- What definitions are told apart by. -/
def key (d : Definition) : Category × String := (d.category, d.line.name)

def compile (vars : Variables) (d : Definition) : Except TaggerError Rule := d.line.compile d.category vars

/-- The definition that a line is, if it can be read. -/
def ofLine? (l : Category × Option RuleLine) : Option Definition := l.2.map (⟨l.1, ·⟩)

theorem length_filterMap_ofLine? : ∀ ls : List (Category × Option RuleLine),
    ls.countP (·.2.isNone) + (ls.filterMap ofLine?).length = ls.length
  | [] => rfl
  | (category, none) :: ls => by
    rw [List.countP_cons_of_pos rfl, List.filterMap_cons_none rfl, List.length_cons, ← length_filterMap_ofLine? ls]
    omega
  | (category, some line) :: ls => by
    have hdef : ofLine? (category, some line) = some ⟨category, line⟩ := rfl
    rw [List.countP_cons_of_neg (by simp), List.filterMap_cons_some hdef, List.length_cons, List.length_cons,
      ← length_filterMap_ofLine? ls]
    omega

/-- The definitions of a text. -/
def ofText (category : Category) (text : String) : List Definition :=
  (Text.contentLines text).filterMap fun l => (RuleLine.parse? l.2).map (⟨category, ·⟩)

/-- The first definition of each key. -/
def firsts (ds : List Definition) : List Definition := ds.eraseDupsBy fun a b => a.key == b.key

variable {d : Definition} {ds : List Definition}

theorem firsts_cons : firsts (d :: ds) = d :: firsts (ds.filter fun a => a.key != d.key) := by
  rw [firsts, List.eraseDupsBy_cons, firsts]
  simp only [bne, Bool.decide_eq_false]

/-- Induction along `firsts`: a definition, and those of other keys after it. -/
theorem firsts_induction {P : List Definition → Prop} (nil : P [])
    (cons : ∀ d ds, P (ds.filter fun a => a.key != d.key) → P (d :: ds)) : ∀ ds, P ds
  | [] => nil
  | d :: ds => cons d ds (firsts_induction nil cons _)
termination_by ds => ds.length
decreasing_by
  have := List.length_filter_le (fun a : Definition => a.key != d.key) ds
  rw [List.length_cons]
  omega

theorem firsts_sublist (ds : List Definition) : (firsts ds).Sublist ds := by
  induction ds using firsts_induction with
  | nil => exact .slnil
  | cons d ds ih =>
    rw [firsts_cons]
    exact (ih.trans List.filter_sublist).cons_cons d

/-- The first definition of a key is the one that is found. -/
theorem find?_firsts (k : Category × String) (ds : List Definition) :
    (firsts ds).find? (·.key == k) = ds.find? (·.key == k) := by
  induction ds using firsts_induction with
  | nil => rfl
  | cons d ds ih =>
    rw [firsts_cons, List.find?_cons, List.find?_cons, ih, List.find?_filter]
    split
    next => rfl
    next hne =>
      -- what was left out has the key of `d`, and another key is looked for
      congr 1
      funext a
      rw [beq_eq_false_iff_ne] at hne
      by_cases hk : a.key = k
      · simp [hk, Ne.symm hne]
      · simp [hk]

theorem nodup_map_key_firsts (ds : List Definition) : ((firsts ds).map key).Nodup := by
  induction ds using firsts_induction with
  | nil => exact .nil
  | cons d ds ih =>
    rw [firsts_cons, List.map_cons, List.nodup_cons]
    refine ⟨?_, ih⟩
    intro hmem
    obtain ⟨a, ha, hkey⟩ := List.mem_map.1 hmem
    have := (List.mem_filter.1 ((firsts_sublist _).subset ha)).2
    rw [hkey] at this
    simp at this

/-- There are as many first definitions as keys. -/
theorem length_firsts (ds : List Definition) : (firsts ds).length = (ds.map key).toFinset.card := by
  have hkeys : ((firsts ds).map key).toFinset = (ds.map key).toFinset := by
    ext k
    have hsome := congrArg Option.isSome (find?_firsts k ds)
    rw [Bool.eq_iff_iff, List.find?_isSome, List.find?_isSome] at hsome
    simpa using hsome
  rw [← hkeys, List.toFinset_card_of_nodup (nodup_map_key_firsts ds), List.length_map]

/-- A first definition stands where no one of its key stood before, and the first ones before it are the first
ones of what stands before it. -/
theorem exists_of_firsts_eq {post : List Definition} : ∀ {pre : List Definition}, firsts ds = pre ++ d :: post →
    ∃ before after, ds = before ++ d :: after ∧ d.key ∉ before.map key ∧ firsts before = pre := by
  induction ds using firsts_induction with
  | nil =>
    intro pre h
    exact absurd h.symm (by simp [firsts])
  | cons x ds ih =>
    intro pre h
    rw [firsts_cons] at h
    cases pre with
    | nil =>
      obtain ⟨rfl, -⟩ := List.cons.inj h
      exact ⟨[], ds, rfl, by simp, rfl⟩
    | cons y pre =>
      rw [List.cons_append, List.cons.injEq] at h
      obtain ⟨rfl, h⟩ := h
      obtain ⟨before, after, hfilter, hnew, hfirsts⟩ := ih h
      -- put back what has the key of `x`: it stands before `d` or after it
      obtain ⟨l₁, l₂, rfl, rfl, hafter⟩ := List.filter_eq_append_iff.1 hfilter
      obtain ⟨l₃, l₄, rfl, hskipped, hd, -⟩ := List.filter_eq_cons_iff.1 hafter
      have hne : d.key ≠ x.key := by simpa using hd
      refine ⟨x :: (l₁ ++ l₃), l₄, by simp, ?_, ?_⟩
      · simp only [List.map_cons, List.map_append, List.mem_cons, List.mem_append, not_or]
        refine ⟨hne, ?_, ?_⟩
        · rintro hmem
          obtain ⟨a, ha, hkey⟩ := List.mem_map.1 hmem
          exact hnew (List.mem_map.2 ⟨a, List.mem_filter.2 ⟨ha, by simpa [hkey] using hne⟩, hkey⟩)
        · rintro hmem
          obtain ⟨a, ha, hkey⟩ := List.mem_map.1 hmem
          exact hne (hkey ▸ by simpa using hskipped a ha)
      · have hnone : l₃.filter (fun a => a.key != x.key) = [] := List.filter_eq_nil_iff.2 hskipped
        rw [firsts_cons, List.filter_append, hnone, List.append_nil, hfirsts]

end Definition

/-! ## Compilations -/

namespace Compilation

/-- A compilation after so many rules, malformed lines and duplicates more. -/
def extend (c : Compilation) (rs : List Rule) (malformed duplicates : Nat) : Compilation :=
  ⟨rs.foldl RuleSet.insert c.set,
    ⟨c.stats.compiled + rs.length, c.stats.malformed + malformed, c.stats.duplicates + duplicates⟩⟩

/-- The first definitions of keys that a rule set does not have. -/
def fresh (s : RuleSet) (ds : List Definition) : List Definition :=
  Definition.firsts (ds.filter fun d => !s.contains d.category d.line.name)

variable {vars : Variables} {s : RuleSet} {d : Definition} {ds : List Definition}

theorem length_fresh_le (s : RuleSet) (ds : List Definition) : (fresh s ds).length ≤ ds.length :=
  (Definition.firsts_sublist _).length_le.trans (List.length_filter_le _ _)

theorem fresh_of_contains (h : s.contains d.category d.line.name = true) : fresh s (d :: ds) = fresh s ds := by
  rw [fresh, List.filter_cons, h, fresh]
  rfl

/-- A definition of a new key leaves the keys that are neither its own nor in the set. -/
theorem fresh_cons (h : s.contains d.category d.line.name = false) : fresh s (d :: ds) =
    d :: Definition.firsts (ds.filter fun a => a.key != d.key && !s.contains a.category a.line.name) := by
  rw [fresh, List.filter_cons, h, Bool.not_false, if_pos rfl, Definition.firsts_cons, List.filter_filter]

theorem fresh_insert {r : Rule} (hr : d.compile vars = .ok r) : fresh (s.insert r) ds =
    Definition.firsts (ds.filter fun a => a.key != d.key && !s.contains a.category a.line.name) := by
  have hline := RuleLine.compilesTo_of_compile hr
  rw [fresh]
  congr 2
  funext a
  have hinsert := @RuleSet.contains_insert s r a.category a.line.name
  rw [hline.category, hline.name] at hinsert
  rw [Bool.eq_iff_iff]
  simp only [Bool.and_eq_true, bne_iff_ne, ne_eq, Definition.key, Prod.mk.injEq, Bool.not_eq_true', ← Bool.not_eq_true,
    hinsert]
  tauto

/-- Adding lines compiles their first definitions of new keys, and counts the other lines. -/
theorem addLines_eq (vars : Variables) : ∀ (ls : List (Category × Option RuleLine)) (c : Compilation),
    c.addLines vars ls = ((fresh c.set (ls.filterMap Definition.ofLine?)).mapM (Definition.compile vars)).map fun rs =>
      c.extend rs (ls.countP (·.2.isNone))
        ((ls.filterMap Definition.ofLine?).length - (fresh c.set (ls.filterMap Definition.ofLine?)).length)
  | [], c => rfl
  | (category, none) :: ls, c => by
    have hdefs : List.filterMap Definition.ofLine? ((category, none) :: ls) = ls.filterMap Definition.ofLine? := rfl
    rw [addLines, addLine, hdefs, List.countP_cons]
    show addLines vars _ ls = _
    rw [addLines_eq vars ls]
    congr 1
    funext rs
    simp [extend, Nat.add_assoc, Nat.add_comm 1]
  | (category, some line) :: ls, c => by
    have hdefs : List.filterMap Definition.ofLine? ((category, some line) :: ls) =
        ⟨category, line⟩ :: ls.filterMap Definition.ofLine? := rfl
    rw [addLines, addLine, hdefs, List.countP_cons]
    split
    next hold =>
      -- a duplicate: the set stays as it is
      show addLines vars _ ls = _
      rw [addLines_eq vars ls, fresh_of_contains hold]
      have hle := length_fresh_le c.set (ls.filterMap Definition.ofLine?)
      congr 1
      funext rs
      simp only [extend, List.length_cons, Nat.add_zero, Option.isNone_some, Bool.false_eq_true, if_false]
      congr 2
      omega
    next hnew =>
      -- a new key: its rule is inserted, and later lines of that key are duplicates of it
      rw [Bool.not_eq_true] at hnew
      have hcons : fresh c.set (⟨category, line⟩ :: ls.filterMap Definition.ofLine?) = _ := fresh_cons hnew
      cases hr : line.compile category vars with
      | error e =>
        rw [hcons, List.mapM_cons, Definition.compile, hr]
        rfl
      | ok r =>
        have hd : Definition.compile vars ⟨category, line⟩ = .ok r := hr
        rw [hcons, ← fresh_insert hd, List.mapM_cons, hd]
        show addLines vars _ ls = _
        rw [addLines_eq vars ls]
        cases (fresh (c.set.insert r) (ls.filterMap Definition.ofLine?)).mapM (Definition.compile vars) with
        | error => rfl
        | ok rs =>
          show Except.ok _ = Except.ok _
          simp [extend, Nat.add_assoc, Nat.add_comm 1]
end Compilation

/-! ## Sources in order -/

theorem Category.exists_all_eq (c : Category) : ∃ pre post, Category.all = pre ++ c :: post ∧
    (∀ b ∈ pre, b.rank < c.rank) ∧ ∀ b ∈ post, c.rank < b.rank := by
  cases c with
  | date => exact ⟨[], [time, duration, set, temponym], rfl, by decide, by decide⟩
  | time => exact ⟨[date], [duration, set, temponym], rfl, by decide, by decide⟩
  | duration => exact ⟨[date, time], [set, temponym], rfl, by decide, by decide⟩
  | set => exact ⟨[date, time, duration], [temponym], rfl, by decide, by decide⟩
  | temponym => exact ⟨[date, time, duration, set], [], rfl, by decide, by decide⟩

/-- To sort by category is to take one category after the other. -/
theorem Sorting.mergeSort_category {α : Type} (category : α → Category) (xs : List α) :
    xs.mergeSort (fun a b => decide ((category a).rank ≤ (category b).rank)) =
      Category.all.flatMap fun c => xs.filter fun a => category a == c := by
  rw [mergeSort_eq_insertionSort (fun a b c hab hbc => by simp only [decide_eq_true_eq] at *; omega)
    (fun a b => by simp only [Bool.or_eq_true, decide_eq_true_eq]; omega)]
  induction xs with
  | nil => rfl
  | cons a xs ih =>
    obtain ⟨pre, post, hall, hpre, hpost⟩ := Category.exists_all_eq (category a)
    have hother : ∀ cs : List Category, category a ∉ cs →
        (cs.flatMap fun c => (a :: xs).filter fun a => category a == c) =
          cs.flatMap fun c => xs.filter fun a => category a == c := by
      intro cs hcs
      refine List.flatMap_congr fun c hc => ?_
      rw [List.filter_cons_of_neg]
      rintro h
      exact hcs (eq_of_beq h ▸ hc)
    -- `a` goes before the elements of its own category, after those of the categories before it
    have hpre' := hother pre fun h => lt_irrefl _ (hpre _ h)
    have hpost' := hother post fun h => lt_irrefl _ (hpost _ h)
    rw [List.insertionSort_cons, ih, hall, List.flatMap_append, List.flatMap_append, List.flatMap_cons, List.flatMap_cons,
      hpre', hpost', List.filter_cons_of_pos (p := fun b => category b == category a) (beq_self_eq_true _), List.cons_append]
    refine orderedInsert_of_split ?_ ?_
    · intro b hb
      obtain ⟨c, hc, hb⟩ := List.mem_flatMap.1 hb
      have hbc := eq_of_beq (List.mem_filter.1 hb).2
      have := hpre c hc
      rw [decide_eq_false_iff_not, hbc]
      omega
    · intro b hb
      rw [decide_eq_true_eq]
      rcases List.mem_append.1 hb with hb | hb
      · rw [eq_of_beq (List.mem_filter.1 hb).2]
      · obtain ⟨c, hc, hb⟩ := List.mem_flatMap.1 hb
        have := hpost c hc
        rw [eq_of_beq (List.mem_filter.1 hb).2]
        omega

namespace Definition

variable (vars : Variables) (sources : List (Category × String))

/-- The definitions of sources of one category, as given. -/
def ofCategory (category : Category) : List Definition :=
  (sources.filter (·.1 == category)).flatMap fun s => ofText s.1 s.2

/-- The definitions of all sources in order: by category, then as given. -/
def ofSources : List Definition :=
  (sources.mergeSort fun a b => decide (a.1.rank ≤ b.1.rank)).flatMap fun s => ofText s.1 s.2

end Definition

namespace RuleSource

/-- The sources that texts are. -/
def ofTexts (sources : List (Category × String)) : List RuleSource := sources.map fun s => ofText s.1 s.2

theorem inOrder_ofTexts (sources : List (Category × String)) : inOrder (ofTexts sources) =
    (sources.mergeSort fun a b => decide (a.1.rank ≤ b.1.rank)).flatMap fun s =>
      (Text.contentLines s.2).map fun l => (s.1, RuleLine.parse? l.2) := by
  rw [Sorting.mergeSort_category Prod.fst, List.flatMap_assoc, inOrder]
  refine List.flatMap_congr fun c _ => ?_
  rw [ofTexts, List.filter_map, List.flatMap_map]
  refine List.flatMap_congr fun s hs => ?_
  obtain rfl := eq_of_beq (List.mem_filter.1 hs).2
  rw [ofText, List.map_map]
  rfl

theorem filterMap_inOrder (sources : List (Category × String)) :
    (inOrder (ofTexts sources)).filterMap Definition.ofLine? = Definition.ofSources sources := by
  rw [inOrder_ofTexts, List.filterMap_flatMap, Definition.ofSources]
  simp only [List.filterMap_map]
  rfl

theorem length_inOrder (sources : List (Category × String)) :
    (inOrder (ofTexts sources)).length = (sources.map fun s => (Text.contentLines s.2).length).sum := by
  rw [inOrder_ofTexts, List.length_flatMap]
  simp only [List.length_map]
  exact ((List.mergeSort_perm sources _).map _).sum_eq

end RuleSource

namespace Definition

/-- The definitions of a category are those of its sources. -/
theorem filter_ofSources (sources : List (Category × String)) (category : Category) :
    (ofSources sources).filter (·.category == category) = ofCategory sources category := by
  have hmem : ∀ s : Category × String, (ofText s.1 s.2).filter (·.category == category) =
      if s.1 == category then ofText s.1 s.2 else [] := by
    intro s
    have hcategory : ∀ d ∈ ofText s.1 s.2, d.category = s.1 := by
      intro d hd
      obtain ⟨l, -, hl⟩ := List.mem_filterMap.1 hd
      obtain ⟨line, -, rfl⟩ := Option.map_eq_some_iff.1 hl
      rfl
    split
    next h => exact List.filter_eq_self.2 fun d hd => by rw [hcategory d hd, h]
    next h => exact List.filter_eq_nil_iff.2 fun d hd => by rwa [hcategory d hd]
  have hflat : ∀ xs : List (Category × String), (xs.flatMap fun s => ofText s.1 s.2).filter (·.category == category) =
      (xs.filter (·.1 == category)).flatMap fun s => ofText s.1 s.2 := by
    intro xs
    induction xs with
    | nil => rfl
    | cons s xs ih =>
      rw [List.flatMap_cons, List.filter_append, ih, hmem, List.filter_cons]
      split <;> rfl
  -- sorting keeps the order of the sources of one category
  have hsorted : (sources.mergeSort fun a b => decide (a.1.rank ≤ b.1.rank)).filter (·.1 == category) =
      sources.filter (·.1 == category) := by
    rw [Sorting.mergeSort_category Prod.fst, List.filter_flatMap]
    obtain ⟨pre, post, hall, hpre, hpost⟩ := Category.exists_all_eq category
    have hother : ∀ cs : List Category, category ∉ cs →
        (cs.flatMap fun c => (sources.filter (·.1 == c)).filter (·.1 == category)) = [] := by
      intro cs hcs
      rw [List.flatMap_eq_nil_iff]
      intro c hc
      rw [List.filter_filter, List.filter_eq_nil_iff]
      intro s _ h
      simp only [Bool.and_eq_true, beq_iff_eq] at h
      exact hcs (h.1 ▸ h.2 ▸ hc)
    rw [hall, List.flatMap_append, List.flatMap_cons, hother pre fun h => lt_irrefl _ (hpre _ h),
      hother post fun h => lt_irrefl _ (hpost _ h), List.nil_append, List.append_nil, List.filter_filter]
    simp only [Bool.and_self]
  rw [ofSources, hflat, hsorted, ofCategory]

end Definition

/-! ## Accounts -/

/-- What a compilation says of its sources: each line is counted once, there is one rule for each key, and the
rule of a key is what the first definition of the key in the sources of its category compiles to. -/
structure Compilation.Accounts (sources : List (Category × String)) (vars : Variables) (c : Compilation) : Prop where
  lines : c.stats.compiled + c.stats.malformed + c.stats.duplicates =
    (sources.map fun s => (Text.contentLines s.2).length).sum
  size : c.set.size = c.stats.compiled
  keys : c.set.size = ((Definition.ofSources sources).map Definition.key).toFinset.card
  stored : ∀ category name, (c.set.find? category name).map Except.ok =
    ((Definition.ofCategory sources category).find? (·.line.name == name)).map (Definition.compile vars)

/-- A failure is that of the first definition that fails, where definitions of a key that an earlier one has
are passed over. -/
def Definition.FirstFails (vars : Variables) (ds : List Definition) (e : TaggerError) : Prop :=
  ∃ before d after, ds = before ++ d :: after ∧ d.key ∉ before.map key ∧ d.compile vars = .error e ∧
    ∀ a ∈ firsts before, ∃ r, a.compile vars = .ok r

section

variable {sources : List (Category × String)} {vars : Variables} {normalization : Normalization}

theorem compileRules_ofTexts (sources : List (Category × String)) (vars : Variables) (normalization : Normalization) :
    compileRules (RuleSource.ofTexts sources) vars normalization =
      ((Definition.firsts (Definition.ofSources sources)).mapM (Definition.compile vars)).map fun rs =>
        Compilation.extend ⟨RuleSet.empty normalization, {}⟩ rs
          ((RuleSource.inOrder (RuleSource.ofTexts sources)).countP (·.2.isNone))
          ((Definition.ofSources sources).length - (Definition.firsts (Definition.ofSources sources)).length) := by
  have hfresh : ∀ ds, Compilation.fresh (RuleSet.empty normalization) ds = Definition.firsts ds := by
    intro ds
    rw [Compilation.fresh, List.filter_eq_self.2]
    exact fun d _ => rfl
  rw [compileRules, Compilation.addLines_eq, RuleSource.filterMap_inOrder]
  simp only [hfresh]

/-- The rules that definitions compile to have their keys. -/
theorem Definition.map_key_eq {ds : List Definition} {rs : List Rule}
    (h : List.Forall₂ (fun d r => Definition.compile vars d = .ok r) ds rs) :
    rs.map Rule.key = ds.map Definition.key := by
  induction h with
  | nil => rfl
  | cons hr _ ih =>
    have hline := RuleLine.compilesTo_of_compile hr
    rw [List.map_cons, List.map_cons, ih, Rule.key, Definition.key, hline.category, hline.name]

/-- The rule that is found under a key is what the definition found under it compiles to. -/
theorem Definition.find?_map_ok {ds : List Definition} {rs : List Rule}
    (h : List.Forall₂ (fun d r => Definition.compile vars d = .ok r) ds rs) (k : Category × String) :
    (rs.find? (·.key == k)).map Except.ok = (ds.find? (·.key == k)).map (Definition.compile vars) := by
  induction h with
  | nil => rfl
  | @cons d r ds rs hr _ ih =>
    have hline := RuleLine.compilesTo_of_compile hr
    have hkey : r.key = d.key := by rw [Rule.key, Definition.key, hline.category, hline.name]
    rw [List.find?_cons, List.find?_cons, hkey]
    split
    · rw [Option.map_some, Option.map_some, hr]
    · exact ih

/-- In an ordered set of given rules one finds what one finds among these. -/
theorem RuleSet.Ordered.find?_eq {s : RuleSet} (hs : s.Ordered) {rs : List Rule} (h : ∀ r, r ∈ s.rules ↔ r ∈ rs)
    (category : Category) (name : String) : s.find? category name = rs.find? (·.key == (category, name)) := by
  cases hr : rs.find? (·.key == (category, name)) with
  | none =>
    rw [RuleSet.find?, List.find?_eq_none]
    intro r hmem
    have hne := List.find?_eq_none.1 hr r ((h r).1 hmem)
    simpa [Rule.key] using hne
  | some r =>
    have hkey := List.find?_some hr
    rw [beq_iff_eq, Rule.key, Prod.mk.injEq] at hkey
    exact hs.find?_eq_some_iff.2 ⟨(h r).2 (List.mem_of_find?_eq_some hr), hkey⟩

/-- What is found among the first definitions is found among those of the category. -/
theorem Definition.find?_firsts_ofSources (sources : List (Category × String)) (category : Category) (name : String) :
    (Definition.firsts (Definition.ofSources sources)).find? (·.key == (category, name)) =
      (Definition.ofCategory sources category).find? (·.line.name == name) := by
  rw [Definition.find?_firsts, ← Definition.filter_ofSources, List.find?_filter]
  congr 1
  funext d
  rw [Bool.eq_iff_iff]
  simp [Definition.key]

theorem Compilation.accounts_of_ok {c : Compilation} (h : compileRules (RuleSource.ofTexts sources) vars normalization = .ok c) :
    c.Accounts sources vars ∧ c.set.Ordered := by
  rw [compileRules_ofTexts] at h
  cases hm : (Definition.firsts (Definition.ofSources sources)).mapM (Definition.compile vars) with
  | error => rw [hm] at h; cases h
  | ok rs =>
    rw [hm] at h
    obtain rfl := Except.ok.inj h
    have hall := exists_of_mapM_ok hm
    have hlength := hall.length_eq
    have hordered : (rs.foldl RuleSet.insert (RuleSet.empty normalization)).Ordered := by
      refine (RuleSet.ordered_empty normalization).foldl_insert ?_ fun r _ => rfl
      rw [Definition.map_key_eq hall]
      exact Definition.nodup_map_key_firsts _
    have hrules : ∀ r, r ∈ (rs.foldl RuleSet.insert (RuleSet.empty normalization)).rules ↔ r ∈ rs := by
      intro r
      rw [RuleSet.mem_rules_foldl_insert]
      exact or_iff_left List.not_mem_nil
    have hsize : (rs.foldl RuleSet.insert (RuleSet.empty normalization)).size = rs.length := by
      rw [RuleSet.size_foldl_insert]
      exact Nat.zero_add _
    refine ⟨⟨?_, ?_, ?_, ?_⟩, hordered⟩
    · have hle := (Definition.firsts_sublist (Definition.ofSources sources)).length_le
      have hlines := Definition.length_filterMap_ofLine? (RuleSource.inOrder (RuleSource.ofTexts sources))
      rw [RuleSource.filterMap_inOrder, RuleSource.length_inOrder] at hlines
      simp only [Compilation.extend]
      omega
    · simp only [Compilation.extend]
      omega
    · simp only [Compilation.extend]
      rw [hsize, ← hlength, Definition.length_firsts]
    · intro category name
      simp only [Compilation.extend]
      rw [hordered.find?_eq hrules, Definition.find?_map_ok hall, Definition.find?_firsts_ofSources]

theorem Definition.firstFails_of_error {e : TaggerError}
    (h : compileRules (RuleSource.ofTexts sources) vars normalization = .error e) :
    Definition.FirstFails vars (Definition.ofSources sources) e := by
  rw [compileRules_ofTexts] at h
  cases hm : (Definition.firsts (Definition.ofSources sources)).mapM (Definition.compile vars) with
  | ok => rw [hm] at h; cases h
  | error e' =>
    rw [hm] at h
    obtain rfl : e' = e := Except.error.inj h
    obtain ⟨pre, d, post, hfirsts, hd, hpre⟩ := exists_of_mapM_error hm
    obtain ⟨before, after, hsplit, hnew, rfl⟩ := Definition.exists_of_firsts_eq hfirsts
    exact ⟨before, d, after, hsplit, hnew, hd, hpre⟩

theorem RuleSource.inOrder_congr {sources' : List (Category × String)}
    (h : ∀ category, sources'.filter (·.1 == category) = sources.filter (·.1 == category)) :
    RuleSource.inOrder (RuleSource.ofTexts sources') = RuleSource.inOrder (RuleSource.ofTexts sources) := by
  rw [RuleSource.inOrder_ofTexts, RuleSource.inOrder_ofTexts, Sorting.mergeSort_category Prod.fst,
    Sorting.mergeSort_category Prod.fst]
  simp only [h]

end

/-- Compilation accounts for every line, and of the definitions of a category and name the first one counts. If
it fails, the first definition that counts and fails is to blame. So nothing depends on how sources of different
categories are mixed, and the rules of a category depend on its own sources alone. -/
theorem compileRules_accounts (sources : List (Category × String)) (vars : Variables) (normalization : Normalization) :
    (match compileRules (RuleSource.ofTexts sources) vars normalization with
      | .ok c => c.Accounts sources vars
      | .error e => Definition.FirstFails vars (Definition.ofSources sources) e) ∧
    (∀ sources' : List (Category × String),
      (∀ category, sources'.filter (·.1 == category) = sources.filter (·.1 == category)) →
        compileRules (RuleSource.ofTexts sources') vars normalization =
          compileRules (RuleSource.ofTexts sources) vars normalization) ∧
    ∀ (sources' : List (Category × String)) (category : Category),
      sources'.filter (·.1 == category) = sources.filter (·.1 == category) →
        ∀ c c', compileRules (RuleSource.ofTexts sources) vars normalization = .ok c →
          compileRules (RuleSource.ofTexts sources') vars normalization = .ok c' →
            c'.set.ofCategory category = c.set.ofCategory category := by
  refine ⟨?_, ?_, ?_⟩
  · cases h : compileRules (RuleSource.ofTexts sources) vars normalization with
    | ok c => exact (Compilation.accounts_of_ok h).1
    | error e => exact Definition.firstFails_of_error h
  · intro sources' hsame
    rw [compileRules, compileRules, RuleSource.inOrder_congr hsame]
  · intro sources' category hsame c c' hc hc'
    obtain ⟨haccounts, hordered⟩ := Compilation.accounts_of_ok hc
    obtain ⟨haccounts', hordered'⟩ := Compilation.accounts_of_ok hc'
    refine hordered'.ofCategory_eq hordered fun name => ?_
    have hfound := haccounts'.stored category name
    rw [Definition.ofCategory, hsame, ← Definition.ofCategory, ← haccounts.stored category name] at hfound
    exact Option.map_injective (fun _ _ => Except.ok.inj) hfound

end TemporalTagger
