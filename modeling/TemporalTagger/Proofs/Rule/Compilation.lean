/-
What compiling rule lines gives: if every line compiles, a rule set of what the lines compile to, in
which no two rules share category and name. Main fact: `compileRules_ok`.
-/
import TemporalTagger.Rule.Set
import Mathlib.Tactic

namespace TemporalTagger

/-! ## Rule sets -/

namespace RuleSet

/-- Two rules differ in category or name. -/
def Differ (a b : Rule) : Prop := ¬ (a.category = b.category ∧ a.name = b.name)

instance : Std.Symm Differ := ⟨fun _ _ h h' => h ⟨h'.1.symm, h'.2.symm⟩⟩

theorem mem_place {r a : Rule} : ∀ {rs : List Rule}, a ∈ place r rs ↔ a = r ∨ a ∈ rs
  | [] => by simp [place]
  | b :: rs => by
    rw [place]
    split
    · rw [List.mem_cons]
    · rw [List.mem_cons, @mem_place _ _ rs, List.mem_cons]
      tauto

theorem differ_of_not_contains {s : RuleSet} {c : Category} {name : String} (h : s.contains c name = false) :
    ∀ a ∈ s.rules, ¬ (a.category = c ∧ a.name = name) := by
  rintro a ha ⟨rfl, rfl⟩
  rw [contains, find?, Option.isSome_eq_false_iff, Option.isNone_iff_eq_none, List.find?_eq_none] at h
  exact h a ha (by simp)

/-- A rule that differs from all others finds its place among them. -/
theorem pairwise_place {r : Rule} : ∀ {rs : List Rule}, rs.Pairwise Differ → (∀ a ∈ rs, Differ a r) →
    (place r rs).Pairwise Differ
  | [], _, _ => List.pairwise_singleton _ _
  | b :: rs, h, hr => by
    rw [place]
    split
    · exact List.pairwise_cons.2 ⟨fun a ha => symm (hr a ha), h⟩
    · obtain ⟨hb, h⟩ := List.pairwise_cons.1 h
      obtain ⟨hbr, hr⟩ := List.forall_mem_cons.1 hr
      refine List.pairwise_cons.2 ⟨fun a ha => ?_, pairwise_place h hr⟩
      rcases mem_place.1 ha with rfl | ha
      · exact hbr
      · exact hb a ha

end RuleSet

/-! ## Rule lines -/

namespace RuleLine

/-- The fast check of a line, if it has one. -/
def fastPattern (line : RuleLine) (vars : Variables) : Except TaggerError (Option Pattern) :=
  match line.fastCheck with
  | none => .ok none
  | some text => (Expansion.pattern line.name text vars).map some

/-- The constraints of a line. -/
def posConstraints (line : RuleLine) : Except TaggerError (List PosConstraint) :=
  PosConstraint.compile line.name ((line.posConstraint.map PosConstraint.entries).getD [])

/-- A rule is what a line compiles to. -/
structure CompilesTo (line : RuleLine) (c : Category) (vars : Variables) (r : Rule) : Prop where
  pattern : Expansion.pattern line.name line.extraction vars = .ok r.pattern
  fastCheck : line.fastPattern vars = .ok r.fastCheck
  constraints : line.posConstraints = .ok r.constraints
  category : r.category = c
  name : r.name = line.name
  value : r.value = line.value

theorem compile_eq (line : RuleLine) (c : Category) (vars : Variables) :
    line.compile c vars = (Expansion.pattern line.name line.extraction vars).bind fun pattern =>
      (line.fastPattern vars).bind fun fastCheck => line.posConstraints.bind fun constraints =>
        .ok ⟨c, line.name, pattern, fastCheck, line.value, (line.offset.bind Offset.parse?).getD Offset.wholeMatch,
          line.quant, line.freq, line.modifier, line.emptyValue, constraints⟩ := by
  unfold compile fastPattern posConstraints
  cases Expansion.pattern line.name line.extraction vars with
  | error => rfl
  | ok => cases line.fastCheck <;> rfl

theorem compilesTo_of_compile {line : RuleLine} {c : Category} {vars : Variables} {r : Rule}
    (h : line.compile c vars = .ok r) : line.CompilesTo c vars r := by
  rw [compile_eq] at h
  cases hp : Expansion.pattern line.name line.extraction vars with
  | error => rw [hp] at h; cases h
  | ok pattern =>
    cases hf : line.fastPattern vars with
    | error => rw [hp, hf] at h; cases h
    | ok fastCheck =>
      cases hc : line.posConstraints with
      | error => rw [hp, hf, hc] at h; cases h
      | ok constraints =>
        rw [hp, hf, hc] at h
        obtain rfl := Except.ok.inj h
        exact ⟨hp, hf, hc, rfl, rfl, rfl⟩

/-- A line compiles if its patterns can be read. -/
theorem exists_compile {line : RuleLine} (c : Category) {vars : Variables} {pattern : Pattern}
    {fastCheck : Option Pattern} {constraints : List PosConstraint}
    (hp : Expansion.pattern line.name line.extraction vars = .ok pattern)
    (hf : line.fastPattern vars = .ok fastCheck) (hc : line.posConstraints = .ok constraints) :
    ∃ r, line.compile c vars = .ok r := by
  rw [compile_eq, hp, hf, hc]
  exact ⟨_, rfl⟩

end RuleLine

/-! ## Compilation -/

namespace Compilation

/-- A set under construction holds rules with a property, from one normalization table, all of them
different. -/
structure Sound (P : Rule → Prop) (normalization : Normalization) (c : Compilation) : Prop where
  holds : ∀ r ∈ c.set.rules, P r
  differ : c.set.rules.Pairwise RuleSet.Differ
  normalization : c.set.normalization = normalization

variable {P : Rule → Prop} {normalization : Normalization} {vars : Variables}

theorem addLine_sound {c : Compilation} (hc : c.Sound P normalization) {category : Category}
    {line : Option RuleLine} (h : ∀ l ∈ line, ∃ r, l.compile category vars = .ok r ∧ P r) :
    ∃ c', c.addLine vars category line = .ok c' ∧ c'.Sound P normalization := by
  cases line with
  | none => exact ⟨_, rfl, hc.holds, hc.differ, hc.normalization⟩
  | some line =>
    obtain ⟨r, hr, hP⟩ := h line rfl
    rw [addLine]
    split
    · exact ⟨_, rfl, hc.holds, hc.differ, hc.normalization⟩
    next hnew =>
      refine ⟨⟨c.set.insert r, { c.stats with compiled := c.stats.compiled + 1 }⟩, by rw [hr]; rfl, ?_, ?_, hc.normalization⟩
      · intro a ha
        rcases RuleSet.mem_place.1 ha with rfl | ha
        · exact hP
        · exact hc.holds a ha
      · have hline := RuleLine.compilesTo_of_compile hr
        refine RuleSet.pairwise_place hc.differ fun a ha => ?_
        rw [RuleSet.Differ, hline.name, hline.category]
        exact RuleSet.differ_of_not_contains (by simpa using hnew) a ha

theorem addLines_sound : ∀ (lines : List (Category × Option RuleLine)) {c : Compilation}, c.Sound P normalization →
    (∀ e ∈ lines, ∀ l ∈ e.2, ∃ r, l.compile e.1 vars = .ok r ∧ P r) →
    ∃ c', c.addLines vars lines = .ok c' ∧ c'.Sound P normalization
  | [], c, hc, _ => ⟨c, rfl, hc⟩
  | (category, line) :: lines, c, hc, h => by
    obtain ⟨hline, hlines⟩ := List.forall_mem_cons.1 h
    obtain ⟨c₁, h₁, hc₁⟩ := addLine_sound hc hline
    obtain ⟨c₂, h₂, hc₂⟩ := addLines_sound lines hc₁ hlines
    exact ⟨c₂, by rw [addLines, h₁]; exact h₂, hc₂⟩

end Compilation

/-- Sources of which every line compiles give a rule set of what the lines compile to. -/
theorem compileRules_ok {P : Rule → Prop} {sources : List RuleSource} {vars : Variables}
    (normalization : Normalization)
    (h : ∀ s ∈ sources, ∀ line ∈ s.lines, ∀ l ∈ line, ∃ r, l.compile s.category vars = .ok r ∧ P r) :
    ∃ c, compileRules sources vars normalization = .ok c ∧ c.Sound P normalization := by
  refine Compilation.addLines_sound _ ⟨by simp [RuleSet.empty], List.Pairwise.nil, rfl⟩ ?_
  rintro ⟨c, line⟩ hmem
  simp only [RuleSource.inOrder, List.mem_flatMap, List.mem_filter, List.mem_map, Prod.mk.injEq, beq_iff_eq] at hmem
  obtain ⟨-, -, s, ⟨hs, rfl⟩, line', hline, rfl, rfl⟩ := hmem
  exact h s hs line' hline

end TemporalTagger
