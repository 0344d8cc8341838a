/-
Where the expressions of a sentence come from: each is what a rule of a wanted category makes of one
of its matches, and unless covered ones are dropped every such match gives one. Main facts:
`exists_of_mem_extractSentence` and `mem_extractSentence`.
-/
import TemporalTagger.Extraction
import Mathlib.Tactic

namespace TemporalTagger

namespace Extraction

/-- An expression is what a rule makes of one of its matches in a sentence. -/
structure Stems (rules : RuleSet) (s : Sentence) (options : Options) (e : TimeExpression) (r : Rule)
    (m : Regex.Match) : Prop where
  rule : r ∈ rules.rules
  wanted : r.category ∈ options.categories.toList
  checked : r.passesFastCheck s.text = true
  matched : m ∈ r.pattern.allMatches s.text
  judged : judge rules.normalization r s m = .emitted e

/-- The expressions found before covered ones are dropped. -/
def findings (rules : RuleSet) (s : Sentence) (options : Options) : List TimeExpression :=
  options.categories.toList.flatMap fun c =>
    expressions ((((rules.ofCategory c).map (outcomes? rules.normalization s)).filterMap id).flatten)

theorem mem_expressions {os : List Outcome} {e : TimeExpression} : e ∈ expressions os ↔ .emitted e ∈ os := by
  unfold expressions
  rw [List.mem_filterMap]
  constructor
  · rintro ⟨o, ho, h⟩
    cases o <;> simp at h
    rwa [← h]
  · exact fun h => ⟨_, h, rfl⟩

theorem mem_findings {rules : RuleSet} {s : Sentence} {options : Options} {e : TimeExpression} :
    e ∈ findings rules s options ↔ ∃ r m, Stems rules s options e r m := by
  simp only [findings, List.mem_flatMap, mem_expressions, List.mem_flatten, List.mem_filterMap, List.mem_map,
    RuleSet.ofCategory, List.mem_filter, id_eq, beq_iff_eq]
  constructor
  · rintro ⟨c, hc, os, ⟨_, ⟨r, ⟨hr, rfl⟩, rfl⟩, hos⟩, he⟩
    unfold outcomes? at hos
    split at hos
    next hf =>
      obtain rfl := Option.some.inj hos
      obtain ⟨m, hm, hj⟩ := List.mem_map.1 he
      exact ⟨r, m, hr, hc, hf, hm, hj⟩
    next => cases hos
  · rintro ⟨r, m, hr, hc, hf, hm, hj⟩
    exact ⟨r.category, hc, _, ⟨_, ⟨r, ⟨hr, rfl⟩, rfl⟩, if_pos hf⟩, List.mem_map.2 ⟨m, hm, hj⟩⟩

theorem mem_byStart {es : List TimeExpression} {e : TimeExpression} : e ∈ byStart es ↔ e ∈ es :=
  (List.mergeSort_perm es _).mem_iff

theorem keepWidest_sublist : ∀ (widest : Nat) (es : List TimeExpression), (keepWidest widest es).Sublist es
  | _, [] => List.nil_sublist _
  | widest, e :: es => by
    rw [keepWidest]
    split
    · exact (keepWidest_sublist widest es).cons e
    · exact (keepWidest_sublist _ es).cons_cons e

theorem mem_of_mem_dropSubsumed {es : List TimeExpression} {e : TimeExpression} (h : e ∈ dropSubsumed es) :
    e ∈ es := by
  rw [← (List.mergeSort_perm es claimsBefore).mem_iff]
  unfold dropSubsumed at h
  split at h
  · cases h
  next first rest hsort =>
    rw [hsort]
    rcases List.mem_cons.1 h with rfl | h
    · exact List.mem_cons_self
    · exact List.mem_cons_of_mem _ ((keepWidest_sublist _ _).subset h)

theorem extractSentence_eq (rules : RuleSet) (s : Sentence) (options : Options) :
    extractSentence rules s options =
      if options.dropSubsumed then dropSubsumed (findings rules s options)
      else byStart (findings rules s options) := by
  simp only [extractSentence, run, findings, List.flatMap_map]

/-- Every expression of a sentence is what a rule makes of a match. -/
theorem exists_of_mem_extractSentence {rules : RuleSet} {s : Sentence} {options : Options} {e : TimeExpression}
    (h : e ∈ extractSentence rules s options) : ∃ r m, Stems rules s options e r m := by
  rw [extractSentence_eq] at h
  split at h
  · exact mem_findings.1 (mem_of_mem_dropSubsumed h)
  · exact mem_findings.1 (mem_byStart.1 h)

/-- Without dropping, everything that a rule makes of a match is among the expressions. -/
theorem mem_extractSentence {rules : RuleSet} {s : Sentence} {options : Options} {e : TimeExpression}
    (hkeep : options.dropSubsumed = false) :
    e ∈ extractSentence rules s options ↔ ∃ r m, Stems rules s options e r m := by
  rw [extractSentence_eq, hkeep, if_neg Bool.false_ne_true, mem_byStart, mem_findings]

/-! ## Emitted expressions -/

/-- What the tests have passed of a match that gives an expression. -/
structure Passed (t : Normalization) (r : Rule) (s : Sentence) (m : Regex.Match) (span : Span)
    (e : TimeExpression) : Prop where
  offset : r.offset.span? m = some span
  nonempty : span.start < span.stop
  accepted : Boundary.accepts s span = true
  pos : r.satisfiesPos s m = true
  express : express t r s m span = e

theorem judge_eq_emitted {t : Normalization} {r : Rule} {s : Sentence} {m : Regex.Match} {e : TimeExpression} :
    judge t r s m = .emitted e ↔ ∃ span, Passed t r s m span e := by
  unfold judge
  constructor
  · intro h
    split at h
    · cases h
    next span hspan =>
      obtain ⟨hspan, hlt⟩ := Option.filter_eq_some_iff.1 hspan
      split at h
      · cases h
      next ha =>
        split at h
        · cases h
        next hp => exact ⟨span, hspan, by simpa using hlt, by simpa using ha, by simpa using hp, Outcome.emitted.inj h⟩
  · rintro ⟨span, hspan, hlt, ha, hp, he⟩
    simp [hspan, Option.filter, hlt, ha, hp, he]

end Extraction

/-! ## Fast checks -/

/-- The same rule, tried on every text. -/
def Rule.unchecked (r : Rule) : Rule := { r with fastCheck := none }

/-- The same rules, tried on every text. -/
def RuleSet.unchecked (rules : RuleSet) : RuleSet := { rules with rules := rules.rules.map Rule.unchecked }

theorem Pattern.allMatches_eq_nil {p : Pattern} {text : String} (h : p.occursIn text = false) :
    p.allMatches text = [] := by
  have : p.findFrom (Regex.Place.ofText text) = none := by
    rw [findFrom, Option.map_eq_none_iff]
    exact Option.isSome_eq_false_iff.1 h |> Option.isNone_iff_eq_none.1
  rw [allMatches, matchesFrom, this]

namespace Extraction

theorem flatten_filterMap_map {α β : Type} (f : α → Option (List β)) : ∀ l : List α,
    ((l.map f).filterMap id).flatten = l.flatMap fun a => (f a).getD []
  | [] => rfl
  | a :: l => by
    rw [List.map_cons, List.filterMap_cons, List.flatMap_cons, ← flatten_filterMap_map f l]
    cases f a <;> rfl

theorem outcomes_unchecked (t : Normalization) (s : Sentence) {r : Rule}
    (h : r.passesFastCheck s.text = false → r.pattern.occursIn s.text = false) :
    (outcomes? t s r.unchecked).getD [] = (outcomes? t s r).getD [] := by
  have hrun : outcomes? t s r.unchecked = some ((r.pattern.allMatches s.text).map (judge t r s)) := rfl
  rw [hrun, outcomes?]
  split
  · rfl
  next hf => rw [Pattern.allMatches_eq_nil (h (by simpa using hf))]; rfl

theorem findings_unchecked {rules : RuleSet}
    (h : ∀ r ∈ rules.rules, ∀ text, r.passesFastCheck text = false → r.pattern.occursIn text = false)
    (s : Sentence) (options : Options) : findings rules.unchecked s options = findings rules s options := by
  unfold findings
  refine List.flatMap_congr fun c _ => ?_
  have hc : rules.unchecked.ofCategory c = (rules.ofCategory c).map Rule.unchecked := List.filter_map
  rw [flatten_filterMap_map, flatten_filterMap_map, hc, List.flatMap_map]
  exact congrArg _ (List.flatMap_congr fun r hr =>
    outcomes_unchecked rules.normalization s (h r (List.mem_filter.1 hr).1 s.text))

/-- Fast checks that reject only texts without a match can be left out. -/
theorem extractSentence_unchecked {rules : RuleSet}
    (h : ∀ r ∈ rules.rules, ∀ text, r.passesFastCheck text = false → r.pattern.occursIn text = false)
    (s : Sentence) (options : Options) :
    extractSentence rules.unchecked s options = extractSentence rules s options := by
  rw [extractSentence_eq, extractSentence_eq, findings_unchecked h]

end Extraction

end TemporalTagger
