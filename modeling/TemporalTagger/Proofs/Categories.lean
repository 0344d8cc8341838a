/-
What a choice of categories does to a sentence. Without the overlap filter it leaves out the expressions of the other
categories, and the rest stands by start, category, rule name and match; with the filter it may also bring back what
the other categories had covered, but it loses nothing. Main fact: `extractSentence_restricts`.
-/
import TemporalTagger.Proofs.Overlap
import TemporalTagger.Proofs.Rule.Definitions

namespace TemporalTagger

/-! ## Expressions of some categories -/

theorem CategorySet.filter_toList {wider narrower : CategorySet} (h : wider.includes narrower = true) :
    wider.toList.filter narrower.has = narrower.toList := by
  rw [toList, List.filter_filter, toList]
  refine List.filter_congr fun c hc => ?_
  have hc := List.all_eq_true.1 h c hc
  cases hn : narrower.has c with
  | false => rfl
  | true => simpa [hn] using hc

theorem CategorySet.all_includes (wanted : CategorySet) : (ofList Category.all).includes wanted = true := by
  rw [includes, List.all_eq_true]
  exact fun c hc => Bool.or_eq_true_iff.2 (.inr (List.contains_iff_mem.2 hc))

namespace Extraction

variable {rules : RuleSet} {s : Sentence} {options : Options} {e : TimeExpression}

theorem category_of_mem_finds {t : Normalization} {r : Rule} (he : e ∈ finds t s r) : e.category = r.category := by
  rw [finds, mem_expressions, outcomes?] at he
  split at he
  · obtain ⟨m, -, hm⟩ := List.mem_map.1 he
    obtain ⟨span, hpassed⟩ := judge_eq_emitted.1 hm
    obtain rfl := hpassed.express
    rfl
  · cases he

/-- What is found in a choice of categories is what is found in a wider one, less what is of other categories. -/
theorem filter_findings {narrower : CategorySet} (h : options.categories.includes narrower = true) :
    (findings rules s options).filter (fun e => narrower.has e.category) =
      findings rules s { options with categories := narrower } := by
  have hblock : ∀ c, ((rules.ofCategory c).flatMap (finds rules.normalization s)).filter
      (fun e => narrower.has e.category) =
        if narrower.has c then (rules.ofCategory c).flatMap (finds rules.normalization s) else [] := by
    intro c
    have hcategory : ∀ e ∈ (rules.ofCategory c).flatMap (finds rules.normalization s), e.category = c := by
      intro e he
      obtain ⟨r, hr, he⟩ := List.mem_flatMap.1 he
      rw [category_of_mem_finds he, eq_of_beq (List.mem_filter.1 hr).2]
    split
    next hc => exact List.filter_eq_self.2 fun e he => by rwa [hcategory e he]
    next hc => exact List.filter_eq_nil_iff.2 fun e he => by rwa [hcategory e he]
  rw [findings_eq, findings_eq, List.filter_flatMap, ← CategorySet.filter_toList h]
  induction options.categories.toList with
  | nil => rfl
  | cons c cs ih =>
    rw [List.flatMap_cons, ih, hblock, List.filter_cons]
    split <;> rfl

/-- Without the overlap filter a choice of categories is a filter. -/
theorem filter_extractSentence (rules : RuleSet) (s : Sentence) (options : Options) (wanted : CategorySet) :
    extractSentence rules s { options with categories := wanted, dropSubsumed := false } =
      (extractSentence rules s { options with categories := .ofList Category.all, dropSubsumed := false }).filter
        fun e => wanted.has e.category := by
  rw [extractSentence_eq, if_neg Bool.false_ne_true, extractSentence_eq, if_neg Bool.false_ne_true, filter_byStart,
    filter_findings (CategorySet.all_includes wanted)]

/-! ## The overlap filter -/

/-- Of fewer expressions, with less that was reached before them, the pass keeps no fewer. -/
theorem filter_keepWidest_sublist (p : TimeExpression → Bool) : ∀ {narrow wide : Nat} (_ : narrow ≤ wide)
    (es : List TimeExpression), ((keepWidest wide es).filter p).Sublist (keepWidest narrow (es.filter p))
  | _, _, _, [] => .slnil
  | narrow, wide, h, e :: es => by
    rw [keepWidest, List.filter_cons]
    split
    next hle =>
      -- dropped; among fewer it may be kept, and reaches no further than what covered it
      split
      · rw [keepWidest]
        split
        · exact filter_keepWidest_sublist p h es
        · exact (filter_keepWidest_sublist p hle es).cons e
      · exact filter_keepWidest_sublist p h es
    next hlt =>
      -- kept, and among fewer too, if it is one of them
      rw [List.filter_cons]
      split
      · rw [keepWidest, if_neg (by omega)]
        exact (filter_keepWidest_sublist p le_rfl es).cons_cons e
      · exact filter_keepWidest_sublist p (by omega) es

theorem keepWidest_sublist_keepInOrder (es : List TimeExpression) : (keepWidest 0 es).Sublist (keepInOrder es) := by
  cases es with
  | nil => exact .slnil
  | cons e es =>
    rw [keepWidest, keepInOrder]
    split
    next hle =>
      rw [Nat.le_zero.1 hle]
      exact .cons e (.refl _)
    next => exact .refl _

theorem filter_keepInOrder_sublist (p : TimeExpression → Bool) (es : List TimeExpression) :
    ((keepInOrder es).filter p).Sublist (keepInOrder (es.filter p)) := by
  cases es with
  | nil => exact .slnil
  | cons e es =>
    rw [keepInOrder, List.filter_cons, List.filter_cons]
    split
    · exact (filter_keepWidest_sublist p le_rfl es).cons_cons e
    · exact (filter_keepWidest_sublist p (Nat.zero_le _) es).trans (keepWidest_sublist_keepInOrder _)

/-- What the filter keeps of a category it keeps without the other categories too. -/
theorem filter_extractSentence_sublist {narrower : CategorySet} (h : options.categories.includes narrower = true) :
    ((extractSentence rules s { options with dropSubsumed := true }).filter fun e => narrower.has e.category).Sublist
      (extractSentence rules s { options with categories := narrower, dropSubsumed := true }) := by
  rw [extractSentence_eq, if_pos rfl, extractSentence_eq, if_pos rfl, dropSubsumed_eq_keepInOrder,
    dropSubsumed_eq_keepInOrder]
  have hfindings : (findings rules s { options with dropSubsumed := true }).filter _ = _ := filter_findings h
  rw [← hfindings, ← Sorting.filter_mergeSort claimsBefore_trans claimsBefore_total]
  exact filter_keepInOrder_sublist _ _

/-! ## The order of expressions -/

/-- An expression with the rule that found it, and the place of its match among the matches of the rule. -/
structure Finding where
  expression : TimeExpression
  rule : Rule
  place : Nat

namespace Finding

/-- An expression is what its rule makes of the match at its place. -/
def Stems (rules : RuleSet) (s : Sentence) (options : Options) (f : Finding) : Prop :=
  ∃ m, Extraction.Stems rules s options f.expression f.rule m ∧ (f.rule.pattern.allMatches s.text)[f.place]? = some m

/-- The order in which expressions are found: by category, then by the name of the rule, then by match. -/
def FoundBefore (f g : Finding) : Prop := f.rule.precedes g.rule = true ∨ f.rule = g.rule ∧ f.place < g.place

/-- The order in which they are returned: by start, then as they are found. -/
def StandsBefore (f g : Finding) : Prop :=
  f.expression.span.start < g.expression.span.start ∨
    f.expression.span.start = g.expression.span.start ∧ f.FoundBefore g

/-- What a rule makes of a match. -/
def ofMatch? (t : Normalization) (s : Sentence) (r : Rule) (m : Regex.Match × Nat) : Option Finding :=
  match judge t r s m.1 with
  | .emitted e => some ⟨e, r, m.2⟩
  | _ => none

/-- What a rule finds in a sentence, by match. -/
def ofRule (t : Normalization) (s : Sentence) (r : Rule) : List Finding :=
  if r.passesFastCheck s.text then (r.pattern.allMatches s.text).zipIdx.filterMap (ofMatch? t s r) else []

/-- What is found in a sentence, by category, rule and match. -/
def inOrder (rules : RuleSet) (s : Sentence) (options : Options) : List Finding :=
  options.categories.toList.flatMap fun c => (rules.ofCategory c).flatMap (ofRule rules.normalization s)

variable {t : Normalization} {r : Rule} {f g : Finding}

theorem ofMatch?_eq_some_iff {m : Regex.Match × Nat} :
    ofMatch? t s r m = some f ↔ judge t r s m.1 = .emitted f.expression ∧ r = f.rule ∧ m.2 = f.place := by
  obtain ⟨e, r', place⟩ := f
  unfold ofMatch?
  cases judge t r s m.1 <;> simp

theorem mem_ofRule : f ∈ ofRule t s r ↔ r = f.rule ∧ r.passesFastCheck s.text = true ∧
    ∃ m, (r.pattern.allMatches s.text)[f.place]? = some m ∧ judge t r s m = .emitted f.expression := by
  rw [ofRule]
  split
  next hf =>
    simp only [List.mem_filterMap, ofMatch?_eq_some_iff, hf, true_and]
    constructor
    · rintro ⟨⟨m, i⟩, hm, hjudge, hr, rfl⟩
      exact ⟨hr, m, List.mk_mem_zipIdx_iff_getElem?.1 hm, hjudge⟩
    · rintro ⟨hr, m, hm, hjudge⟩
      exact ⟨⟨m, f.place⟩, List.mk_mem_zipIdx_iff_getElem?.2 hm, hjudge, hr, rfl⟩
  next hf => simp [hf]

theorem mem_inOrder : f ∈ inOrder rules s options ↔ f.Stems rules s options := by
  simp only [inOrder, List.mem_flatMap, RuleSet.ofCategory, List.mem_filter, beq_iff_eq, mem_ofRule, Stems]
  constructor
  · rintro ⟨c, hc, r, ⟨hr, rfl⟩, rfl, hf, m, hm, hjudge⟩
    exact ⟨m, ⟨hr, hc, hf, List.mem_of_getElem? hm, hjudge⟩, hm⟩
  · rintro ⟨m, hstems, hm⟩
    exact ⟨f.rule.category, hstems.wanted, f.rule, ⟨hstems.rule, rfl⟩, rfl, hstems.checked, m, hm, hstems.judged⟩

theorem map_ofRule (t : Normalization) (s : Sentence) (r : Rule) :
    (ofRule t s r).map (·.expression) = finds t s r := by
  rw [ofRule, finds, outcomes?]
  split
  · have hmatches : ∀ (ms : List Regex.Match) (n : Nat),
        ((ms.zipIdx n).filterMap (ofMatch? t s r)).map (·.expression) = expressions (ms.map (judge t r s)) := by
      intro ms
      induction ms with
      | nil => intro n; rfl
      | cons m ms ih =>
        intro n
        rw [List.zipIdx_cons, List.filterMap_cons, List.map_cons, expressions, List.filterMap_cons, ← expressions,
          ← ih (n + 1), ofMatch?]
        cases judge t r s m <;> rfl
    exact hmatches _ 0
  · rfl

theorem map_inOrder (rules : RuleSet) (s : Sentence) (options : Options) :
    (inOrder rules s options).map (·.expression) = findings rules s options := by
  rw [findings_eq, inOrder]
  simp only [List.map_flatMap, map_ofRule]

theorem pairwise_ofRule (t : Normalization) (s : Sentence) (r : Rule) :
    (ofRule t s r).Pairwise fun f g => f.place < g.place := by
  rw [ofRule]
  split
  · refine List.pairwise_filterMap.2 ((Sorting.pairwise_zipIdx (r.pattern.allMatches s.text)).imp ?_)
    intro a b hab f hf g hg
    rwa [← (ofMatch?_eq_some_iff.1 hf).2.2, ← (ofMatch?_eq_some_iff.1 hg).2.2]
  · exact .nil

theorem pairwise_inOrder (hordered : rules.Ordered) (s : Sentence) (options : Options) :
    (inOrder rules s options).Pairwise FoundBefore := by
  -- findings of two rules stand as the rules do
  have hrules : ∀ {f g r r'}, f ∈ ofRule rules.normalization s r → g ∈ ofRule rules.normalization s r' →
      r.precedes r' = true → f.FoundBefore g := by
    intro f g r r' hf hg hprecedes
    obtain ⟨rfl, -⟩ := mem_ofRule.1 hf
    obtain ⟨rfl, -⟩ := mem_ofRule.1 hg
    exact .inl hprecedes
  refine List.pairwise_flatMap.2 ⟨fun c _ => List.pairwise_flatMap.2 ⟨fun r _ => ?_, ?_⟩, ?_⟩
  · refine (pairwise_ofRule rules.normalization s r).imp_of_mem fun hf hg hlt => .inr ⟨?_, hlt⟩
    rw [← (mem_ofRule.1 hf).1, ← (mem_ofRule.1 hg).1]
  · exact (List.Pairwise.filter _ hordered).imp fun hprecedes f hf g hg => hrules hf hg hprecedes
  · have hranks : Category.all.Pairwise fun a b => a.rank < b.rank := by decide
    refine (hranks.filter options.categories.has).imp fun {a b} hlt f hf g hg => ?_
    obtain ⟨r, hr, hf⟩ := List.mem_flatMap.1 hf
    obtain ⟨r', hr', hg⟩ := List.mem_flatMap.1 hg
    refine hrules hf hg (Rule.precedes_iff.2 (.inl ?_))
    rwa [eq_of_beq (List.mem_filter.1 hr).2, eq_of_beq (List.mem_filter.1 hr').2]

/-- What is found in a sentence, in the order in which it is returned. -/
def byStart (rules : RuleSet) (s : Sentence) (options : Options) : List Finding :=
  (inOrder rules s options).mergeSort fun f g => f.expression.span.start ≤ g.expression.span.start

theorem pairwise_byStart (hordered : rules.Ordered) (s : Sentence) (options : Options) :
    (byStart rules s options).Pairwise StandsBefore := by
  have htrans := fun f g h : Finding => startsBefore_trans f.expression g.expression h.expression
  have htotal := fun f g : Finding => startsBefore_total f.expression g.expression
  refine (Sorting.pairwise_mergeSort_of_pairwise htrans htotal (pairwise_inOrder hordered s options)).imp ?_
  rintro f g ⟨hle, htie⟩
  rw [decide_eq_true_eq] at hle htie
  rcases hle.lt_or_eq with hlt | heq
  · exact .inl hlt
  · exact .inr ⟨heq, htie heq.ge⟩

theorem map_byStart (rules : RuleSet) (s : Sentence) (options : Options) :
    (byStart rules s options).map (·.expression) =
      extractSentence rules s { options with dropSubsumed := false } := by
  rw [extractSentence_eq, if_neg Bool.false_ne_true, byStart,
    List.map_mergeSort (s := fun a b : TimeExpression => decide (a.span.start ≤ b.span.start)) fun _ _ _ _ => rfl,
    map_inOrder]
  rfl

end Finding

/-! ## Choices of categories -/

/-- Expressions are those that stem from a sentence, each where it belongs. -/
def Listed (rules : RuleSet) (s : Sentence) (options : Options) (es : List TimeExpression) : Prop :=
  ∃ fs : List Finding, es = fs.map (·.expression) ∧ fs.Pairwise Finding.StandsBefore ∧
    ∀ f, f ∈ fs ↔ f.Stems rules s options

/-- A choice of categories only filters. Without the overlap filter it gives of all expressions those of the chosen
categories, by start, category, rule name and match; with it, what is returned of a category is still returned when
others are switched off. -/
theorem extractSentence_restricts (rules : RuleSet) (s : Sentence) (options : Options) :
    (∀ wanted : CategorySet,
      extractSentence rules s { options with categories := wanted, dropSubsumed := false } =
        (extractSentence rules s { options with categories := .ofList Category.all, dropSubsumed := false }).filter
          fun e => wanted.has e.category) ∧
    (rules.Ordered → Listed rules s options (extractSentence rules s { options with dropSubsumed := false })) ∧
    ∀ narrower : CategorySet, options.categories.includes narrower = true →
      ((extractSentence rules s { options with dropSubsumed := true }).filter fun e => narrower.has e.category).Sublist
        (extractSentence rules s { options with categories := narrower, dropSubsumed := true }) := by
  refine ⟨filter_extractSentence rules s options, fun hordered => ?_, fun narrower => filter_extractSentence_sublist⟩
  refine ⟨Finding.byStart rules s options, (Finding.map_byStart rules s options).symm,
    Finding.pairwise_byStart hordered s options, fun f => ?_⟩
  rw [Finding.byStart, (List.mergeSort_perm _ _).mem_iff, Finding.mem_inOrder]

end Extraction

end TemporalTagger
