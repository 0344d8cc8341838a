/-
The counters of a document. To merge the counters of one sentence after another is to count the outcomes of all of
them together, category by category. So every match ends up in one counter, and every expression that was found is
returned or counted as covered. Main facts: `metrics_extractAll` and `tagDocument_accounts`.
-/
import TemporalTagger.Proofs.Increments

namespace TemporalTagger

/-! ## Outcomes -/

namespace Extraction

/-- What the rules of a category do with a sentence. -/
def results (rules : RuleSet) (c : Category) (s : Sentence) : List (Option (List Outcome)) :=
  (rules.ofCategory c).map (outcomes? rules.normalization s)

/-- The matches of a category in a sentence, of those rules whose fast check the sentence passes. -/
def tried (rules : RuleSet) (c : Category) (s : Sentence) : List Regex.Match :=
  ((rules.ofCategory c).filter (·.passesFastCheck s.text)).flatMap (·.pattern.allMatches s.text)

/-- A match is rejected for one reason or gives an expression. -/
theorem length_outcomes (os : List Outcome) :
    os.length = os.countP Outcome.isOffset + os.countP Outcome.isBoundary + os.countP Outcome.isPos +
      (expressions os).length := by
  induction os with
  | nil => rfl
  | cons o os ih =>
    unfold expressions at ih ⊢
    cases o <;>
      simp [List.countP_cons, Outcome.isOffset, Outcome.isBoundary, Outcome.isPos] <;> omega

theorem length_flatten_results (rules : RuleSet) (c : Category) (s : Sentence) :
    ((results rules c s).filterMap id).flatten.length = (tried rules c s).length := by
  unfold results tried
  rw [flatten_filterMap_map]
  induction rules.ofCategory c with
  | nil => rfl
  | cons r rs ih =>
    rw [List.flatMap_cons, List.length_append, ih, outcomes?, List.filter_cons]
    split <;> simp

theorem countOutcomes_append (c : Category) (rs rs' : List (Option (List Outcome))) :
    countOutcomes c (rs ++ rs') = (countOutcomes c rs).add (countOutcomes c rs') := by
  simp [countOutcomes, CategoryMetrics.add, expressions]

theorem length_dropSubsumed_le (es : List TimeExpression) : (dropSubsumed es).length ≤ es.length := by
  rw [← (List.mergeSort_perm es claimsBefore).length_eq]
  unfold dropSubsumed
  split
  · exact Nat.zero_le _
  next e rest h => rw [h]; exact Nat.succ_le_succ (keepWidest_sublist _ _).length_le

/-- Counting takes no notice of order. -/
theorem countOutcomes_perm (c : Category) {rs rs' : List (Option (List Outcome))} (h : rs.Perm rs') :
    countOutcomes c rs = countOutcomes c rs' := by
  have hall : (rs.filterMap id).flatten.Perm (rs'.filterMap id).flatten := (h.filterMap id).flatten
  have hfound : (expressions (rs.filterMap id).flatten).Perm (expressions (rs'.filterMap id).flatten) :=
    hall.filterMap _
  unfold countOutcomes
  simp only [h.length_eq, h.countP_eq, hall.length_eq, hall.countP_eq, hfound.length_eq]

end Extraction

/-! ## Counters -/

namespace CategorySet

theorem nodup_toList (cs : CategorySet) : cs.toList.Nodup :=
  List.Nodup.filter _ (by decide)

theorem pairwise_toList (cs : CategorySet) : cs.toList.Pairwise fun c d => c.rank ≤ d.rank :=
  List.Pairwise.filter _ (by decide)

end CategorySet

namespace CategoryMetrics

variable {f g : Category → CategoryMetrics} {cs : List Category}

/-- Counters of other categories are passed over. -/
theorem absorb_append {m : CategoryMetrics} {ms : List CategoryMetrics} (h : ∀ x ∈ ms, x.category ≠ m.category)
    (rest : List CategoryMetrics) : m.absorb (ms ++ rest) = ms ++ m.absorb rest := by
  induction ms with
  | nil => rfl
  | cons x ms ih =>
    obtain ⟨hx, hms⟩ := List.forall_mem_cons.1 h
    rw [List.cons_append, absorb, if_neg hx, ih hms, List.cons_append]

theorem absorb_map_append (hf : ∀ c, (f c).category = c) {c : Category} (hc : c ∉ cs) {m : CategoryMetrics}
    (hm : m.category = c) (rest : List CategoryMetrics) : m.absorb (cs.map f ++ rest) = cs.map f ++ m.absorb rest := by
  refine absorb_append (fun x hx he => hc ?_) rest
  obtain ⟨d, hd, rfl⟩ := List.mem_map.1 hx
  rwa [← hm, ← he, hf]

/-- Counters of the same categories are added one by one. -/
theorem foldl_absorb (hf : ∀ c, (f c).category = c) (hg : ∀ c, (g c).category = c) (hcs : cs.Nodup)
    (rest : List CategoryMetrics) :
    (cs.map g).foldl (fun ms m => m.absorb ms) (cs.map f ++ rest) = (cs.map fun c => (f c).add (g c)) ++ rest := by
  induction cs using List.reverseRecOn generalizing rest with
  | nil => rfl
  | append_singleton cs c ih =>
    obtain ⟨hcs, -, hc⟩ := List.nodup_append'.1 hcs
    have hc : c ∉ cs := fun hmem => hc hmem (List.mem_singleton_self c)
    rw [List.map_append, List.map_append, List.foldl_append, List.append_assoc, ih hcs, List.map_singleton,
      List.map_singleton, List.foldl_cons, List.foldl_nil,
      absorb_map_append (f := fun c => (f c).add (g c)) hf hc (hg c), List.singleton_append, absorb,
      if_pos ((hf c).trans (hg c).symm), List.map_append, List.append_assoc, List.map_singleton, List.singleton_append]

/-- Where nothing is listed yet, counters are listed as they come. -/
theorem foldl_absorb_nil (hf : ∀ c, (f c).category = c) (hcs : cs.Nodup) :
    (cs.map f).foldl (fun ms m => m.absorb ms) [] = cs.map f := by
  induction cs using List.reverseRecOn with
  | nil => rfl
  | append_singleton cs c ih =>
    obtain ⟨hcs, -, hc⟩ := List.nodup_append'.1 hcs
    have hc : c ∉ cs := fun hmem => hc hmem (List.mem_singleton_self c)
    have hlast : (f c).absorb (cs.map f) = cs.map f ++ [f c] := by
      have h := absorb_map_append hf hc (hf c) []
      rwa [List.append_nil] at h
    rw [List.map_append, List.foldl_append, ih hcs, List.map_singleton, List.foldl_cons, List.foldl_nil, hlast]

end CategoryMetrics

namespace RunMetrics

/-- The counters of the members of a set, in order of priority. -/
def listed (cs : CategorySet) (f : Category → CategoryMetrics) : List CategoryMetrics := cs.toList.map f

variable {cs : CategorySet} {f g : Category → CategoryMetrics} {m m' : RunMetrics}

/-- Counters that are listed by priority are left in that order. -/
theorem mergeSort_listed (hf : ∀ c, (f c).category = c) :
    ((listed cs f).mergeSort fun x y => x.category.rank ≤ y.category.rank) = listed cs f := by
  refine List.mergeSort_of_pairwise (List.pairwise_map.2 ?_)
  simpa only [hf, decide_eq_true_eq] using cs.pairwise_toList

/-- Counters that list the same categories are added one by one. -/
theorem categories_merge (hf : ∀ c, (f c).category = c) (hg : ∀ c, (g c).category = c)
    (hm : m.categories = listed cs f) (hm' : m'.categories = listed cs g) :
    (m.merge m').categories = listed cs fun c => (f c).add (g c) := by
  have hadded : (listed cs g).foldl (fun ms m => m.absorb ms) (listed cs f) = listed cs fun c => (f c).add (g c) := by
    have h := CategoryMetrics.foldl_absorb hf hg cs.nodup_toList []
    rwa [List.append_nil, List.append_nil] at h
  unfold merge
  rw [hm, hm', hadded]
  exact mergeSort_listed hf

theorem empty_merge (hf : ∀ c, (f c).category = c) (hm : m.categories = listed cs f) : merge {} m = m := by
  have hcategories : (merge {} m).categories = m.categories := by
    have hlisted : (listed cs f).foldl (fun ms m => m.absorb ms) [] = listed cs f :=
      CategoryMetrics.foldl_absorb_nil hf cs.nodup_toList
    unfold merge
    rw [hm, hlisted]
    exact mergeSort_listed hf
  rcases m with ⟨n, categories, k⟩
  simp only [merge, Nat.zero_add, RunMetrics.mk.injEq, true_and, and_true]
  exact hcategories

theorem emitted_eq_sum (m : RunMetrics) : m.emitted = (m.categories.map (·.emitted)).sum := by
  unfold emitted
  rw [List.sum_eq_foldl, List.foldl_map]

theorem emitted_merge (hf : ∀ c, (f c).category = c) (hg : ∀ c, (g c).category = c)
    (hm : m.categories = listed cs f) (hm' : m'.categories = listed cs g) :
    (m.merge m').emitted = m.emitted + m'.emitted := by
  simp only [emitted_eq_sum, categories_merge hf hg hm hm', hm, hm', listed, List.map_map]
  exact List.sum_map_add

end RunMetrics

/-! ## Documents -/

namespace Extraction

theorem length_extractSentence_le (rules : RuleSet) (s : Sentence) (options : Options) :
    (extractSentence rules s options).length ≤ (findings rules s options).length := by
  rw [extractSentence_eq]
  split
  · exact length_dropSubsumed_le _
  · exact (List.mergeSort_perm _ _).length_eq.le

end Extraction

namespace Tagger

open Extraction

variable (t : Tagger)

/-- The counters of sentences, from the outcomes of all of them at once. -/
def tally (ss : List Sentence) : RunMetrics where
  sentences := ss.length
  categories := RunMetrics.listed t.options.categories fun c => countOutcomes c (ss.flatMap (results t.rules c))
  subsumed := (ss.map fun s => (findings t.rules s t.options).length - (t.tagSentence s).length).sum

theorem metrics_run (s : Sentence) : (run t.rules s t.options).2 = t.tally [s] := by
  simp only [run, tally, RunMetrics.listed, results, findings, tagSentence, extractSentence, List.map_map,
    List.flatMap_map, List.flatMap_singleton, List.map_singleton, List.sum_singleton, List.length_singleton]
  rfl

/-- Merging the counters of two parts of a document counts the whole. -/
theorem merge_tally (ss ss' : List Sentence) : (t.tally ss).merge (t.tally ss') = t.tally (ss ++ ss') := by
  have hcategories : ((t.tally ss).merge (t.tally ss')).categories = (t.tally (ss ++ ss')).categories := by
    rw [RunMetrics.categories_merge (fun _ => rfl) (fun _ => rfl) rfl rfl]
    simp only [tally, List.flatMap_append, countOutcomes_append]
  simp only [RunMetrics.merge, tally, RunMetrics.mk.injEq, List.length_append, List.map_append, List.sum_append,
    true_and, and_true]
  exact hcategories

theorem foldl_merge_tally (done ss : List Sentence) :
    (ss.map fun s => t.tally [s]).foldl RunMetrics.merge (t.tally done) = t.tally (done ++ ss) := by
  induction ss generalizing done with
  | nil => rw [List.append_nil]; rfl
  | cons s ss ih =>
    rw [List.map_cons, List.foldl_cons, merge_tally, ih, List.append_assoc, List.singleton_append]

/-- The counters of a document are those of all its sentences together. Without a sentence none is listed. -/
theorem metrics_extractAll (ss : List Sentence) :
    (t.extractAll ss).metrics = if ss = [] then {} else t.tally ss := by
  unfold extractAll
  cases ss with
  | nil => rfl
  | cons s ss =>
    -- counters that list nothing yet take over what the first sentence lists
    have hfirst : RunMetrics.merge {} (t.tally [s]) = t.tally [s] := RunMetrics.empty_merge (fun _ => rfl) rfl
    rw [if_neg (List.cons_ne_nil s ss)]
    simp only [List.map_cons, List.map_map, Function.comp_def, List.foldl_cons, metrics_run, hfirst]
    exact t.foldl_merge_tally [s] ss

theorem emitted_tally (ss : List Sentence) :
    (t.tally ss).emitted = (ss.flatMap fun s => findings t.rules s t.options).length := by
  induction ss with
  | nil => simp [RunMetrics.emitted_eq_sum, tally, RunMetrics.listed, countOutcomes, expressions, Function.comp_def]
  | cons s ss ih =>
    have hone : (t.tally [s]).emitted = (findings t.rules s t.options).length := by
      unfold findings
      rw [RunMetrics.emitted_eq_sum, List.length_flatMap]
      simp only [tally, RunMetrics.listed, List.flatMap_singleton, List.map_map]
      rfl
    rw [← List.singleton_append, ← merge_tally, RunMetrics.emitted_merge (fun _ => rfl) (fun _ => rfl) rfl rfl, ih,
      hone, List.flatMap_append, List.length_append, List.flatMap_singleton]

theorem length_tagDocument (ss : List Sentence) (context : DocumentContext) :
    (t.tagDocument ss context).expressions.length = (ss.map fun s => (t.tagSentence s).length).sum := by
  have hspans := congrArg List.length (t.map_span_tagDocument ss context)
  rw [List.length_map, List.length_map, expressions_extractAll, byStart, (List.mergeSort_perm _ _).length_eq,
    List.length_flatMap] at hspans
  exact hspans

end Tagger

/-- What the counters of a category add up to over sentences. -/
structure CategoryMetrics.Balanced (m : CategoryMetrics) (rules : RuleSet) (ss : List Sentence) : Prop where
  considered : m.rulesConsidered = ss.length * rules.count m.category
  fastRejected : m.fastRejected ≤ m.rulesConsidered
  tried : m.candidates = (ss.flatMap (Extraction.tried rules m.category)).length
  candidates : m.candidates = m.rejectedOffset + m.rejectedBoundary + m.rejectedPos + m.emitted

namespace Extraction

theorem length_results (rules : RuleSet) (c : Category) (ss : List Sentence) :
    (ss.flatMap (results rules c)).length = ss.length * rules.count c := by
  induction ss with
  | nil => simp
  | cons s ss ih =>
    rw [List.flatMap_cons, List.length_append, ih, results, List.length_map, List.length_cons, Nat.succ_mul,
      Nat.add_comm, RuleSet.count]

theorem length_outcomes_flatMap (rules : RuleSet) (c : Category) (ss : List Sentence) :
    ((ss.flatMap (results rules c)).filterMap id).flatten.length = (ss.flatMap (tried rules c)).length := by
  induction ss with
  | nil => rfl
  | cons s ss ih =>
    rw [List.flatMap_cons, List.filterMap_append, List.flatten_append, List.length_append, ih, length_flatten_results,
      List.flatMap_cons, List.length_append]

theorem balanced_countOutcomes (rules : RuleSet) (c : Category) (ss : List Sentence) :
    (countOutcomes c (ss.flatMap (results rules c))).Balanced rules ss where
  considered := length_results rules c ss
  fastRejected := List.countP_le_length
  tried := length_outcomes_flatMap rules c ss
  candidates := length_outcomes _

end Extraction

/-- What the counters of a tagged document add up to. -/
structure TagResult.Accounts (r : TagResult) (t : Tagger) (ss : List Sentence) : Prop where
  sentences : r.metrics.sentences = ss.length
  listed : ss ≠ [] → r.metrics.categories.map (·.category) = Category.all.filter t.options.categories.has
  balanced : ∀ m ∈ r.metrics.categories, m.Balanced t.rules ss
  emitted : r.metrics.emitted = r.expressions.length + r.metrics.subsumed
  kept : t.options.dropSubsumed = false → r.metrics.subsumed = 0

namespace Tagger

open Extraction

variable (t : Tagger)

/-- Every expression that was found is returned or covered by another one. -/
theorem emitted_eq (ss : List Sentence) (context : DocumentContext) :
    (t.tally ss).emitted = (t.tagDocument ss context).expressions.length + (t.tally ss).subsumed := by
  rw [emitted_tally, length_tagDocument, tally, List.length_flatMap, ← List.sum_map_add]
  refine congrArg List.sum (List.map_congr_left fun s _ => ?_)
  exact (Nat.add_sub_cancel' (length_extractSentence_le t.rules s t.options)).symm

theorem subsumed_eq_zero (h : t.options.dropSubsumed = false) (ss : List Sentence) : (t.tally ss).subsumed = 0 := by
  refine List.sum_eq_zero fun n hn => ?_
  obtain ⟨s, -, rfl⟩ := List.mem_map.1 hn
  rw [tagSentence, extractSentence_eq, h, if_neg Bool.false_ne_true, byStart, (List.mergeSort_perm _ _).length_eq,
    Nat.sub_self]

/-- The counters of a document account for every rule tried, every match and every expression. -/
theorem tagDocument_accounts (ss : List Sentence) (context : DocumentContext) :
    (t.tagDocument ss context).Accounts t ss := by
  by_cases hss : ss = []
  · -- no run, so no category is listed
    subst hss
    have hmetrics : (t.tagDocument [] context).metrics = {} := by rw [metrics_tagDocument, metrics_extractAll, if_pos rfl]
    have hlength := t.length_tagDocument [] context
    constructor <;> simp_all [RunMetrics.emitted_eq_sum]
  · have hmetrics : (t.tagDocument ss context).metrics = t.tally ss := by
      rw [metrics_tagDocument, metrics_extractAll, if_neg hss]
    constructor
    · rw [hmetrics]
      rfl
    · intro _
      rw [hmetrics, tally, RunMetrics.listed, List.map_map]
      exact List.map_id _
    · intro m hm
      rw [hmetrics] at hm
      obtain ⟨c, -, rfl⟩ := List.mem_map.1 hm
      exact balanced_countOutcomes t.rules c ss
    · rw [hmetrics]
      exact t.emitted_eq ss context
    · intro h
      rw [hmetrics]
      exact t.subsumed_eq_zero h ss

end Tagger

end TemporalTagger
