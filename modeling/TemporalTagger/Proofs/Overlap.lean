/-
Which expressions overlap filtering keeps. Of the candidates in the order in which they claim text, one running maximum
tells whether an end was reached before; that is the same as to compare each candidate with all before it, because
whatever covers a dropped candidate is itself covered by something kept. Main fact: `dropSubsumed_filtered`.
-/
import TemporalTagger.Proofs.Extraction
import TemporalTagger.Proofs.Sorting

namespace TemporalTagger

/-- Whether a span lies inside another one. -/
def Span.isWithin (a b : Span) : Bool := b.start ≤ a.start && a.stop ≤ b.stop

theorem Span.isWithin_iff {a b : Span} : a.isWithin b = true ↔ b.start ≤ a.start ∧ a.stop ≤ b.stop := by
  simp [isWithin]

namespace Extraction

/-! ## One pass

The pass over expressions in order of claims, and what it keeps of them. -/

/-- What is kept of expressions that stand in order of claims. -/
def keepInOrder : List TimeExpression → List TimeExpression
  | [] => []
  | e :: rest => e :: keepWidest e.span.stop rest

theorem dropSubsumed_eq_keepInOrder (found : List TimeExpression) :
    dropSubsumed found = keepInOrder (found.mergeSort claimsBefore) := by
  unfold dropSubsumed
  cases found.mergeSort claimsBefore <;> rfl

section Pass

variable {β : Type} {expression : β → TimeExpression} {before : β → β → Bool} {x z : β} {xs : List β}

/-- Whether an element ends after all elements of a list that come before it. -/
def reachesBeyond (expression : β → TimeExpression) (before : β → β → Bool) (xs : List β) (x : β) : Bool :=
  xs.all fun y => !(before y x && (expression x).span.stop ≤ (expression y).span.stop)

theorem reachesBeyond_cons (hx : before x z = true) : reachesBeyond expression before (x :: xs) z =
    (decide ((expression x).span.stop < (expression z).span.stop) && reachesBeyond expression before xs z) := by
  rw [reachesBeyond, List.all_cons, hx, Bool.true_and, ← decide_not, reachesBeyond]
  simp only [not_le]

/-- Nothing comes before the first element. -/
theorem reachesBeyond_head (hasymm : ∀ x y, before x y = true → before y x = false)
    (hx : ∀ y ∈ xs, before x y = true) : reachesBeyond expression before (x :: xs) x = true := by
  have hself : before x x = false := by
    cases hxx : before x x with
    | false => rfl
    | true => rw [← hxx]; exact hasymm x x hxx
  rw [reachesBeyond, List.all_eq_true]
  refine List.forall_mem_cons.2 ⟨by rw [hself]; rfl, fun y hy => ?_⟩
  rw [hasymm x y (hx y hy)]
  rfl

/-- The pass keeps what ends after `widest` and after all that comes before it. -/
theorem keepWidest_map (hasymm : ∀ x y, before x y = true → before y x = false) : ∀ (widest : Nat) {xs : List β},
    xs.Pairwise (fun x y => before x y = true) →
    keepWidest widest (xs.map expression) = (xs.filter fun x =>
      widest < (expression x).span.stop && reachesBeyond expression before xs x).map expression
  | _, [], _ => rfl
  | widest, x :: xs, h => by
    obtain ⟨hx, hxs⟩ := List.pairwise_cons.1 h
    rw [List.map_cons, keepWidest, List.filter_cons, reachesBeyond_head hasymm hx, Bool.and_true]
    split
    next hle =>
      -- dropped, and whatever ends after `widest` ends after it
      rw [keepWidest_map hasymm widest hxs, if_neg (by simpa using hle)]
      congr 1
      refine List.filter_congr fun z hz => ?_
      rw [reachesBeyond_cons (hx z hz), Bool.eq_iff_iff]
      simp only [Bool.and_eq_true, decide_eq_true_eq]
      exact ⟨fun h => ⟨h.1, by omega, h.2⟩, fun h => ⟨h.1, h.2.2⟩⟩
    next hlt =>
      -- kept, and from here on its end is the one to pass
      rw [keepWidest_map hasymm _ hxs, if_pos (by simpa using hlt), List.map_cons]
      congr 2
      refine List.filter_congr fun z hz => ?_
      rw [reachesBeyond_cons (hx z hz), Bool.eq_iff_iff]
      simp only [Bool.and_eq_true, decide_eq_true_eq]
      exact ⟨fun h => ⟨by omega, h⟩, fun h => h.2⟩

/-- What is kept of elements in order ends after all that comes before it. -/
theorem keepInOrder_map (hasymm : ∀ x y, before x y = true → before y x = false) {xs : List β}
    (h : xs.Pairwise fun x y => before x y = true) :
    keepInOrder (xs.map expression) = (xs.filter (reachesBeyond expression before xs)).map expression := by
  cases xs with
  | nil => rfl
  | cons x xs =>
    obtain ⟨hx, hxs⟩ := List.pairwise_cons.1 h
    rw [List.map_cons, keepInOrder, keepWidest_map hasymm _ hxs, List.filter_cons_of_pos (reachesBeyond_head hasymm hx),
      List.map_cons]
    congr 2
    exact List.filter_congr fun z hz => (reachesBeyond_cons (hx z hz)).symm

end Pass

/-- What the pass drops ends no later than `widest` or lies inside something that it keeps. -/
theorem exists_of_mem_keepWidest : ∀ (widest : Nat) {es : List TimeExpression},
    es.Pairwise (fun a b => a.span.start ≤ b.span.start) → ∀ e ∈ es, e.span.stop ≤ widest ∨
      ∃ k ∈ keepWidest widest es, e.span.isWithin k.span = true
  | widest, x :: es, h, e, he => by
    obtain ⟨hx, hes⟩ := List.pairwise_cons.1 h
    rw [keepWidest]
    split
    next hle =>
      rcases List.mem_cons.1 he with rfl | he
      · exact .inl hle
      · exact exists_of_mem_keepWidest widest hes e he
    next =>
      have hwithin : e.span.start ≥ x.span.start := by
        rcases List.mem_cons.1 he with rfl | he
        · exact le_rfl
        · exact hx e he
      by_cases hstop : e.span.stop ≤ x.span.stop
      · exact .inr ⟨x, List.mem_cons_self, Span.isWithin_iff.2 ⟨hwithin, hstop⟩⟩
      · rcases List.mem_cons.1 he with rfl | he
        · exact absurd le_rfl hstop
        · obtain hle | ⟨k, hk, hin⟩ := exists_of_mem_keepWidest x.span.stop hes e he
          · exact absurd hle hstop
          · exact .inr ⟨k, List.mem_cons_of_mem _ hk, hin⟩

theorem exists_of_mem_keepInOrder {es : List TimeExpression} (h : es.Pairwise fun a b => a.span.start ≤ b.span.start) :
    ∀ e ∈ es, ∃ k ∈ keepInOrder es, e.span.isWithin k.span = true := by
  intro e he
  cases es with
  | nil => cases he
  | cons x es =>
    obtain ⟨hx, hes⟩ := List.pairwise_cons.1 h
    rw [keepInOrder]
    rcases List.mem_cons.1 he with rfl | he
    · exact ⟨e, List.mem_cons_self, Span.isWithin_iff.2 ⟨le_rfl, le_rfl⟩⟩
    · obtain hle | ⟨k, hk, hin⟩ := exists_of_mem_keepWidest x.span.stop hes e he
      · exact ⟨x, List.mem_cons_self, Span.isWithin_iff.2 ⟨hx e he, hle⟩⟩
      · exact ⟨k, List.mem_cons_of_mem _ hk, hin⟩

/-! ## Candidates -/

/-- An expression that was found, with the place of its rule in the order of application. -/
structure Candidate where
  expression : TimeExpression
  order : Nat

namespace Candidate

def span (c : Candidate) : Span := c.expression.span

/-- What candidates are sorted by. -/
def key (c : Candidate) : Span × Category × Nat := (c.span, c.expression.category, c.order)

/-- The order in which candidates claim text: by start, the longer one first, then by category and by rule. -/
def claimsBefore (a b : Candidate) : Bool :=
  a.span.start < b.span.start || (a.span.start == b.span.start &&
    (b.span.stop < a.span.stop || (a.span.stop == b.span.stop &&
      (a.expression.category.rank < b.expression.category.rank ||
        (a.expression.category.rank == b.expression.category.rank && a.order ≤ b.order)))))

/-- Drops candidates that lie inside one that comes before them in order of claims. -/
def dropSubsumed (cs : List Candidate) : List TimeExpression :=
  keepInOrder ((cs.mergeSort claimsBefore).map (·.expression))

/-- Whether a candidate, at its place in a list, comes before another one in order of claims. Candidates of one key
come in the order of the list. -/
def comesBefore (x y : Candidate × Nat) : Bool := x.1.claimsBefore y.1 && (!y.1.claimsBefore x.1 || x.2 < y.2)

/-- Whether a candidate at its place in a list lies inside none that comes before it. -/
def standsOut (cs : List Candidate) (x : Candidate × Nat) : Bool :=
  cs.zipIdx.all fun y => !(comesBefore y x && x.1.span.isWithin y.1.span)

/-- The candidates that lie inside none that comes before them, in order of claims. -/
def kept (cs : List Candidate) : List Candidate :=
  ((cs.zipIdx.filter (standsOut cs)).map Prod.fst).mergeSort claimsBefore

/-! ## The order of claims -/

variable {a b c : Candidate} {x y : Candidate × Nat} {cs : List Candidate}

theorem claimsBefore_iff : a.claimsBefore b = true ↔ a.span.start < b.span.start ∨ a.span.start = b.span.start ∧
    (b.span.stop < a.span.stop ∨ a.span.stop = b.span.stop ∧
      (a.expression.category.rank < b.expression.category.rank ∨
        a.expression.category.rank = b.expression.category.rank ∧ a.order ≤ b.order)) := by
  simp [claimsBefore]

theorem claimsBefore_trans (a b c : Candidate) (hab : a.claimsBefore b = true) (hbc : b.claimsBefore c = true) :
    a.claimsBefore c = true := by
  rw [claimsBefore_iff] at *
  omega

theorem claimsBefore_total (a b : Candidate) : (a.claimsBefore b || b.claimsBefore a) = true := by
  rw [Bool.or_eq_true, claimsBefore_iff, claimsBefore_iff]
  omega

theorem key_eq_of_claimsBefore (a b : Candidate) (hab : a.claimsBefore b = true) (hba : b.claimsBefore a = true) :
    a.key = b.key := by
  rw [claimsBefore_iff] at hab hba
  have hspan : a.span = b.span := by
    rcases ha : a.span with ⟨_, _⟩
    rcases hb : b.span with ⟨_, _⟩
    simp only [ha, hb, Span.mk.injEq] at *
    omega
  have hcategory : a.expression.category = b.expression.category := Category.rank_inj.1 (by omega)
  have horder : a.order = b.order := by omega
  rw [key, key, hspan, hcategory, horder]

theorem claimsBefore_of_key_eq (h : a.key = b.key) : a.claimsBefore b = true := by
  simp only [key, Prod.mk.injEq] at h
  rw [claimsBefore_iff, h.1, h.2.1, h.2.2]
  omega

theorem start_le_of_claimsBefore (h : a.claimsBefore b = true) : a.span.start ≤ b.span.start := by
  rw [claimsBefore_iff] at h
  omega

theorem comesBefore_asymm (x y : Candidate × Nat) (h : comesBefore x y = true) : comesBefore y x = false := by
  simp only [comesBefore, Bool.and_eq_true, Bool.or_eq_true, Bool.not_eq_true', decide_eq_true_eq,
    Bool.and_eq_false_iff, Bool.or_eq_false_iff, Bool.not_eq_false', decide_eq_false_iff_not] at *
  obtain ⟨hxy, hyx | hlt⟩ := h
  · exact .inl hyx
  · exact .inr ⟨hxy, by omega⟩

/-! ## Candidates at their places -/

/-- The candidates of a list at their places, in order of claims. -/
def placed (cs : List Candidate) : List (Candidate × Nat) := cs.zipIdx.mergeSort fun x y => x.1.claimsBefore y.1

theorem map_placed (cs : List Candidate) : (placed cs).map Prod.fst = cs.mergeSort claimsBefore := by
  rw [placed, List.map_mergeSort (s := claimsBefore) fun _ _ _ _ => rfl, List.zipIdx_map_fst]

theorem pairwise_comesBefore (cs : List Candidate) : (placed cs).Pairwise fun x y => comesBefore x y = true := by
  have htrans := fun x y z : Candidate × Nat => claimsBefore_trans x.1 y.1 z.1
  have htotal := fun x y : Candidate × Nat => claimsBefore_total x.1 y.1
  refine (Sorting.pairwise_mergeSort_of_pairwise htrans htotal (Sorting.pairwise_zipIdx cs)).imp ?_
  rintro x y ⟨hle, htie⟩
  rw [comesBefore, hle, Bool.true_and]
  by_cases h : y.1.claimsBefore x.1 = true
  · simp [htie h]
  · simp [h]

theorem kept_eq (cs : List Candidate) : kept cs = ((placed cs).filter (standsOut cs)).map Prod.fst := by
  rw [placed, Sorting.filter_mergeSort (fun x y z => claimsBefore_trans x.1 y.1 z.1)
    (fun x y => claimsBefore_total x.1 y.1), List.map_mergeSort (s := claimsBefore) fun _ _ _ _ => rfl, kept]

theorem standsOut_iff : standsOut cs x = true ↔
    ∀ y ∈ cs.zipIdx, comesBefore y x = true → x.1.span.isWithin y.1.span = false := by
  simp only [standsOut, List.all_eq_true, Bool.not_eq_true', Bool.and_eq_false_imp]

theorem mem_placed : x ∈ placed cs ↔ x ∈ cs.zipIdx := (List.mergeSort_perm cs.zipIdx _).mem_iff

/-- To stand out is to end after all that comes before, which starts no later. -/
theorem reachesBeyond_placed (cs : List Candidate) :
    reachesBeyond (fun x : Candidate × Nat => x.1.expression) comesBefore (placed cs) = standsOut cs := by
  funext x
  rw [reachesBeyond, standsOut, Bool.eq_iff_iff, List.all_eq_true, List.all_eq_true]
  refine forall_congr' fun y => ?_
  rw [mem_placed]
  refine imp_congr_right fun _ => ?_
  by_cases h : comesBefore y x = true
  · have hstart := start_le_of_claimsBefore (Bool.and_eq_true_iff.1 h).1
    rw [h, Span.isWithin, decide_eq_true hstart, Bool.true_and, Bool.true_and, Bool.true_and]
    rfl
  · simp [h]

/-- The running maximum keeps what a comparison with all candidates keeps. -/
theorem dropSubsumed_eq_kept (cs : List Candidate) : dropSubsumed cs = (kept cs).map (·.expression) := by
  have hpass : keepInOrder ((placed cs).map fun x => x.1.expression) = _ :=
    keepInOrder_map comesBefore_asymm (pairwise_comesBefore cs)
  rw [reachesBeyond_placed] at hpass
  calc dropSubsumed cs = keepInOrder ((placed cs).map fun x => x.1.expression) := by
        rw [dropSubsumed, ← map_placed, List.map_map]
        rfl
    _ = ((placed cs).filter (standsOut cs)).map fun x => x.1.expression := hpass
    _ = (kept cs).map (·.expression) := by
        rw [kept_eq, List.map_map]
        rfl

/-! ## What is kept -/

/-- Of two candidates that are kept, the later one starts later and ends later. -/
theorem pairwise_kept (cs : List Candidate) : (kept cs).Pairwise fun a b =>
    a.span.start < b.span.start ∧ a.span.stop < b.span.stop := by
  rw [kept_eq, List.pairwise_map]
  refine ((pairwise_comesBefore cs).filter _).imp_of_mem ?_
  intro x y hx hy hxy
  have hwithin := standsOut_iff.1 (List.mem_filter.1 hy).2 x (mem_placed.1 (List.mem_filter.1 hx).1) hxy
  have hclaims := claimsBefore_iff.1 (Bool.and_eq_true_iff.1 hxy).1
  rw [Bool.eq_false_iff, ne_eq, Span.isWithin_iff] at hwithin
  omega

/-- No candidate with the span of one that is kept comes before it. -/
theorem claimsBefore_of_mem_kept (hc : c ∈ kept cs) {d : Candidate} (hd : d ∈ cs) (hspan : d.span = c.span) :
    c.claimsBefore d = true := by
  rw [kept_eq] at hc
  obtain ⟨x, hx, rfl⟩ := List.mem_map.1 hc
  obtain ⟨i, hi⟩ := List.getElem?_of_mem hd
  have hout := standsOut_iff.1 (List.mem_filter.1 hx).2 (d, i) (List.mk_mem_zipIdx_iff_getElem?.2 hi)
  by_contra hnot
  rw [Bool.not_eq_true] at hnot
  have hdx : d.claimsBefore x.1 = true := by simpa [hnot] using claimsBefore_total x.1 d
  have hwithin := hout (by simp [comesBefore, hdx, hnot])
  rw [hspan, Bool.eq_false_iff, ne_eq, Span.isWithin_iff] at hwithin
  exact hwithin ⟨le_rfl, le_rfl⟩

theorem exists_of_mem (hc : c ∈ cs) : ∃ e ∈ dropSubsumed cs, c.span.isWithin e.span = true := by
  have hsorted := List.pairwise_mergeSort claimsBefore_trans claimsBefore_total cs
  have hstarts : ((cs.mergeSort claimsBefore).map (·.expression)).Pairwise fun a b => a.span.start ≤ b.span.start :=
    List.pairwise_map.2 (hsorted.imp start_le_of_claimsBefore)
  exact exists_of_mem_keepInOrder hstarts c.expression
    (List.mem_map_of_mem ((List.mergeSort_perm cs claimsBefore).mem_iff.2 hc))

theorem dropSubsumed_congr {ds : List Candidate}
    (h : ∀ k, ds.filter (fun c => decide (c.key = k)) = cs.filter fun c => decide (c.key = k)) :
    dropSubsumed ds = dropSubsumed cs := by
  rw [dropSubsumed, dropSubsumed,
    Sorting.mergeSort_congr claimsBefore_trans claimsBefore_total key_eq_of_claimsBefore h]

end Candidate

/-! ## Candidates as they are found

Extraction lists what it finds by rule, so the place in its list stands for the place of the rule. -/

theorem claimsBefore_iff {a b : TimeExpression} : claimsBefore a b = true ↔ a.span.start < b.span.start ∨
    a.span.start = b.span.start ∧ (b.span.stop < a.span.stop ∨ a.span.stop = b.span.stop ∧
      a.category.rank ≤ b.category.rank) := by
  simp [claimsBefore]

theorem claimsBefore_trans (a b c : TimeExpression) (hab : claimsBefore a b = true) (hbc : claimsBefore b c = true) :
    claimsBefore a c = true := by
  rw [claimsBefore_iff] at *
  omega

theorem claimsBefore_total (a b : TimeExpression) : (claimsBefore a b || claimsBefore b a) = true := by
  rw [Bool.or_eq_true, claimsBefore_iff, claimsBefore_iff]
  omega

namespace Candidate

/-- Candidates by the places of their rules. -/
def byRule (cs : List Candidate) : List Candidate := cs.mergeSort fun a b => a.order ≤ b.order

theorem mergeSort_byRule (cs : List Candidate) :
    (byRule cs).mergeSort (fun a b => Extraction.claimsBefore a.expression b.expression) =
      cs.mergeSort claimsBefore := by
  have horderTrans : ∀ a b c : Candidate, decide (a.order ≤ b.order) = true → decide (b.order ≤ c.order) = true →
      decide (a.order ≤ c.order) = true := by
    simp only [decide_eq_true_eq]
    omega
  have horderTotal : ∀ a b : Candidate, (decide (a.order ≤ b.order) || decide (b.order ≤ a.order)) = true := by
    simp only [Bool.or_eq_true, decide_eq_true_eq]
    omega
  have htrans := fun a b c : Candidate => Extraction.claimsBefore_trans a.expression b.expression c.expression
  have htotal := fun a b : Candidate => Extraction.claimsBefore_total a.expression b.expression
  have hsorted : (byRule cs).Pairwise fun a b => decide (a.order ≤ b.order) = true :=
    List.pairwise_mergeSort horderTrans horderTotal cs
  refine Sorting.eq_of_filter_key key_eq_of_claimsBefore ?_
    (List.pairwise_mergeSort claimsBefore_trans claimsBefore_total cs) fun k => ?_
  · -- where all else is equal, sorting keeps the order of the rules
    refine (Sorting.pairwise_mergeSort_of_pairwise htrans htotal hsorted).imp ?_
    rintro a b ⟨hab, htie⟩
    rw [Extraction.claimsBefore_iff, decide_eq_true_eq] at htie
    rw [Extraction.claimsBefore_iff] at hab
    rw [claimsBefore_iff]
    simp only [span]
    omega
  · have hkey : ∀ a b : Candidate, a.key = b.key → Extraction.claimsBefore a.expression b.expression = true := by
      intro a b h
      simp only [key, span, Prod.mk.injEq] at h
      rw [Extraction.claimsBefore_iff, h.1, h.2.1]
      omega
    have horder : ∀ a b : Candidate, a.key = b.key → decide (a.order ≤ b.order) = true := by
      intro a b h
      simp only [key, Prod.mk.injEq] at h
      rw [h.2.2]
      exact decide_eq_true le_rfl
    rw [Sorting.filter_key_mergeSort htrans htotal hkey, byRule,
      Sorting.filter_key_mergeSort horderTrans horderTotal horder,
      Sorting.filter_key_mergeSort claimsBefore_trans claimsBefore_total fun _ _ => claimsBefore_of_key_eq]

/-- Numbered candidates are filtered as their expressions are when listed by rule. -/
theorem dropSubsumed_byRule (cs : List Candidate) :
    Extraction.dropSubsumed ((byRule cs).map (·.expression)) = dropSubsumed cs := by
  rw [dropSubsumed_eq_keepInOrder, dropSubsumed, ← mergeSort_byRule,
    List.map_mergeSort (s := Extraction.claimsBefore) fun _ _ _ _ => rfl]

end Candidate

/-- What a rule finds in a sentence. -/
def finds (t : Normalization) (s : Sentence) (r : Rule) : List TimeExpression := expressions ((outcomes? t s r).getD [])

theorem expressions_flatMap {α : Type} (f : α → List Outcome) (l : List α) :
    expressions (l.flatMap f) = l.flatMap fun a => expressions (f a) := List.filterMap_flatMap

theorem findings_eq (rules : RuleSet) (s : Sentence) (options : Options) : findings rules s options =
    options.categories.toList.flatMap fun c => (rules.ofCategory c).flatMap (finds rules.normalization s) := by
  unfold findings
  refine List.flatMap_congr fun c _ => ?_
  rw [flatten_filterMap_map, expressions_flatMap]
  rfl

/-- The candidates of a sentence: what the rules of the wanted categories find, each with the place of its rule among
these rules. -/
def candidates (rules : RuleSet) (s : Sentence) (options : Options) : List Candidate :=
  (options.categories.toList.flatMap rules.ofCategory).zipIdx.flatMap fun (r, place) =>
    (finds rules.normalization s r).map fun e => ⟨e, place⟩

theorem map_candidates (rules : RuleSet) (s : Sentence) (options : Options) :
    (candidates rules s options).map (·.expression) = findings rules s options := by
  have hplaces : ∀ rs : List Rule, (rs.zipIdx.flatMap fun (r, _) => finds rules.normalization s r) =
      rs.flatMap (finds rules.normalization s) := by
    intro rs
    rw [← List.flatMap_map (f := Prod.fst), List.zipIdx_map_fst]
  rw [findings_eq, ← List.flatMap_assoc, ← hplaces, candidates, List.map_flatMap]
  simp only [List.map_map, Function.comp_def, List.map_id']

theorem pairwise_candidates (rules : RuleSet) (s : Sentence) (options : Options) :
    (candidates rules s options).Pairwise fun a b => decide (a.order ≤ b.order) = true := by
  refine List.pairwise_flatMap.2 ⟨fun x _ => ?_, ?_⟩
  · exact List.pairwise_map.2 (List.pairwise_of_forall fun _ _ => decide_eq_true le_rfl)
  · refine (Sorting.pairwise_zipIdx _).imp ?_
    intro x y hxy a ha b hb
    obtain ⟨e, -, rfl⟩ := List.mem_map.1 ha
    obtain ⟨e', -, rfl⟩ := List.mem_map.1 hb
    exact decide_eq_true hxy.le

/-- Filtering what is found in a sentence is filtering its candidates. -/
theorem extractSentence_eq_dropSubsumed (rules : RuleSet) (s : Sentence) (options : Options) :
    extractSentence rules s { options with dropSubsumed := true } =
      Candidate.dropSubsumed (candidates rules s options) := by
  rw [extractSentence_eq, if_pos rfl, ← Candidate.dropSubsumed_byRule, Candidate.byRule,
    List.mergeSort_of_pairwise (pairwise_candidates rules s options), map_candidates]
  rfl

/-! ## The filter and its plain definition -/

/-- What the filter makes of candidates: it keeps those that lie inside none before them. -/
structure Candidate.Filtered (cs : List Candidate) (es : List TimeExpression) : Prop where
  kept : es = (kept cs).map (·.expression)
  increasing : es.Pairwise fun a b => a.span.start < b.span.start ∧ a.span.stop < b.span.stop
  apart : ∀ a ∈ es, ∀ b ∈ es, a.span.isWithin b.span = true → a = b
  covered : ∀ c ∈ cs, ∃ e ∈ es, c.span.isWithin e.span = true
  ranked : ∀ c ∈ Candidate.kept cs, ∀ d ∈ cs, d.span = c.span → c.claimsBefore d = true

/-- One pass with a running maximum keeps exactly the candidates that lie inside none that comes before them by start,
length, category and rule. So starts and ends increase, nothing that is kept lies inside another, everything lies inside
something that is kept, and of the candidates of one span the first is kept or none. The order in which candidates of
different keys were found does not matter; those of a sentence are found by rule. -/
theorem dropSubsumed_filtered (cs : List Candidate) :
    Candidate.Filtered cs (Candidate.dropSubsumed cs) ∧
      (∀ ds : List Candidate, (∀ k, ds.filter (fun c => decide (c.key = k)) = cs.filter fun c => decide (c.key = k)) →
        Candidate.dropSubsumed ds = Candidate.dropSubsumed cs) ∧
      dropSubsumed ((Candidate.byRule cs).map (·.expression)) = Candidate.dropSubsumed cs ∧
      ∀ rules s options, extractSentence rules s { options with dropSubsumed := true } =
        Candidate.dropSubsumed (candidates rules s options) := by
  have hkept := Candidate.dropSubsumed_eq_kept cs
  have hincreasing : (Candidate.dropSubsumed cs).Pairwise fun a b =>
      a.span.start < b.span.start ∧ a.span.stop < b.span.stop := by
    rw [hkept]
    exact List.pairwise_map.2 (Candidate.pairwise_kept cs)
  refine ⟨⟨hkept, hincreasing, ?_, fun c => Candidate.exists_of_mem,
      fun c hc d => Candidate.claimsBefore_of_mem_kept hc⟩,
    fun ds => Candidate.dropSubsumed_congr, Candidate.dropSubsumed_byRule cs, extractSentence_eq_dropSubsumed⟩
  intro a ha b hb hwithin
  rw [Span.isWithin_iff] at hwithin
  by_contra hne
  have hdiffer : (Candidate.dropSubsumed cs).Pairwise fun a b =>
      (a.span.start < b.span.start ∧ a.span.stop < b.span.stop) ∨
        b.span.start < a.span.start ∧ b.span.stop < a.span.stop := hincreasing.imp .inl
  have : Std.Symm fun a b : TimeExpression => (a.span.start < b.span.start ∧ a.span.stop < b.span.stop) ∨
      b.span.start < a.span.start ∧ b.span.stop < a.span.stop := ⟨fun _ _ => Or.symm⟩
  have := hdiffer.forall ha hb hne
  omega

end Extraction

end TemporalTagger
