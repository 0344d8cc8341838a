/-
Stable sorting. To sort a list is to insert its elements one after another, the last one first, each
before those that it may stand before; so what is known of insertion is known of sorting. Main fact:
`mergeSort_eq_insertionSort`.
-/
import TemporalTagger.Extraction
import Mathlib.Data.List.Sort

namespace TemporalTagger.Sorting

variable {α : Type} {le : α → α → Bool}

/-- An element goes where a sorted list is split into what it may not stand before and what it may. -/
theorem orderedInsert_of_split {a : α} : ∀ {l₁ l₂ : List α}, (∀ b ∈ l₁, le a b = false) →
    (∀ b ∈ l₂, le a b = true) → (l₁ ++ l₂).orderedInsert (fun a b => le a b = true) a = l₁ ++ a :: l₂
  | [], [], _, _ => rfl
  | [], b :: l₂, _, h₂ => by
    rw [List.nil_append, List.orderedInsert, if_pos (h₂ b List.mem_cons_self), List.nil_append]
  | b :: l₁, l₂, h₁, h₂ => by
    obtain ⟨hb, h₁⟩ := List.forall_mem_cons.1 h₁
    rw [List.cons_append, List.orderedInsert, if_neg (by simp [hb]), orderedInsert_of_split h₁ h₂, List.cons_append]

/-- Sorting keeps elements of the same rank in their order, as insertion does. -/
theorem mergeSort_eq_insertionSort (htrans : ∀ a b c, le a b = true → le b c = true → le a c = true)
    (htotal : ∀ a b, (le a b || le b a) = true) :
    ∀ l : List α, l.mergeSort le = l.insertionSort fun a b => le a b = true
  | [] => List.mergeSort_nil
  | a :: l => by
    obtain ⟨l₁, l₂, hcons, hsplit, hbefore⟩ := List.mergeSort_cons htrans htotal a l
    have hsorted := List.pairwise_mergeSort htrans htotal (a :: l)
    rw [hcons] at hsorted
    have hafter := (List.pairwise_cons.1 (List.pairwise_append.1 hsorted).2.1).1
    rw [hcons, List.insertionSort_cons, ← mergeSort_eq_insertionSort htrans htotal l, hsplit,
      orderedInsert_of_split (fun b hb => by simpa using hbefore b hb) hafter]

theorem orderedInsert_append {r : α → α → Prop} [DecidableRel r] {a : α} {l₂ : List α} (h : ∀ b ∈ l₂, r a b) :
    ∀ l₁ : List α, (l₁ ++ l₂).orderedInsert r a = l₁.orderedInsert r a ++ l₂
  | [] => by
    cases l₂ with
    | nil => rfl
    | cons b l₂ => simp only [List.nil_append, List.orderedInsert, h b List.mem_cons_self, if_true, List.cons_append]
  | b :: l₁ => by
    rw [List.cons_append, List.orderedInsert, List.orderedInsert, orderedInsert_append h l₁]
    split <;> rfl

/-- Where all elements of one part may stand before those of the other, the parts are sorted apart. -/
theorem insertionSort_append {r : α → α → Prop} [DecidableRel r] {l₂ : List α} : ∀ {l₁ : List α},
    (∀ a ∈ l₁, ∀ b ∈ l₂, r a b) → (l₁ ++ l₂).insertionSort r = l₁.insertionSort r ++ l₂.insertionSort r
  | [], _ => rfl
  | a :: l₁, h => by
    obtain ⟨ha, h⟩ := List.forall_mem_cons.1 h
    rw [List.cons_append, List.insertionSort_cons, List.insertionSort_cons, insertionSort_append h,
      orderedInsert_append fun b hb => ha b ((List.perm_insertionSort r l₂).mem_iff.1 hb)]

/-! ## Elements of different rank

Two elements have the same rank if each may stand before the other. -/

section Rank

variable {r : α → α → Prop} [DecidableRel r]

theorem orderedInsert_comm_of_before (htrans : ∀ a b c, r a b → r b c → r a c) {a b : α} (hab : r a b)
    (hba : ¬ r b a) (l : List α) :
    (l.orderedInsert r b).orderedInsert r a = (l.orderedInsert r a).orderedInsert r b := by
  induction l with
  | nil => simp [List.orderedInsert, hab, hba]
  | cons c l ih =>
    by_cases hbc : r b c
    · have hac : r a c := htrans a b c hab hbc
      simp [List.orderedInsert, hbc, hac, hab, hba]
    · by_cases hac : r a c
      · simp [List.orderedInsert, hbc, hac, hba]
      · simp [List.orderedInsert, hbc, hac, ih]

/-- It does not matter which of two elements of different rank is inserted first. -/
theorem orderedInsert_comm (htrans : ∀ a b c, r a b → r b c → r a c) (htotal : ∀ a b, r a b ∨ r b a) {a b : α}
    (h : ¬ (r a b ∧ r b a)) (l : List α) :
    (l.orderedInsert r b).orderedInsert r a = (l.orderedInsert r a).orderedInsert r b := by
  rcases htotal a b with hab | hba
  · exact orderedInsert_comm_of_before htrans hab (fun hba => h ⟨hab, hba⟩) l
  · exact (orderedInsert_comm_of_before htrans hba (fun hab => h ⟨hab, hba⟩) l).symm

theorem insertionSort_append_eq_foldr (l₁ l₂ : List α) :
    (l₁ ++ l₂).insertionSort r = l₁.foldr (List.orderedInsert r) (l₂.insertionSort r) := by
  induction l₁ with
  | nil => rfl
  | cons a l₁ ih => rw [List.cons_append, List.insertionSort_cons, ih, List.foldr_cons]

theorem orderedInsert_foldr (htrans : ∀ a b c, r a b → r b c → r a c) (htotal : ∀ a b, r a b ∨ r b a) {a : α}
    {l₁ : List α} (h : ∀ b ∈ l₁, ¬ (r a b ∧ r b a)) (l : List α) :
    (l₁.foldr (List.orderedInsert r) l).orderedInsert r a = l₁.foldr (List.orderedInsert r) (l.orderedInsert r a) := by
  induction l₁ with
  | nil => rfl
  | cons b l₁ ih =>
    obtain ⟨hb, h⟩ := List.forall_mem_cons.1 h
    rw [List.foldr_cons, List.foldr_cons, orderedInsert_comm htrans htotal hb, ih h]

theorem foldr_orderedInsert_comm (htrans : ∀ a b c, r a b → r b c → r a c) (htotal : ∀ a b, r a b ∨ r b a)
    {l₁ l₂ : List α} (h : ∀ a ∈ l₁, ∀ b ∈ l₂, ¬ (r a b ∧ r b a)) (l : List α) :
    l₁.foldr (List.orderedInsert r) (l₂.foldr (List.orderedInsert r) l) =
      l₂.foldr (List.orderedInsert r) (l₁.foldr (List.orderedInsert r) l) := by
  induction l₁ with
  | nil => rfl
  | cons a l₁ ih =>
    obtain ⟨ha, h⟩ := List.forall_mem_cons.1 h
    rw [List.foldr_cons, List.foldr_cons, ih h, orderedInsert_foldr htrans htotal ha]

/-- Lists sorted together may come in any order if only elements of the same one agree in rank. -/
theorem insertionSort_flatMap_perm {β : Type} {f : β → List α} {xs ys : List β}
    (htrans : ∀ a b c, r a b → r b c → r a c) (htotal : ∀ a b, r a b ∨ r b a) (hperm : xs.Perm ys)
    (h : ∀ x ∈ xs, ∀ y ∈ xs, x ≠ y → ∀ a ∈ f x, ∀ b ∈ f y, ¬ (r a b ∧ r b a)) :
    (xs.flatMap f).insertionSort r = (ys.flatMap f).insertionSort r := by
  have hfold : ∀ zs : List β, (zs.flatMap f).insertionSort r =
      zs.foldr (fun z l => (f z).foldr (List.orderedInsert r) l) [] := by
    intro zs
    induction zs with
    | nil => rfl
    | cons z zs ih => rw [List.flatMap_cons, insertionSort_append_eq_foldr, ih, List.foldr_cons]
  rw [hfold, hfold]
  refine hperm.foldr_eq' (fun x hx y hy l => ?_) []
  by_cases hxy : x = y
  · rw [hxy]
  · exact foldr_orderedInsert_comm htrans htotal (h y hy x hx (Ne.symm hxy)) l

end Rank

/-! ## Filters, order of equals and keys

A filter takes nothing from the order of a sorted list, elements of one rank keep the order they came in, and so a
sorted list is known from its elements of each rank. -/

/-- Elements beside their places stand in the order of the places. -/
theorem pairwise_zipIdx (l : List α) : l.zipIdx.Pairwise fun x y => x.2 < y.2 := by
  rw [List.pairwise_iff_getElem]
  intro i j hi hj hij
  simpa using hij

section Stable

variable (htrans : ∀ a b c, le a b = true → le b c = true → le a c = true)
  (htotal : ∀ a b, (le a b || le b a) = true)

include htrans htotal

theorem filter_mergeSort (p : α → Bool) : ∀ l : List α, (l.mergeSort le).filter p = (l.filter p).mergeSort le
  | [] => by rw [List.filter_nil, List.mergeSort_nil, List.filter_nil]
  | a :: l => by
    obtain ⟨l₁, l₂, hcons, hsplit, hbefore⟩ := List.mergeSort_cons htrans htotal a l
    have hsorted := List.pairwise_mergeSort htrans htotal (a :: l)
    rw [hcons] at hsorted
    have hafter := (List.pairwise_cons.1 (List.pairwise_append.1 hsorted).2.1).1
    have ih := filter_mergeSort p l
    rw [hsplit, List.filter_append] at ih
    rw [hcons, List.filter_append]
    by_cases ha : p a = true
    · -- `a` stands where it would be inserted among what is left of the others
      rw [List.filter_cons_of_pos ha, List.filter_cons_of_pos ha, mergeSort_eq_insertionSort htrans htotal (a :: _),
        List.insertionSort_cons, ← mergeSort_eq_insertionSort htrans htotal, ← ih, orderedInsert_of_split]
      · exact fun b hb => by simpa using hbefore b (List.mem_filter.1 hb).1
      · exact fun b hb => hafter b (List.mem_filter.1 hb).1
    · rw [List.filter_cons_of_neg ha, List.filter_cons_of_neg ha, ih]

/-- Of two elements of one rank, the one that came first stands first. -/
theorem pairwise_mergeSort_of_pairwise {R : α → α → Prop} : ∀ {l : List α}, l.Pairwise R →
    (l.mergeSort le).Pairwise fun a b => le a b = true ∧ (le b a = true → R a b)
  | [], _ => by rw [List.mergeSort_nil]; exact .nil
  | a :: l, h => by
    obtain ⟨ha, h⟩ := List.pairwise_cons.1 h
    obtain ⟨l₁, l₂, hcons, hsplit, hbefore⟩ := List.mergeSort_cons htrans htotal a l
    have hsorted := List.pairwise_mergeSort htrans htotal (a :: l)
    have hmem : ∀ b, b ∈ l₁ ++ l₂ → b ∈ l := fun b hb => (List.mergeSort_perm l le).mem_iff.1 (hsplit ▸ hb)
    have ih := pairwise_mergeSort_of_pairwise h
    rw [hsplit] at ih
    rw [hcons] at hsorted ⊢
    obtain ⟨h₁, h₂, h₁₂⟩ := List.pairwise_append.1 ih
    obtain ⟨-, h₃, hle⟩ := List.pairwise_append.1 hsorted
    refine List.pairwise_append.2 ⟨h₁, List.pairwise_cons.2 ⟨fun b hb => ?_, h₂⟩, fun b hb c hc => ?_⟩
    · exact ⟨(List.pairwise_cons.1 h₃).1 b hb, fun _ => ha b (hmem b (List.mem_append_right _ hb))⟩
    · rcases List.mem_cons.1 hc with rfl | hc
      · refine ⟨hle b hb c List.mem_cons_self, fun hcb => ?_⟩
        have := hbefore b hb
        rw [hcb] at this
        cases this
      · exact h₁₂ b hb c hc

/-- Elements of one key that may stand in any order keep theirs. -/
theorem filter_key_mergeSort {κ : Type} [DecidableEq κ] {key : α → κ} (hkey : ∀ a b, key a = key b → le a b = true)
    (k : κ) (l : List α) :
    (l.mergeSort le).filter (fun a => decide (key a = k)) = l.filter fun a => decide (key a = k) := by
  rw [filter_mergeSort htrans htotal, List.mergeSort_of_pairwise]
  refine List.pairwise_of_forall_mem_list fun a ha b hb => hkey a b ?_
  simp only [List.mem_filter, decide_eq_true_eq] at ha hb
  rw [ha.2, hb.2]

omit htrans htotal in
/-- Sorted lists that agree in the elements of each key are equal, if elements of one rank share their key. -/
theorem eq_of_filter_key {κ : Type} [DecidableEq κ] {key : α → κ}
    (hkey : ∀ a b, le a b = true → le b a = true → key a = key b) : ∀ {l l' : List α},
    l.Pairwise (fun a b => le a b = true) → l'.Pairwise (fun a b => le a b = true) →
    (∀ k, l.filter (fun a => decide (key a = k)) = l'.filter fun a => decide (key a = k)) → l = l'
  | [], [], _, _, _ => rfl
  | [], b :: l', _, _, h => by simpa using h (key b)
  | a :: l, [], _, _, h => by simpa using h (key a)
  | a :: l, b :: l', hl, hl', h => by
    obtain ⟨ha, htail⟩ := List.pairwise_cons.1 hl
    obtain ⟨hb, htail'⟩ := List.pairwise_cons.1 hl'
    have hab : key a = key b := by
      by_contra hne
      -- each of the two heads stands in the other tail, so neither goes before the other
      have hmem : ∀ {x y : α} {xs ys : List α}, key x ≠ key y →
          (x :: xs).filter (fun z => decide (key z = key y)) = (y :: ys).filter (fun z => decide (key z = key y)) →
            y ∈ xs := by
        intro x y xs ys hxy hf
        rw [List.filter_cons_of_neg (by simpa using hxy), List.filter_cons_of_pos (by simp)] at hf
        exact (List.mem_filter.1 (hf ▸ List.mem_cons_self)).1
      exact hne (hkey a b (ha b (hmem hne (h _))) (hb a (hmem (Ne.symm hne) (h _).symm)))
    have hheads := h (key a)
    rw [List.filter_cons_of_pos (by simp), List.filter_cons_of_pos (by simpa using hab.symm)] at hheads
    obtain ⟨rfl, -⟩ := List.cons.inj hheads
    refine congrArg (a :: ·) (eq_of_filter_key hkey htail htail' fun k => ?_)
    have hk := h k
    by_cases hak : key a = k
    · rw [List.filter_cons_of_pos (by simpa using hak), List.filter_cons_of_pos (by simpa using hak)] at hk
      exact (List.cons.inj hk).2
    · rwa [List.filter_cons_of_neg (by simpa using hak), List.filter_cons_of_neg (by simpa using hak)] at hk

/-- What sorting gives depends on the elements of each key alone. -/
theorem mergeSort_congr {κ : Type} [DecidableEq κ] {key : α → κ}
    (hkey : ∀ a b, le a b = true → le b a = true → key a = key b) {l l' : List α}
    (h : ∀ k, l.filter (fun a => decide (key a = k)) = l'.filter fun a => decide (key a = k)) :
    l.mergeSort le = l'.mergeSort le :=
  eq_of_filter_key hkey (List.pairwise_mergeSort htrans htotal l) (List.pairwise_mergeSort htrans htotal l') fun k => by
    rw [filter_mergeSort htrans htotal, filter_mergeSort htrans htotal, h]

end Stable

end TemporalTagger.Sorting

/-! ## Expressions by their starts -/

namespace TemporalTagger.Extraction

theorem startsBefore_trans (a b c : TimeExpression) (hab : decide (a.span.start ≤ b.span.start) = true)
    (hbc : decide (b.span.start ≤ c.span.start) = true) : decide (a.span.start ≤ c.span.start) = true := by
  rw [decide_eq_true_eq] at *
  omega

theorem startsBefore_total (a b : TimeExpression) :
    (decide (a.span.start ≤ b.span.start) || decide (b.span.start ≤ a.span.start)) = true := by
  rw [Bool.or_eq_true, decide_eq_true_eq, decide_eq_true_eq]
  omega

theorem byStart_eq_insertionSort (es : List TimeExpression) :
    byStart es = es.insertionSort fun a b => decide (a.span.start ≤ b.span.start) = true :=
  Sorting.mergeSort_eq_insertionSort startsBefore_trans startsBefore_total es

theorem filter_byStart (p : TimeExpression → Bool) (es : List TimeExpression) :
    (byStart es).filter p = byStart (es.filter p) :=
  Sorting.filter_mergeSort startsBefore_trans startsBefore_total p es

/-- Expressions that start no later than others come before them. -/
theorem byStart_append {es fs : List TimeExpression} (h : ∀ e ∈ es, ∀ f ∈ fs, e.span.start ≤ f.span.start) :
    byStart (es ++ fs) = byStart es ++ byStart fs := by
  rw [byStart_eq_insertionSort, byStart_eq_insertionSort, byStart_eq_insertionSort,
    Sorting.insertionSort_append fun e he f hf => decide_eq_true (h e he f hf)]

/-- Sources of expressions may come in any order if no two of them have expressions of one start. -/
theorem byStart_flatMap_perm {β : Type} {f : β → List TimeExpression} {xs ys : List β} (hperm : xs.Perm ys)
    (h : ∀ x ∈ xs, ∀ y ∈ xs, x ≠ y → ∀ a ∈ f x, ∀ b ∈ f y, a.span.start ≠ b.span.start) :
    byStart (xs.flatMap f) = byStart (ys.flatMap f) := by
  rw [byStart_eq_insertionSort, byStart_eq_insertionSort]
  refine Sorting.insertionSort_flatMap_perm startsBefore_trans
    (fun a b => Bool.or_eq_true_iff.1 (startsBefore_total a b)) hperm ?_
  intro x hx y hy hxy a ha b hb hrank
  simp only [decide_eq_true_eq] at hrank
  exact h x hx y hy hxy a ha b hb (Nat.le_antisymm hrank.1 hrank.2)

end TemporalTagger.Extraction
