/-
The tense around an expression. Tokens stand in the order of the text, so the scans meet the nearest token before the
expression and the first one after it. A token that ends where the expression begins is passed over, and one that
reaches beyond its end is read with what follows. Main facts: `firstAround_eq_some_iff` and `around_reads`.
-/
import TemporalTagger.Context.Tense
import TemporalTagger.Proofs.Supply

namespace TemporalTagger

/-! ## Tokens in order -/

namespace Token

/-- No byte is in both tokens. -/
def Apart (a b : Token) : Prop := a.span.stop ≤ b.span.start ∨ b.span.stop ≤ a.span.start

instance : DecidableRel Apart := fun _ _ => inferInstanceAs (Decidable (_ ∨ _))

/-- Tokens that are not empty and do not overlap. -/
structure Separate (ts : List Token) : Prop where
  nonempty : ∀ t ∈ ts, t.span.start < t.span.stop
  apart : ts.Pairwise Apart

namespace Separate

variable {ts : List Token}

theorem nodup_spans (h : Separate ts) : (ts.map (·.span)).Nodup := by
  rw [List.Nodup, List.pairwise_map]
  refine h.apart.imp_of_mem ?_
  rintro a b ha - (hab | hba) heq
  · have := h.nonempty a ha
    rw [heq] at hab this
    omega
  · have := h.nonempty a ha
    rw [← heq] at hba
    omega

/-- Sorted, each token ends before the next ones begin. -/
theorem pairwise_mergeSort (h : Separate ts) :
    (ts.mergeSort before).Pairwise fun a b => a.span.stop ≤ b.span.start := by
  have hperm := List.mergeSort_perm ts before
  have hsorted : (ts.mergeSort before).Pairwise fun a b => a.before b = true :=
    List.pairwise_mergeSort before_trans before_total ts
  have hapart : (ts.mergeSort before).Pairwise Apart := (hperm.pairwise_iff Or.symm).2 h.apart
  refine (hsorted.and hapart).imp_of_mem ?_
  rintro a b - hb ⟨hab, hle | hle⟩
  · exact hle
  · have := h.nonempty b (hperm.mem_iff.1 hb)
    rw [before_iff] at hab
    omega

theorem filter (h : Separate ts) (p : Token → Bool) : Separate (ts.filter p) :=
  ⟨fun t ht => h.nonempty t (List.mem_filter.1 ht).1, h.apart.filter p⟩

/-- Separate tokens that agree in some of them agree in these when they are sorted. -/
theorem filter_mergeSort_congr {ts' : List Token} (h : Separate ts) (h' : Separate ts') {p : Token → Bool}
    (hmem : ∀ t, p t = true → (t ∈ ts ↔ t ∈ ts')) :
    (ts.mergeSort before).filter p = (ts'.mergeSort before).filter p := by
  rw [Sorting.filter_mergeSort before_trans before_total, Sorting.filter_mergeSort before_trans before_total]
  refine mergeSort_perm ?_ (h.filter p).nodup_spans
  rw [List.perm_ext_iff_of_nodup (h.filter p).nodup_spans.of_map (h'.filter p).nodup_spans.of_map]
  intro t
  rw [List.mem_filter, List.mem_filter]
  exact and_congr_left (hmem t)

end Separate

end Token

/-- In a list that is ordered by a relation, what is found first is shown by an element such that none before it in that
order shows anything. -/
theorem findSome?_eq_some_iff_of_pairwise {α β : Type} {r : α → α → Prop} (hasymm : ∀ a b, r a b → ¬ r b a)
    {f : α → Option β} {b : β} {l : List α} (h : l.Pairwise r) :
    l.findSome? f = some b ↔ ∃ a ∈ l, f a = some b ∧ ∀ a' ∈ l, r a' a → f a' = none := by
  induction l with
  | nil => simp
  | cons x l ih =>
    obtain ⟨hx, hl⟩ := List.pairwise_cons.1 h
    rw [List.findSome?_cons]
    cases hfx : f x with
    | some b' =>
      constructor
      · rintro ⟨⟩
        refine ⟨x, List.mem_cons_self, hfx, ?_⟩
        intro a' ha' hr
        rcases List.mem_cons.1 ha' with rfl | ha'
        · exact absurd hr (hasymm _ _ hr)
        · exact absurd hr (hasymm _ _ (hx a' ha'))
      · rintro ⟨a, ha, hfa, hnone⟩
        rcases List.mem_cons.1 ha with rfl | ha
        · exact hfx.symm.trans hfa
        · have := hnone x List.mem_cons_self (hx a ha)
          rw [hfx] at this
          cases this
    | none =>
      dsimp only
      rw [ih hl]
      constructor
      · rintro ⟨a, ha, hfa, hnone⟩
        refine ⟨a, List.mem_cons_of_mem x ha, hfa, ?_⟩
        intro a' ha' hr
        rcases List.mem_cons.1 ha' with rfl | ha'
        · exact hfx
        · exact hnone a' ha' hr
      · rintro ⟨a, ha, hfa, hnone⟩
        rcases List.mem_cons.1 ha with rfl | ha
        · rw [hfx] at hfa
          cases hfa
        · exact ⟨a, ha, hfa, fun a' ha' => hnone a' (List.mem_cons_of_mem x ha')⟩

namespace Tense

/-! ## Stages -/

/-- The first classification: by the tokens before the expression, the last one first, else by those after it. -/
def first? (language : Language) (before after : List Cue) : Option Tense :=
  before.reverse.findSome? (ofEarlierCue language.tensePatterns) <|> after.findSome? (ofCue language.tensePatterns)

/-- What the pairs of tokens make of a first classification. -/
def revise (language : Language) (before after : List Cue) (first : Tense) : Tense :=
  let perfect := first == presentFuture && (hasPair isPerfect "" before || hasPair isPerfect "" after)
  let tense := if perfect then past else first
  let planned := hasPair isPlan "" before || (!perfect && hasPair isPlan "" after)
  if tense == past && language == .french && planned then future else tense

theorem ofCues_eq (language : Language) (before after : List Cue) :
    ofCues language before after = (first? language before after).map (revise language before after) := rfl

/-! ## Tokens around an expression -/

/-- A token of a sentence as far as tense goes. -/
def cue (s : Sentence) (t : Token) : Cue := ⟨t.tag, s.tokenText t⟩

/-- The tokens that are read before an expression. -/
def earlier (e : TimeExpression) (s : Sentence) : List Cue :=
  (s.tokens.filter (·.span.stop < e.span.start)).map (cue s)

/-- The tokens that are read after an expression. -/
def later (e : TimeExpression) (s : Sentence) : List Cue :=
  (s.tokens.filter (e.span.stop < ·.span.stop)).map (cue s)

/-- The first classification of the tense around an expression. -/
def firstAround (e : TimeExpression) (s : Sentence) (language : Language) : Option Tense :=
  first? language (earlier e s) (later e s)

theorem around_eq (e : TimeExpression) (s : Sentence) (language : Language) :
    around e s language = (firstAround e s language).map (revise language (earlier e s) (later e s)) :=
  ofCues_eq language (earlier e s) (later e s)

/-- The tense that a token shows by its tag. -/
def shown (language : Language) (s : Sentence) (t : Token) : Option Tense := ofCue language.tensePatterns (cue s t)

/-- The tense that a token shows before an expression: by its text, if that is `since` or `depuis`, or by its tag. -/
def shownBefore (language : Language) (s : Sentence) (t : Token) : Option Tense :=
  ofEarlierCue language.tensePatterns (cue s t)

/-- A tense is decided by the nearest of the tokens before that shows one, or, when there is none, by the first of the
tokens after that shows one by its tag. -/
def Decided (language : Language) (s : Sentence) (before after : Token → Prop) (τ : Tense) : Prop :=
  (∃ t ∈ s.tokens, before t ∧ shownBefore language s t = some τ ∧
      ∀ t' ∈ s.tokens, before t' → t.span.stop < t'.span.stop → shownBefore language s t' = none) ∨
    (∀ t ∈ s.tokens, before t → shownBefore language s t = none) ∧
      ∃ t ∈ s.tokens, after t ∧ shown language s t = some τ ∧
        ∀ t' ∈ s.tokens, after t' → t'.span.start < t.span.start → shown language s t' = none

/-- A token and an expression have a byte in common. -/
def Overlaps (e : TimeExpression) (t : Token) : Prop := t.span.start < e.span.stop ∧ e.span.start < t.span.stop

/-- A token begins before the end of an expression and reaches beyond it. -/
def Outreaches (e : TimeExpression) (t : Token) : Prop := t.span.start < e.span.stop ∧ e.span.stop < t.span.stop

variable {language : Language} {text : String} {start : Nat} {e : TimeExpression} {ts ts' : List Token} {τ : Tense}

theorem mem_ofTokens {t : Token} : t ∈ (Sentence.ofTokens text start ts).tokens ↔ t ∈ ts :=
  (List.mergeSort_perm ts Token.before).mem_iff

/-- Which tokens are taken for those before and after only counts where they show a tense. -/
theorem Decided.congr {s : Sentence} {before after before' after' : Token → Prop}
    (hbefore : ∀ t ∈ s.tokens, shownBefore language s t ≠ none → (before t ↔ before' t))
    (hafter : ∀ t ∈ s.tokens, shown language s t ≠ none → (after t ↔ after' t))
    (h : Decided language s before after τ) : Decided language s before' after' τ := by
  rcases h with ⟨t, ht, hb, hshown, hnone⟩ | ⟨hnone, t, ht, ha, hshown, hfirst⟩
  · left
    refine ⟨t, ht, (hbefore t ht (by rw [hshown]; exact Option.some_ne_none τ)).1 hb, hshown, ?_⟩
    intro t' ht' hb' hlt
    by_contra hne
    exact hne (hnone t' ht' ((hbefore t' ht' hne).2 hb') hlt)
  · right
    constructor
    · intro t' ht' hb'
      by_contra hne
      exact hne (hnone t' ht' ((hbefore t' ht' hne).2 hb'))
    · refine ⟨t, ht, (hafter t ht (by rw [hshown]; exact Option.some_ne_none τ)).1 ha, hshown, ?_⟩
      intro t' ht' ha' hlt
      by_contra hne
      exact hne (hfirst t' ht' ((hafter t' ht' hne).2 ha') hlt)

/-- The scan of the tokens before an expression finds the nearest one that shows a tense. -/
theorem findSome?_earlier_iff (h : Token.Separate ts) (τ : Tense) :
    (earlier e (.ofTokens text start ts)).reverse.findSome? (ofEarlierCue language.tensePatterns) = some τ ↔
      ∃ t ∈ ts, t.span.stop < e.span.start ∧ shownBefore language (.ofTokens text start ts) t = some τ ∧
        ∀ t' ∈ ts, t'.span.stop < e.span.start → t.span.stop < t'.span.stop →
          shownBefore language (.ofTokens text start ts) t' = none := by
  have hmem : ∀ t, t ∈ ts.mergeSort Token.before ↔ t ∈ ts := fun t => (List.mergeSort_perm ts Token.before).mem_iff
  have hstops : (ts.mergeSort Token.before).reverse.Pairwise fun a b => b.span.stop < a.span.stop := by
    rw [List.pairwise_reverse]
    refine h.pairwise_mergeSort.imp_of_mem ?_
    intro a b _ hb hab
    exact lt_of_le_of_lt hab (h.nonempty b ((hmem b).1 hb))
  rw [earlier, ← List.map_reverse, ← List.filter_reverse, List.findSome?_map, Sentence.ofTokens,
    findSome?_eq_some_iff_of_pairwise (fun _ _ => lt_asymm) (hstops.filter _)]
  simp only [List.mem_filter, List.mem_reverse, hmem, decide_eq_true_eq, and_assoc, and_imp]
  rfl

/-- The scan of the tokens after an expression finds the first one that shows a tense. -/
theorem findSome?_later_iff (h : Token.Separate ts) (τ : Tense) :
    (later e (.ofTokens text start ts)).findSome? (ofCue language.tensePatterns) = some τ ↔
      ∃ t ∈ ts, e.span.stop < t.span.stop ∧ shown language (.ofTokens text start ts) t = some τ ∧
        ∀ t' ∈ ts, e.span.stop < t'.span.stop → t'.span.start < t.span.start →
          shown language (.ofTokens text start ts) t' = none := by
  have hmem : ∀ t, t ∈ ts.mergeSort Token.before ↔ t ∈ ts := fun t => (List.mergeSort_perm ts Token.before).mem_iff
  have hstarts : (ts.mergeSort Token.before).Pairwise fun a b => a.span.start < b.span.start := by
    refine h.pairwise_mergeSort.imp_of_mem ?_
    intro a b ha _ hab
    exact lt_of_lt_of_le (h.nonempty a ((hmem a).1 ha)) hab
  rw [later, List.findSome?_map, Sentence.ofTokens,
    findSome?_eq_some_iff_of_pairwise (fun _ _ => lt_asymm) (hstarts.filter _)]
  simp only [List.mem_filter, hmem, decide_eq_true_eq, and_assoc, and_imp]
  rfl

/-- The first classification is decided by the nearest token that ends before the expression begins and shows a tense,
or else by the first one that reaches beyond its end. -/
theorem firstAround_eq_some_iff (h : Token.Separate ts) :
    firstAround e (.ofTokens text start ts) language = some τ ↔
      Decided language (.ofTokens text start ts) (·.span.stop < e.span.start) (e.span.stop < ·.span.stop) τ := by
  have hnone : (earlier e (.ofTokens text start ts)).reverse.findSome? (ofEarlierCue language.tensePatterns) = none ↔
      ∀ t ∈ ts, t.span.stop < e.span.start → shownBefore language (.ofTokens text start ts) t = none := by
    simp only [earlier, List.findSome?_eq_none_iff, List.mem_reverse, List.forall_mem_map, List.mem_filter,
      mem_ofTokens, decide_eq_true_eq, and_imp]
    rfl
  unfold firstAround first? Decided
  simp only [mem_ofTokens]
  rw [Option.orElse_eq_some, findSome?_earlier_iff h, findSome?_later_iff h, hnone]

/-- The tokens that end before the expression begins and those that reach beyond its end are all that counts. -/
theorem around_congr (h : Token.Separate ts) (h' : Token.Separate ts')
    (hmem : ∀ t, t.span.stop < e.span.start ∨ e.span.stop < t.span.stop → (t ∈ ts ↔ t ∈ ts')) :
    around e (.ofTokens text start ts) language = around e (.ofTokens text start ts') language := by
  have hearlier : earlier e (.ofTokens text start ts) = earlier e (.ofTokens text start ts') := by
    have hfilter := @h.filter_mergeSort_congr ts ts' h' (fun t => decide (t.span.stop < e.span.start))
      (fun t ht => hmem t (.inl (of_decide_eq_true ht)))
    exact congrArg (List.map (cue (.ofTokens text start ts))) hfilter
  have hlater : later e (.ofTokens text start ts) = later e (.ofTokens text start ts') := by
    have hfilter := @h.filter_mergeSort_congr ts ts' h' (fun t => decide (e.span.stop < t.span.stop))
      (fun t ht => hmem t (.inr (of_decide_eq_true ht)))
    exact congrArg (List.map (cue (.ofTokens text start ts))) hfilter
  rw [around_eq, around_eq, firstAround, firstAround, hearlier, hlater]

/-- The tense around an expression does not depend on tokens that overlap it, unless they reach beyond its end. The
first classification is decided by the nearest token that ends before the expression begins and shows a tense, or else
by the first such token that reaches beyond its end. So a token that ends where the expression begins is passed over and
one over the end of the expression is read; where none of these shows a tense, the nearest token up to the beginning of
the expression decides, or else the first one from its end on. -/
theorem around_reads (language : Language) (text : String) (start : Nat) (e : TimeExpression) {ts : List Token}
    (h : Token.Separate ts) :
    (∀ ts', Token.Separate ts' → (∀ t, ¬ Overlaps e t ∨ Outreaches e t → (t ∈ ts ↔ t ∈ ts')) →
        around e (.ofTokens text start ts) language = around e (.ofTokens text start ts') language) ∧
      around e (.ofTokens text start ts) language = (firstAround e (.ofTokens text start ts) language).map
        (revise language (earlier e (.ofTokens text start ts)) (later e (.ofTokens text start ts))) ∧
      (∀ τ, firstAround e (.ofTokens text start ts) language = some τ ↔
        Decided language (.ofTokens text start ts) (·.span.stop < e.span.start) (e.span.stop < ·.span.stop) τ) ∧
      ((∀ t ∈ ts, t.span.stop = e.span.start → shownBefore language (.ofTokens text start ts) t = none) →
        (∀ t ∈ ts, Outreaches e t → shown language (.ofTokens text start ts) t = none) →
        ∀ τ, firstAround e (.ofTokens text start ts) language = some τ ↔
          Decided language (.ofTokens text start ts) (·.span.stop ≤ e.span.start) (e.span.stop ≤ ·.span.start) τ) := by
  refine ⟨?_, around_eq .., fun τ => firstAround_eq_some_iff h, ?_⟩
  · intro ts' h' hmem
    refine around_congr h h' ?_
    intro t ht
    refine hmem t ?_
    unfold Overlaps Outreaches
    omega
  · intro hadjoining hover τ
    rw [firstAround_eq_some_iff h]
    have hbefore : ∀ t ∈ (Sentence.ofTokens text start ts).tokens,
        shownBefore language (.ofTokens text start ts) t ≠ none →
          (t.span.stop < e.span.start ↔ t.span.stop ≤ e.span.start) := by
      intro t ht hshown
      have hne : t.span.stop ≠ e.span.start := fun heq => hshown (hadjoining t (mem_ofTokens.1 ht) heq)
      omega
    have hafter : ∀ t ∈ (Sentence.ofTokens text start ts).tokens, shown language (.ofTokens text start ts) t ≠ none →
        (e.span.stop < t.span.stop ↔ e.span.stop ≤ t.span.start) := by
      intro t ht hshown
      have hnonempty := h.nonempty t (mem_ofTokens.1 ht)
      have hinside : ¬ Outreaches e t := fun hout => hshown (hover t (mem_ofTokens.1 ht) hout)
      unfold Outreaches at hinside
      omega
    constructor
    · exact Decided.congr hbefore hafter
    · exact Decided.congr (fun t ht hne => (hbefore t ht hne).symm) (fun t ht hne => (hafter t ht hne).symm)

/-- Tokens of which one ends where an expression begins and another one begins there and reaches beyond its end. -/
def gluedTokens : List Token := [⟨⟨0, 2⟩, some "PP"⟩, ⟨⟨3, 7⟩, some "MD"⟩, ⟨⟨7, 15⟩, some "VVD"⟩]

def gluedYear : TimeExpression := { category := .date, value := "2001", span := ⟨7, 11⟩, rule := "year" }

/-- The token right before the expression speaks of the future, but the one over its end is read, which is of the
past. -/
theorem around_reads_glued :
    Token.Separate gluedTokens ∧
      firstAround gluedYear (.ofTokens "He will2001born" 0 gluedTokens) .english = some .past ∧
      Decided .english (.ofTokens "He will2001born" 0 gluedTokens) (·.span.stop < gluedYear.span.start)
        (gluedYear.span.stop < ·.span.stop) .past ∧
      Decided .english (.ofTokens "He will2001born" 0 gluedTokens) (·.span.stop ≤ gluedYear.span.start)
        (gluedYear.span.stop ≤ ·.span.start) .future := by
  have hseparate : Token.Separate gluedTokens := ⟨by decide, by decide⟩
  obtain ⟨-, -, hiff, -⟩ := around_reads .english "He will2001born" 0 gluedYear hseparate
  have hread : Decided .english (.ofTokens "He will2001born" 0 gluedTokens) (·.span.stop < gluedYear.span.start)
      (gluedYear.span.stop < ·.span.stop) .past := by
    simp only [Decided, mem_ofTokens]
    decide +kernel
  refine ⟨hseparate, (hiff .past).2 hread, hread, ?_⟩
  simp only [Decided, mem_ofTokens]
  decide +kernel

end Tense

end TemporalTagger
