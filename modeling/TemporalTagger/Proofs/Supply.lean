/-
The order in which a document is supplied. A sentence keeps its tokens sorted, expressions are sorted by their
starts, and counters are sums; so neither the order of the sentences nor that of the tokens of a sentence shows in
what tagging gives. Main fact: `tagDocument_perm`.
-/
import TemporalTagger.Proofs.Metrics

namespace TemporalTagger

/-! ## Sentences as supplied -/

/-- A sentence before its tokens are put in order. -/
structure Draft where
  text : String
  start : Nat
  tokens : List Token

namespace Draft

def sentence (d : Draft) : Sentence := .ofTokens d.text d.start d.tokens

/-- The same sentence with its tokens supplied in another order. -/
structure Reordered (d d' : Draft) : Prop where
  text : d'.text = d.text
  start : d'.start = d.start
  tokens : d.tokens.Perm d'.tokens

end Draft

namespace Token

theorem before_iff {a b : Token} : a.before b = true ↔
    a.span.start < b.span.start ∨ a.span.start = b.span.start ∧ a.span.stop ≤ b.span.stop := by
  simp only [before, Bool.or_eq_true, Bool.and_eq_true, decide_eq_true_eq, beq_iff_eq]

theorem before_trans (a b c : Token) (hab : a.before b = true) (hbc : b.before c = true) : a.before c = true := by
  rw [before_iff] at *
  omega

theorem before_total (a b : Token) : (a.before b || b.before a) = true := by
  rw [Bool.or_eq_true, before_iff, before_iff]
  omega

theorem span_eq_of_before {a b : Token} (hab : a.before b = true) (hba : b.before a = true) : a.span = b.span := by
  rw [before_iff] at hab hba
  rcases a with ⟨⟨_, _⟩, _⟩
  rcases b with ⟨⟨_, _⟩, _⟩
  simp only [Span.mk.injEq] at *
  omega

/-- Tokens whose spans differ are sorted in one way only. -/
theorem mergeSort_perm {ts ts' : List Token} (hperm : ts.Perm ts') (hspans : (ts.map (·.span)).Nodup) :
    ts.mergeSort before = ts'.mergeSort before := by
  have hsorted : ∀ us : List Token, (us.mergeSort before).Pairwise fun a b => a.before b = true :=
    List.pairwise_mergeSort before_trans before_total
  refine List.Perm.eq_of_pairwise ?_ (hsorted ts) (hsorted ts') ?_
  · -- a tie is one token, since it is one span
    intro a b ha hb hab hba
    have ha : a ∈ ts := (List.mergeSort_perm ts before).mem_iff.1 ha
    have hb : b ∈ ts := hperm.mem_iff.2 ((List.mergeSort_perm ts' before).mem_iff.1 hb)
    exact List.inj_on_of_nodup_map hspans ha hb (span_eq_of_before hab hba)
  · exact ((List.mergeSort_perm ts before).trans hperm).trans (List.mergeSort_perm ts' before).symm

end Token

theorem Draft.Reordered.sentence_eq {d d' : Draft} (h : d.Reordered d') (hspans : (d.tokens.map (·.span)).Nodup) :
    d.sentence = d'.sentence := by
  unfold Draft.sentence Sentence.ofTokens
  rw [h.text, h.start, Token.mergeSort_perm h.tokens hspans]

theorem Draft.map_sentence_eq {ds ds' : List Draft} (h : List.Forall₂ Reordered ds ds')
    (hspans : ∀ d ∈ ds, (d.tokens.map (·.span)).Nodup) : ds.map sentence = ds'.map sentence := by
  induction h with
  | nil => rfl
  | cons hd _ ih =>
    obtain ⟨hspan, hspans⟩ := List.forall_mem_cons.1 hspans
    rw [List.map_cons, List.map_cons, hd.sentence_eq hspan, ih hspans]

/-! ## Sentences in any order -/

namespace Sentence

/-- No byte of the document is in both sentences. -/
def Disjoint (s s' : Sentence) : Prop := ∀ i, s.start ≤ i → i < s.stop → s'.start ≤ i → i < s'.stop → False

theorem Disjoint.symm {s s' : Sentence} (h : s.Disjoint s') : s'.Disjoint s :=
  fun i hs' hi' hs hi => h i hs hi hs' hi'

/-- A span that is not empty lies in one sentence at most. -/
theorem Disjoint.not_containsSpan {s s' : Sentence} (h : s.Disjoint s') {span : Span} (hlt : span.start < span.stop)
    (hs : s.containsSpan span = true) : s'.containsSpan span = false := by
  by_contra hs'
  simp only [containsSpan, Bool.and_eq_true, decide_eq_true_eq, Bool.not_eq_false] at hs hs'
  exact h span.start hs.1 (by omega) hs'.1 (by omega)

theorem disjoint_of_ne {ss : List Sentence} (h : ss.Pairwise Disjoint) {s s' : Sentence} (hs : s ∈ ss) (hs' : s' ∈ ss)
    (hne : s ≠ s') : s.Disjoint s' :=
  have : Std.Symm Disjoint := ⟨fun _ _ => Disjoint.symm⟩
  h.forall hs hs' hne

/-- The sentence around a span is found wherever it stands in the list. -/
theorem find?_containsSpan_perm {ss ss' : List Sentence} (hperm : ss.Perm ss') (h : ss.Pairwise Disjoint) {span : Span}
    (hlt : span.start < span.stop) :
    ss.find? (·.containsSpan span) = ss'.find? (·.containsSpan span) := by
  cases hs : ss.find? (·.containsSpan span) with
  | none =>
    symm
    rw [List.find?_eq_none] at hs ⊢
    exact fun s hmem => hs s (hperm.mem_iff.2 hmem)
  | some s =>
    cases hs' : ss'.find? (·.containsSpan span) with
    | none =>
      rw [List.find?_eq_none] at hs'
      exact absurd (List.find?_some hs) (hs' s (hperm.mem_iff.1 (List.mem_of_find?_eq_some hs)))
    | some s' =>
      by_cases hne : s = s'
      · rw [hne]
      · have hdisjoint := disjoint_of_ne h (List.mem_of_find?_eq_some hs)
          (hperm.mem_iff.2 (List.mem_of_find?_eq_some hs')) hne
        have hin : s.containsSpan span = true := (List.find?_some hs :)
        have hin' : s'.containsSpan span = true := (List.find?_some hs' :)
        rw [hdisjoint.not_containsSpan hlt hin] at hin'
        cases hin'

end Sentence

/-! ## Documents -/

namespace Tagger

variable (t : Tagger) {ss ss' : List Sentence}

theorem tally_perm (hperm : ss.Perm ss') : t.tally ss = t.tally ss' := by
  have hcount : ∀ c, Extraction.countOutcomes c (ss.flatMap (Extraction.results t.rules c)) =
      Extraction.countOutcomes c (ss'.flatMap (Extraction.results t.rules c)) :=
    fun c => Extraction.countOutcomes_perm c (hperm.flatMap_right _)
  unfold tally
  simp only [hcount, hperm.length_eq, (hperm.map _).sum_eq]

/-- Sentences that share no byte give the same expressions in whatever order they come. -/
theorem extractAll_perm (hperm : ss.Perm ss') (h : ss.Pairwise Sentence.Disjoint) :
    t.extractAll ss = t.extractAll ss' := by
  have hexpressions : (t.extractAll ss).expressions = (t.extractAll ss').expressions := by
    rw [expressions_extractAll, expressions_extractAll]
    -- a start that two sentences share would be a byte in both
    refine Extraction.byStart_flatMap_perm hperm fun s hs s' hs' hne a ha b hb hab => ?_
    obtain ⟨hac, halt⟩ := Extraction.span_of_mem_extractSentence ha
    obtain ⟨hbc, hblt⟩ := Extraction.span_of_mem_extractSentence hb
    simp only [Sentence.containsSpan, Bool.and_eq_true, decide_eq_true_eq] at hac hbc
    exact Sentence.disjoint_of_ne h hs hs' hne a.span.start hac.1 (by omega) (by omega) (by omega)
  have hmetrics : (t.extractAll ss).metrics = (t.extractAll ss').metrics := by
    have hnil : ss = [] ↔ ss' = [] := by
      rw [← List.length_eq_zero_iff, ← List.length_eq_zero_iff, hperm.length_eq]
    simp only [metrics_extractAll, t.tally_perm hperm, hnil]
  exact congrArg₂ TagResult.mk hexpressions hmetrics

theorem tagDocument_of_perm (context : DocumentContext) (hperm : ss.Perm ss') (h : ss.Pairwise Sentence.Disjoint) :
    t.tagDocument ss context = t.tagDocument ss' context := by
  have hfind : ∀ e ∈ (t.extractAll ss').expressions,
      ss.find? (·.containsSpan e.span) = ss'.find? (·.containsSpan e.span) := by
    intro e he
    obtain ⟨s, -, he⟩ := t.mem_extractAll.1 he
    exact Sentence.find?_containsSpan_perm hperm h (Extraction.span_of_mem_extractSentence he).2
  unfold tagDocument resolvePlaceholders
  -- the sentences are read twice: for what is in them, and for the one around an expression
  simp only [t.extractAll_perm hperm h, Resolution.resolveFrom_congr hfind]

/-- Tagging gives the same for sentences in any order, built from tokens in any order, if no two sentences share a
byte and no two tokens of a sentence have the same span. -/
theorem tagDocument_perm (context : DocumentContext) {ds es ds' : List Draft} (hsentences : ds.Perm es)
    (htokens : List.Forall₂ Draft.Reordered es ds') (hspans : ∀ d ∈ ds, (d.tokens.map (·.span)).Nodup)
    (hdisjoint : ds.Pairwise fun d e => d.sentence.Disjoint e.sentence) :
    t.tagDocument (ds.map Draft.sentence) context = t.tagDocument (ds'.map Draft.sentence) context := by
  rw [← Draft.map_sentence_eq htokens fun d hd => hspans d (hsentences.mem_iff.2 hd)]
  exact t.tagDocument_of_perm context (hsentences.map _) (List.pairwise_map.2 hdisjoint)

end Tagger

namespace Draft

def numberAndWord : Draft := ⟨"12 or", 0, [⟨⟨0, 2⟩, none⟩, ⟨⟨3, 5⟩, none⟩]⟩

def numberAndWordReversed : Draft := ⟨"12 or", 0, [⟨⟨3, 5⟩, none⟩, ⟨⟨0, 2⟩, none⟩]⟩

def number : Draft := ⟨"34", 6, []⟩

end Draft

namespace Tagger

open Draft

/-- The later sentence comes first, and so does the later token of the other one. -/
theorem tagDocument_perm_numerals :
    [numberAndWord, number].Perm [number, numberAndWord] ∧
      List.Forall₂ Reordered [number, numberAndWord] [number, numberAndWordReversed] ∧
      (∀ d ∈ [numberAndWord, number], (d.tokens.map (·.span)).Nodup) ∧
      [numberAndWord, number].Pairwise (fun d e => d.sentence.Disjoint e.sentence) ∧
      (numerals.tagDocument ([number, numberAndWordReversed].map sentence) {}).expressions.map (·.value) =
        ["12", "34"] ∧
      numerals.tagDocument ([numberAndWord, number].map sentence) {} =
        numerals.tagDocument ([number, numberAndWordReversed].map sentence) {} := by
  have hperm : [numberAndWord, number].Perm [number, numberAndWord] := .swap _ _ _
  have hreordered : List.Forall₂ Reordered [number, numberAndWord] [number, numberAndWordReversed] :=
    .cons ⟨rfl, rfl, .refl _⟩ (.cons ⟨rfl, rfl, .swap _ _ _⟩ .nil)
  have hspans : ∀ d ∈ [numberAndWord, number], (d.tokens.map (·.span)).Nodup := by decide
  have hdisjoint : [numberAndWord, number].Pairwise (fun d e => d.sentence.Disjoint e.sentence) := by
    refine List.pairwise_pair.2 fun i _ hstop hstart _ => ?_
    have hstop : i < 0 + 5 := hstop
    have hstart : 6 ≤ i := hstart
    omega
  have hvalues : (numerals.tagDocument ([number, numberAndWordReversed].map sentence) {}).expressions.map (·.value) =
      ["12", "34"] := by
    rw [expressions_tagDocument, expressions_extractAll, Extraction.byStart_eq_insertionSort]
    decide +kernel
  exact ⟨hperm, hreordered, hspans, hdisjoint, hvalues,
    numerals.tagDocument_perm {} hperm hreordered hspans hdisjoint⟩

end Tagger

end TemporalTagger
