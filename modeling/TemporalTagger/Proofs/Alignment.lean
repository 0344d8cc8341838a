/-
The expressions of a document lie in it: each covers a part of exactly one of its sentences, with
both ends between characters, whatever the rules are and however their offsets pair groups.
Main fact: `tagDocument_aligned`.
-/
import TemporalTagger.Proofs.Context.Resolution
import TemporalTagger.Proofs.Extraction
import TemporalTagger.Proofs.Regex.Offsets
import TemporalTagger.Proofs.Text.Lines
import TemporalTagger.Proofs.Text.Pieces
import TemporalTagger.Sentence.Segment
import TemporalTagger.Tagger

namespace TemporalTagger

open Text

/-- Where no two elements have a property at once and one has it, exactly one has. -/
theorem countP_eq_one {α : Type} {p : α → Bool} : ∀ {as : List α},
    (as.Pairwise fun a b => ¬ (p a = true ∧ p b = true)) → ∀ {a}, a ∈ as → p a = true → as.countP p = 1
  | [], _, a, ha, _ => by cases ha
  | b :: as, hp, a, ha, hpa => by
    obtain ⟨hb, hp⟩ := List.pairwise_cons.1 hp
    by_cases hpb : p b = true
    · have hnone : as.countP p = 0 := List.countP_eq_zero.2 fun d hd hpd => hb d hd ⟨hpb, hpd⟩
      rw [List.countP_cons, hnone, if_pos hpb]
    · rcases List.mem_cons.1 ha with rfl | ha
      · exact absurd hpa hpb
      · rw [List.countP_cons, if_neg hpb]
        exact countP_eq_one hp ha hpa

/-! ## Sentences of a document -/

namespace Sentence

/-- A sentence is a part of a document, at its offset. -/
def LiesIn (s : Sentence) (document : String) : Prop :=
  ∃ pre post, document = String.ofList (pre ++ s.text.toList ++ post) ∧ byteLength pre = s.start

theorem segment?_exact : Recogniser.Exact fun cs => (segment? cs).map fun s => (s, s.length) := by
  rintro (_ | ⟨c, rest⟩) a n h
  · cases h
  · simp only [segment?] at h
    split at h
    · cases h
    · obtain ⟨rfl, rfl⟩ := Prod.mk.inj (Option.some.inj h)
      refine ⟨by simp, ?_⟩
      have hpre : rest.takeWhile (!isTerminal ·) ++ (rest.dropWhile (!isTerminal ·)).takeWhile isTerminal <+:
          rest := by
        refine ⟨(rest.dropWhile (!isTerminal ·)).dropWhile isTerminal, ?_⟩
        rw [List.append_assoc, List.takeWhile_append_dropWhile, List.takeWhile_append_dropWhile]
      rw [List.cons_append, List.length_cons, List.take_succ_cons, ← List.prefix_iff_eq_take.1 hpre]

/-- Sentences are parts of their document. -/
theorem liesIn_of_mem_split {document : String} {s : Sentence} (h : s ∈ split document) : s.LiesIn document := by
  obtain ⟨⟨offset, cs⟩, hmem, rfl⟩ := List.mem_map.1 h
  obtain ⟨pre, post, hr, ho⟩ := placed_at _ _ _ hmem
  obtain ⟨blanks, hb⟩ := trimEnd_prefix cs
  rw [render_scan segment?_exact] at hr
  refine ⟨pre, blanks ++ post, ?_, by rw [Nat.zero_add] at ho; exact ho.symm⟩
  calc
    document = String.ofList (pre ++ cs ++ post) := by rw [← String.ofList_toList (s := document), hr]
    _ = String.ofList (pre ++ trimEnd cs ++ (blanks ++ post)) := by
      rw [← List.append_assoc, List.append_assoc pre (trimEnd cs), hb]
    _ = _ := by rw [← String.toList_ofList (l := trimEnd cs)]; rfl

/-- No two sentences overlap. -/
theorem split_pairwise (document : String) : (split document).Pairwise fun s t => s.stop ≤ t.start := by
  refine List.pairwise_map.2 ((placed_pairwise _ _).imp fun {x y} h => ?_)
  obtain ⟨blanks, hb⟩ := trimEnd_prefix x.2
  have hlen := congrArg byteLength hb
  rw [byteLength_append] at hlen
  show x.1 + (String.ofList (trimEnd x.2)).utf8ByteSize ≤ y.1
  rw [byteLength_ofList]
  omega

/-- A span of a sentence is contained in no other of its document. -/
theorem eq_of_containsSpan {document : String} {s t : Sentence} {span : Span} (hlt : span.start < span.stop)
    (hs : s ∈ split document) (hsc : s.containsSpan span = true) (ht : t ∈ split document)
    (htc : t.containsSpan span = true) : s = t := by
  simp only [containsSpan, Bool.and_eq_true, decide_eq_true_eq] at hsc htc
  by_contra hne
  have : Std.Symm fun s t : Sentence => s.stop ≤ t.start ∨ t.stop ≤ s.start := ⟨fun _ _ => Or.symm⟩
  have hdisjoint : (split document).Pairwise fun s t => s.stop ≤ t.start ∨ t.stop ≤ s.start :=
    (split_pairwise document).imp Or.inl
  rcases hdisjoint.forall hs ht hne with h | h <;> omega

theorem countP_containsSpan {span : Span} (hlt : span.start < span.stop) {ss : List Sentence}
    (hp : ss.Pairwise fun s t => s.stop ≤ t.start) {s : Sentence} (hs : s ∈ ss) (hc : s.containsSpan span = true) :
    ss.countP (·.containsSpan span) = 1 := by
  refine countP_eq_one (hp.imp fun {a b} hab h => ?_) hs hc
  simp only [containsSpan, Bool.and_eq_true, decide_eq_true_eq] at h
  omega

end Sentence

/-! ## Spans of matches -/

theorem Offset.isCut_span? (o : Offset) {p : Pattern} {text : String} {m : Regex.Match} {span : Span}
    (hm : m ∈ p.allMatches text) (h : o.span? m = some span) :
    IsCut text.toList span.start ∧ IsCut text.toList span.stop ∧ span.start ≤ span.stop := by
  have hcut := Pattern.isCut_of_mem_allMatches hm
  simp only [Offset.span?, Option.bind_eq_bind, Option.bind_eq_some_iff] at h
  obtain ⟨first, hf, last, hl, h⟩ := h
  split at h
  next hle =>
    obtain rfl := Option.some.inj h
    exact ⟨(hcut _ _ hf).1, (hcut _ _ hl).2, hle⟩
  next => cases h

/-- Every span that a rule selects from a match of a text cuts a part out of it. -/
theorem Offset.slice?_isSome (o : Offset) {p : Pattern} {text : String} {m : Regex.Match} {span : Span}
    (hm : m ∈ p.allMatches text) (h : o.span? m = some span) :
    (upTo? text span.start).isSome = true ∧ (from? text span.stop).isSome = true ∧
      (slice? text span).isSome = true := by
  obtain ⟨ha, hb, hab⟩ := o.isCut_span? hm h
  obtain ⟨_, _, _, -, -, hs⟩ := slice?_of_isCut ha hb hab
  exact ⟨upTo?_isSome ha, from?_isSome hb, by rw [hs, Option.isSome_some]⟩

/-! ## Expressions of a document -/

/-- An expression of a sentence covers a part of it that has passed the tests. -/
theorem Extraction.exists_part {rules : RuleSet} {s : Sentence} {options : Options} {e : TimeExpression}
    (he : e ∈ extractSentence rules s options) :
    ∃ a mid b, s.text = String.ofList (a ++ mid ++ b) ∧ mid ≠ [] ∧
      e.span = s.inDocument ⟨byteLength a, byteLength (a ++ mid)⟩ ∧
      Boundary.accepts s ⟨byteLength a, byteLength (a ++ mid)⟩ = true := by
  obtain ⟨r, m, hstem⟩ := exists_of_mem_extractSentence he
  obtain ⟨span, hpass⟩ := judge_eq_emitted.1 hstem.judged
  obtain ⟨ha, hb, hab⟩ := r.offset.isCut_span? hstem.matched hpass.offset
  obtain ⟨a, mid, b, htext, rfl, -⟩ := slice?_of_isCut ha hb hab
  refine ⟨a, mid, b, htext, ?_, by rw [← hpass.express]; rfl, hpass.accepted⟩
  rintro rfl
  have hlt := hpass.nonempty
  rw [List.append_nil] at hlt
  exact lt_irrefl _ hlt

/-- The expressions of a sentence lie in it and are not empty. -/
theorem Extraction.span_of_mem_extractSentence {rules : RuleSet} {s : Sentence} {options : Options}
    {e : TimeExpression} (he : e ∈ extractSentence rules s options) :
    s.containsSpan e.span = true ∧ e.span.start < e.span.stop := by
  obtain ⟨a, mid, b, htext, hmid, hspan, -⟩ := exists_part he
  have hsize : s.size = byteLength (a ++ mid) + byteLength b := by
    rw [Sentence.size, htext, byteLength_ofList, byteLength_append]
  have hpos := byteLength_pos hmid
  have hlen := byteLength_append a mid
  simp only [hspan, Sentence.inDocument, Sentence.containsSpan, Sentence.stop, Bool.and_eq_true, decide_eq_true_eq]
  omega

/-- An expression covers a part of exactly one sentence of its document. -/
structure TimeExpression.Aligned (document : String) (e : TimeExpression) : Prop where
  nonempty : e.span.start < e.span.stop
  start : (place? document e.span.start).isSome = true
  stop : (place? document e.span.stop).isSome = true
  sentence : (Sentence.split document).countP (·.containsSpan e.span) = 1
  covered : e.coveredText document ≠ ""
  slice : ∀ s ∈ Sentence.split document, s.containsSpan e.span = true →
    slice? s.text ⟨e.span.start - s.start, e.span.stop - s.start⟩ = some (e.coveredText document)

namespace TimeExpression

theorem aligned_of_mem {document : String} {s : Sentence} {rules : RuleSet} {options : Options} {e : TimeExpression}
    (hs : s ∈ Sentence.split document) (he : e ∈ extractSentence rules s options) : e.Aligned document := by
  obtain ⟨a, mid, b, htext, hmid, hspan, -⟩ := Extraction.exists_part he
  obtain ⟨hcontains, helt⟩ := Extraction.span_of_mem_extractSentence he
  obtain ⟨pre, post, hdoc, hpre⟩ := Sentence.liesIn_of_mem_split hs
  have hedoc : e.span = ⟨byteLength (pre ++ a), byteLength (pre ++ a ++ mid)⟩ := by
    rw [hspan, Sentence.inDocument, ← hpre, List.append_assoc, byteLength_append pre a, byteLength_append pre]
  have hdoc : document = String.ofList (pre ++ a ++ mid ++ (b ++ post)) := by
    rw [hdoc, htext, String.toList_ofList]
    simp only [List.append_assoc]
  have hcovered : e.coveredText document = String.ofList mid := by
    rw [coveredText, hedoc, hdoc, slice?_ofList]; rfl
  have hcut : ∀ t, t <+: pre ++ a ++ mid ++ (b ++ post) → IsCut document.toList (byteLength t) :=
    fun t ht => ⟨t, by rw [hdoc, String.toList_ofList]; exact ht, rfl⟩
  refine ⟨helt, ?_, ?_, Sentence.countP_containsSpan helt (Sentence.split_pairwise _) hs hcontains, ?_, ?_⟩
  · rw [hedoc]
    exact place?_isSome (hcut _ ⟨mid ++ (b ++ post), by simp only [List.append_assoc]⟩)
  · rw [hedoc]
    exact place?_isSome (hcut _ (List.prefix_append _ _))
  · rw [hcovered]
    exact fun h => hmid (by simpa using congrArg String.toList h)
  · intro t ht htc
    obtain rfl := Sentence.eq_of_containsSpan helt ht htc hs hcontains
    rw [hcovered, hspan, htext]
    simp only [Sentence.inDocument, Nat.add_sub_cancel_left, slice?_ofList]

theorem Aligned.of_span {document : String} {e e' : TimeExpression} (h : e.Aligned document)
    (hspan : e'.span = e.span) : e'.Aligned document := by
  have hcov : e'.coveredText document = e.coveredText document := by rw [coveredText, coveredText, hspan]
  obtain ⟨h₁, h₂, h₃, h₄, h₅, h₆⟩ := h
  exact ⟨hspan ▸ h₁, hspan ▸ h₂, hspan ▸ h₃, hspan ▸ h₄, hcov ▸ h₅, by rw [hcov, hspan]; exact h₆⟩

end TimeExpression

/-! ## Resolution -/

/-- Resolution moves no expression. -/
theorem Resolution.map_span_resolveFrom (context : DocumentContext) (sentences : List Sentence)
    (language : Language) : ∀ earlier es : List TimeExpression,
    (resolveFrom context sentences language earlier es).map (·.span) = es.map (·.span)
  | _, [] => rfl
  | earlier, e :: es => by
    rw [resolveFrom, List.map_cons, List.map_cons, map_span_resolveFrom, span_resolveOne]

/-! ## Documents -/

namespace Tagger

theorem extractAll_aligned (t : Tagger) (document : String) :
    ∀ e ∈ (t.extractAll (Sentence.split document)).expressions, e.Aligned document := by
  intro e he
  obtain ⟨_, hrun, he⟩ := List.mem_flatMap.1 (Extraction.mem_byStart.1 he)
  obtain ⟨s, hs, rfl⟩ := List.mem_map.1 hrun
  exact TimeExpression.aligned_of_mem hs he

theorem extractAll_pairwise (t : Tagger) (sentences : List Sentence) :
    (t.extractAll sentences).expressions.Pairwise fun a b => a.span.start ≤ b.span.start := by
  refine (List.pairwise_mergeSort (fun a b c hab hbc => ?_) (fun a b => ?_) _).imp fun h => by simpa using h
  · simp only [decide_eq_true_eq] at *; omega
  · simp only [Bool.or_eq_true, decide_eq_true_eq]; omega

theorem map_span_tagDocument (t : Tagger) (sentences : List Sentence) (context : DocumentContext) :
    (t.tagDocument sentences context).expressions.map (·.span) =
      (t.extractAll sentences).expressions.map (·.span) := by
  unfold tagDocument
  split
  · exact Resolution.map_span_resolveFrom ..
  · rfl

/-- Tagging a document gives expressions in order of their starts, each of which covers a part of
exactly one sentence, and all spans that are tested on the way cut a part out of their sentence. -/
theorem tagDocument_aligned (t : Tagger) (document : String) (context : DocumentContext) :
    (t.tagDocument (Sentence.split document) context).expressions.Pairwise
        (fun a b => a.span.start ≤ b.span.start) ∧
      (∀ e ∈ (t.tagDocument (Sentence.split document) context).expressions, e.Aligned document) ∧
      ∀ s ∈ Sentence.split document, ∀ r ∈ t.rules.rules, ∀ m ∈ r.pattern.allMatches s.text,
        ∀ span, r.offset.span? m = some span →
          (upTo? s.text span.start).isSome = true ∧ (from? s.text span.stop).isSome = true ∧
            (slice? s.text span).isSome = true := by
  have hspans := map_span_tagDocument t (Sentence.split document) context
  refine ⟨?_, fun e he => ?_, fun s _ r _ m hm span h => r.offset.slice?_isSome hm h⟩
  · have hsorted := List.pairwise_map (f := TimeExpression.span) (R := fun a b : Span => a.start ≤ b.start).2
      (extractAll_pairwise t (Sentence.split document))
    rwa [← hspans, List.pairwise_map] at hsorted
  · obtain ⟨e', he', hspan⟩ := List.mem_map.1 (hspans ▸ List.mem_map_of_mem he)
    exact (extractAll_aligned t document e' he').of_span hspan.symm

end Tagger

end TemporalTagger
