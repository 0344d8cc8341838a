/-
Tagging a document piece by piece: what is found in sentences that come first does not depend on those
that come after them, neither the expressions, nor their order, nor what their placeholders stand for.
Main fact: `tagDocument_append`.
-/
import TemporalTagger.Proofs.Alignment
import TemporalTagger.Proofs.Context.Resolution
import TemporalTagger.Proofs.Sorting

namespace TemporalTagger

/-! ## Resolution -/

namespace Resolution

variable {context : DocumentContext} {language : Language} {ss ss' : List Sentence}

/-- The sentences count only through the one that holds the expression. -/
theorem resolveOne_congr {earlier : List TimeExpression} {e : TimeExpression}
    (h : ss.find? (·.containsSpan e.span) = ss'.find? (·.containsSpan e.span)) :
    resolveOne context ss language earlier e = resolveOne context ss' language earlier e := by
  have hyear : ∀ rest year, adjustYear context ss language e rest year = adjustYear context ss' language e rest year :=
    fun rest year => by rw [adjustYear, adjustYear, h]
  rw [resolveOne, resolveOne, value?_congr rfl (fun _ => rfl) hyear]

theorem resolveFrom_congr : ∀ {earlier es : List TimeExpression},
    (∀ e ∈ es, ss.find? (·.containsSpan e.span) = ss'.find? (·.containsSpan e.span)) →
    resolveFrom context ss language earlier es = resolveFrom context ss' language earlier es
  | _, [], _ => rfl
  | earlier, e :: es, h => by
    obtain ⟨he, hes⟩ := List.forall_mem_cons.1 h
    rw [resolveFrom, resolveFrom, resolveOne_congr he, resolveFrom_congr hes]

end Resolution

/-! ## Documents -/

namespace Tagger

variable (t : Tagger)

theorem expressions_extractAll (ss : List Sentence) :
    (t.extractAll ss).expressions = Extraction.byStart (ss.flatMap t.tagSentence) := by
  simp only [extractAll, List.flatMap_map]
  rfl

theorem expressions_tagDocument (ss : List Sentence) (context : DocumentContext) :
    (t.tagDocument ss context).expressions =
      if t.options.resolveContext then resolvePlaceholders context ss t.language (t.extractAll ss).expressions
      else (t.extractAll ss).expressions := by
  unfold tagDocument
  split <;> rfl

theorem metrics_tagDocument (ss : List Sentence) (context : DocumentContext) :
    (t.tagDocument ss context).metrics = (t.extractAll ss).metrics := by
  unfold tagDocument
  split <;> rfl

theorem mem_extractAll {ss : List Sentence} {e : TimeExpression} :
    e ∈ (t.extractAll ss).expressions ↔ ∃ s ∈ ss, e ∈ t.tagSentence s := by
  rw [expressions_extractAll, Extraction.mem_byStart, List.mem_flatMap]

/-- The expressions of sentences that come first come first. -/
theorem extractAll_append {s₁ s₂ : List Sentence} (h : ∀ a ∈ s₁, ∀ b ∈ s₂, a.stop ≤ b.start) :
    (t.extractAll (s₁ ++ s₂)).expressions = (t.extractAll s₁).expressions ++ (t.extractAll s₂).expressions := by
  rw [expressions_extractAll, expressions_extractAll, expressions_extractAll, List.flatMap_append,
    Extraction.byStart_append fun e he f hf => ?_]
  obtain ⟨a, ha, he⟩ := List.mem_flatMap.1 he
  obtain ⟨b, hb, hf⟩ := List.mem_flatMap.1 hf
  obtain ⟨hec, helt⟩ := Extraction.span_of_mem_extractSentence he
  have hfc := (Extraction.span_of_mem_extractSentence hf).1
  have hab := h a ha b hb
  simp only [Sentence.containsSpan, Bool.and_eq_true, decide_eq_true_eq] at hec hfc
  omega

/-- The first sentence that holds an expression is there before any more sentences follow. -/
theorem find?_containsSpan_append {s₁ : List Sentence} (s₂ : List Sentence) {e : TimeExpression}
    (he : e ∈ (t.extractAll s₁).expressions) :
    (s₁ ++ s₂).find? (·.containsSpan e.span) = s₁.find? (·.containsSpan e.span) := by
  obtain ⟨s, hs, he⟩ := t.mem_extractAll.1 he
  have hsome : (s₁.find? (·.containsSpan e.span)).isSome = true :=
    List.find?_isSome.2 ⟨s, hs, (Extraction.span_of_mem_extractSentence he).1⟩
  rw [List.find?_append, Option.or_of_isSome hsome]

/-- Sentences that come later in a document leave the expressions of those before them as they are. -/
theorem tagDocument_append (context : DocumentContext) {s₁ s₂ : List Sentence}
    (h : ∀ a ∈ s₁, ∀ b ∈ s₂, a.stop ≤ b.start) :
    (t.tagDocument s₁ context).expressions <+: (t.tagDocument (s₁ ++ s₂) context).expressions := by
  unfold tagDocument
  split
  · show resolvePlaceholders _ _ _ _ <+: resolvePlaceholders _ _ _ _
    rw [t.extractAll_append h, resolvePlaceholders, resolvePlaceholders, Resolution.resolveFrom_append,
      Resolution.resolveFrom_congr fun e he => t.find?_containsSpan_append s₂ he]
    exact List.prefix_append _ _
  · rw [t.extractAll_append h]
    exact List.prefix_append _ _

/-- A tagger with one rule, which finds numbers and takes them for dates. -/
def numerals : Tagger :=
  ⟨.english,
    ⟨[{ category := .date
        name := "number"
        pattern := .ofRegex "[0-9]+" (.plus (.set (.range 0x30 0x39)) true)
        fastCheck := none
        value := "group(0)"
        offset := .wholeMatch
        quant := none
        freq := none
        modifier := none
        emptyValue := none
        constraints := [] }], Table.empty⟩, {}⟩

theorem tagDocument_append_numerals :
    (∀ a ∈ [Sentence.ofTokens "12" 0 []], ∀ b ∈ [Sentence.ofTokens "34" 2 []], a.stop ≤ b.start) ∧
      (numerals.tagDocument [.ofTokens "12" 0 []] {}).expressions.map (·.value) = ["12"] ∧
      (numerals.tagDocument [.ofTokens "12" 0 []] {}).expressions <+:
        (numerals.tagDocument ([.ofTokens "12" 0 []] ++ [.ofTokens "34" 2 []]) {}).expressions :=
  have h : ∀ a ∈ [Sentence.ofTokens "12" 0 []], ∀ b ∈ [Sentence.ofTokens "34" 2 []], a.stop ≤ b.start := by decide +kernel
  ⟨h, by decide +kernel, numerals.tagDocument_append {} h⟩

end Tagger

end TemporalTagger
