/-
Moving a document. All offsets of sentences, tokens and expressions are offsets in the document, so to move every
sentence with its tokens by some bytes is to move every expression by as many, and nothing else changes. Main
fact: `tagDocument_relocate`.
-/
import TemporalTagger.Proofs.Metrics

namespace TemporalTagger

/-! ## Moving by some bytes -/

def Span.relocate (b : Nat) (s : Span) : Span := ⟨s.start + b, s.stop + b⟩

def Token.relocate (b : Nat) (t : Token) : Token := { t with span := t.span.relocate b }

/-- A sentence and its tokens moved. -/
def Sentence.relocate (b : Nat) (s : Sentence) : Sentence := ⟨s.text, s.start + b, s.tokens.map (Token.relocate b)⟩

def TimeExpression.relocate (b : Nat) (e : TimeExpression) : TimeExpression := { e with span := e.span.relocate b }

/-- The same counters, and the expressions moved. -/
def TagResult.relocate (b : Nat) (r : TagResult) : TagResult :=
  { r with expressions := r.expressions.map (TimeExpression.relocate b) }

section

variable (b : Nat)

theorem beq_add_right (m n : Nat) : (m + b == n + b) = (m == n) := by
  rw [Bool.eq_iff_iff, beq_iff_eq, beq_iff_eq, Nat.add_right_cancel_iff]

@[simp] theorem Span.start_relocate (s : Span) : (s.relocate b).start = s.start + b := rfl

@[simp] theorem Span.stop_relocate (s : Span) : (s.relocate b).stop = s.stop + b := rfl

@[simp] theorem Token.span_relocate (t : Token) : (t.relocate b).span = t.span.relocate b := rfl

@[simp] theorem Token.tag_relocate (t : Token) : (t.relocate b).tag = t.tag := rfl

@[simp] theorem Sentence.text_relocate (s : Sentence) : (s.relocate b).text = s.text := rfl

@[simp] theorem Sentence.start_relocate (s : Sentence) : (s.relocate b).start = s.start + b := rfl

@[simp] theorem Sentence.tokens_relocate (s : Sentence) :
    (s.relocate b).tokens = s.tokens.map (Token.relocate b) := rfl

@[simp] theorem TimeExpression.span_relocate (e : TimeExpression) : (e.relocate b).span = e.span.relocate b := rfl

@[simp] theorem TimeExpression.value_relocate (e : TimeExpression) : (e.relocate b).value = e.value := rfl

/-! ## Sentences -/

namespace Sentence

@[simp] theorem size_relocate (s : Sentence) : (s.relocate b).size = s.size := rfl

@[simp] theorem stop_relocate (s : Sentence) : (s.relocate b).stop = s.stop + b := by
  unfold stop
  rw [start_relocate, size_relocate]
  omega

theorem ofTokens_relocate (text : String) (start : Nat) (tokens : List Token) :
    ofTokens text (start + b) (tokens.map (Token.relocate b)) = (ofTokens text start tokens).relocate b := by
  have hsort : (tokens.map (Token.relocate b)).mergeSort Token.before =
      (tokens.mergeSort Token.before).map (Token.relocate b) := by
    refine (List.map_mergeSort fun t _ t' _ => ?_).symm
    simp [Token.before, beq_add_right]
  unfold ofTokens relocate
  rw [hsort]

theorem inDocument_relocate (s : Sentence) (span : Span) :
    (s.relocate b).inDocument span = (s.inDocument span).relocate b := by
  simp only [inDocument, Span.relocate, start_relocate, Span.mk.injEq]
  omega

/-- A span of the document that is moved with the sentence covers the same text in it. -/
theorem textAt_relocate (s : Sentence) (span : Span) : (s.relocate b).textAt (span.relocate b) = s.textAt span := by
  simp [textAt, Nat.add_sub_add_right]

theorem tokenText_relocate (s : Sentence) (t : Token) : (s.relocate b).tokenText (t.relocate b) = s.tokenText t :=
  s.textAt_relocate b t.span

theorem tokenAt?_relocate (s : Sentence) (offset : Nat) :
    (s.relocate b).tokenAt? (offset + b) = (s.tokenAt? offset).map (Token.relocate b) := by
  unfold tokenAt?
  rw [tokens_relocate, List.find?_map]
  congr 2
  funext t
  simp

theorem containsSpan_relocate (s : Sentence) (span : Span) :
    (s.relocate b).containsSpan (span.relocate b) = s.containsSpan span := by
  simp [containsSpan]

end Sentence

/-! ## Matches -/

theorem Boundary.accepts_relocate (s : Sentence) (span : Span) :
    Boundary.accepts (s.relocate b) span = Boundary.accepts s span := by
  have hstarts : (s.relocate b).tokens.any (·.span.start == ((s.relocate b).inDocument span).start) =
      s.tokens.any (·.span.start == (s.inDocument span).start) := by
    rw [Sentence.inDocument_relocate, Sentence.tokens_relocate, List.any_map]
    simp [Function.comp_def, beq_add_right]
  have hstops : (s.relocate b).tokens.any (·.span.stop == ((s.relocate b).inDocument span).stop) =
      s.tokens.any (·.span.stop == (s.inDocument span).stop) := by
    rw [Sentence.inDocument_relocate, Sentence.tokens_relocate, List.any_map]
    simp [Function.comp_def, beq_add_right]
  have hempty : (s.relocate b).tokens.isEmpty = s.tokens.isEmpty := List.isEmpty_map
  unfold Boundary.accepts Boundary.onTokens
  simp only [hstarts, hstops, hempty, Sentence.text_relocate, Sentence.size_relocate]

theorem Rule.satisfiesPos_relocate (r : Rule) (s : Sentence) (m : Regex.Match) :
    r.satisfiesPos (s.relocate b) m = r.satisfiesPos s m := by
  have hholds : ∀ p : PosConstraint, p.holds (s.relocate b) m = p.holds s m := by
    intro p
    unfold PosConstraint.holds
    cases m.group? p.group with
    | none => rfl
    | some span =>
      have hstart : (s.relocate b).start + span.start = s.start + span.start + b := by
        rw [Sentence.start_relocate]
        omega
      simp only [hstart, Sentence.tokenAt?_relocate]
      cases s.tokenAt? (s.start + span.start) <;> rfl
  unfold Rule.satisfiesPos
  simp only [hholds]

namespace Extraction

/-- The outcome of a match that is moved. -/
def Outcome.relocate : Outcome → Outcome
  | rejectedOffset => rejectedOffset
  | rejectedBoundary => rejectedBoundary
  | rejectedPos => rejectedPos
  | emitted e => emitted (e.relocate b)

theorem judge_relocate (t : Normalization) (r : Rule) (s : Sentence) (m : Regex.Match) :
    judge t r (s.relocate b) m = (judge t r s m).relocate b := by
  have hexpress : ∀ span, express t r (s.relocate b) m span = (express t r s m span).relocate b := by
    intro span
    simp only [express, TimeExpression.relocate, Sentence.inDocument_relocate, Sentence.text_relocate]
  unfold judge
  -- the span of the match is one of the text of the sentence, which stays
  simp only [Boundary.accepts_relocate, Rule.satisfiesPos_relocate, hexpress]
  split
  · rfl
  · split
    · rfl
    · split <;> rfl

theorem outcomes?_relocate (t : Normalization) (s : Sentence) (r : Rule) :
    outcomes? t (s.relocate b) r = (outcomes? t s r).map (List.map (Outcome.relocate b)) := by
  unfold outcomes?
  rw [Sentence.text_relocate]
  split
  · simp [judge_relocate, Function.comp_def]
  · rfl

theorem expressions_relocate (os : List Outcome) :
    expressions (os.map (Outcome.relocate b)) = (expressions os).map (TimeExpression.relocate b) := by
  unfold expressions
  rw [List.filterMap_map, List.map_filterMap]
  congr 1
  funext o
  cases o <;> rfl

theorem results_relocate (rules : RuleSet) (c : Category) (s : Sentence) :
    results rules c (s.relocate b) = (results rules c s).map (Option.map (List.map (Outcome.relocate b))) := by
  unfold results
  rw [List.map_map]
  exact List.map_congr_left fun r _ => outcomes?_relocate b rules.normalization s r

theorem flatten_relocate (rs : List (Option (List Outcome))) :
    ((rs.map (Option.map (List.map (Outcome.relocate b)))).filterMap id).flatten =
      (rs.filterMap id).flatten.map (Outcome.relocate b) := by
  rw [List.filterMap_map, List.map_flatten, List.map_filterMap]
  rfl

/-- Moved outcomes are counted as they were. -/
theorem countOutcomes_relocate (c : Category) (rs : List (Option (List Outcome))) :
    countOutcomes c (rs.map (Option.map (List.map (Outcome.relocate b)))) = countOutcomes c rs := by
  have hnone : (Option.isNone ∘ Option.map (List.map (Outcome.relocate b))) = Option.isNone :=
    funext fun r => Option.isNone_map
  have hboundary : Outcome.isBoundary ∘ Outcome.relocate b = Outcome.isBoundary := by funext o; cases o <;> rfl
  have hpos : Outcome.isPos ∘ Outcome.relocate b = Outcome.isPos := by funext o; cases o <;> rfl
  have hoffset : Outcome.isOffset ∘ Outcome.relocate b = Outcome.isOffset := by funext o; cases o <;> rfl
  unfold countOutcomes
  simp only [flatten_relocate, expressions_relocate, List.length_map, List.countP_map, hnone, hboundary, hpos, hoffset]

theorem findings_relocate (rules : RuleSet) (s : Sentence) (options : Options) :
    findings rules (s.relocate b) options = (findings rules s options).map (TimeExpression.relocate b) := by
  unfold findings
  rw [List.map_flatMap]
  refine List.flatMap_congr fun c _ => ?_
  show expressions ((results rules c (s.relocate b)).filterMap id).flatten =
    (expressions ((results rules c s).filterMap id).flatten).map _
  rw [results_relocate, flatten_relocate, expressions_relocate]

/-! ## Overlap and order -/

theorem keepWidest_relocate (widest : Nat) (es : List TimeExpression) :
    keepWidest (widest + b) (es.map (TimeExpression.relocate b)) =
      (keepWidest widest es).map (TimeExpression.relocate b) := by
  induction es generalizing widest with
  | nil => rfl
  | cons e es ih =>
    rw [List.map_cons, keepWidest, keepWidest, TimeExpression.span_relocate, Span.stop_relocate]
    by_cases h : e.span.stop ≤ widest
    · rw [if_pos h, if_pos (by omega), ih]
    · rw [if_neg h, if_neg (by omega), ih, List.map_cons]

theorem dropSubsumed_relocate (es : List TimeExpression) :
    dropSubsumed (es.map (TimeExpression.relocate b)) = (dropSubsumed es).map (TimeExpression.relocate b) := by
  have hsort : (es.map (TimeExpression.relocate b)).mergeSort claimsBefore =
      (es.mergeSort claimsBefore).map (TimeExpression.relocate b) := by
    refine (List.map_mergeSort fun e _ e' _ => ?_).symm
    simp only [claimsBefore, TimeExpression.span_relocate, Span.start_relocate, Span.stop_relocate, beq_add_right,
      Nat.add_lt_add_iff_right]
    rfl
  unfold dropSubsumed
  rw [hsort]
  cases es.mergeSort claimsBefore with
  | nil => rfl
  | cons e rest => exact congrArg _ (keepWidest_relocate b e.span.stop rest)

theorem byStart_relocate (es : List TimeExpression) :
    byStart (es.map (TimeExpression.relocate b)) = (byStart es).map (TimeExpression.relocate b) := by
  refine (List.map_mergeSort fun e _ e' _ => ?_).symm
  simp

theorem extractSentence_relocate (rules : RuleSet) (s : Sentence) (options : Options) :
    extractSentence rules (s.relocate b) options =
      (extractSentence rules s options).map (TimeExpression.relocate b) := by
  rw [extractSentence_eq, extractSentence_eq, findings_relocate]
  split
  · exact dropSubsumed_relocate b _
  · exact byStart_relocate b _

end Extraction

/-! ## Placeholders -/

theorem Tense.around_relocate (e : TimeExpression) (s : Sentence) (language : Language) :
    Tense.around (e.relocate b) (s.relocate b) language = Tense.around e s language := by
  unfold Tense.around
  simp [List.filter_map, Function.comp_def, Sentence.tokenText_relocate]

namespace Resolution

variable (context : DocumentContext) (ss : List Sentence) (language : Language)

theorem search_relocate (start : Nat) (g : Granularity) (es : List TimeExpression) :
    Mention.search (some (start + b)) g (es.map (TimeExpression.relocate b)) = Mention.search (some start) g es := by
  induction es with
  | nil => rfl
  | cons e es ih => simp [Mention.search, ih]

theorem adjustYear_relocate (e : TimeExpression) (rest : List Char) (year : String) :
    adjustYear context (ss.map (Sentence.relocate b)) language (e.relocate b) rest year =
      adjustYear context ss language e rest year := by
  have hfind : (ss.map (Sentence.relocate b)).find? (·.containsSpan (e.relocate b).span) =
      (ss.find? (·.containsSpan e.span)).map (Sentence.relocate b) := by
    rw [List.find?_map]
    simp [Function.comp_def, Sentence.containsSpan_relocate]
  unfold adjustYear
  rw [hfind]
  cases context.newsDate? <;> cases leadingMonth? rest <;> cases ss.find? (·.containsSpan e.span) <;>
    simp [Tense.around_relocate]

theorem resolveOne_relocate (earlier : List TimeExpression) (e : TimeExpression) :
    resolveOne context (ss.map (Sentence.relocate b)) language (earlier.map (TimeExpression.relocate b))
        (e.relocate b) =
      (resolveOne context ss language earlier e).relocate b := by
  have hanchor : ∀ u, value?.anchor? context (earlier.map (TimeExpression.relocate b)) (e.relocate b) u =
      value?.anchor? context earlier e u := by
    intro u
    unfold value?.anchor?
    cases context.newsDate? with
    | some date => rfl
    | none =>
      -- mentions that start where the expression does are passed over, before and after the move
      exact search_relocate b e.span.start _ earlier
  have hvalue : value? context (ss.map (Sentence.relocate b)) language (earlier.map (TimeExpression.relocate b))
      (e.relocate b) = value? context ss language earlier e :=
    value?_congr rfl hanchor (adjustYear_relocate b context ss language e)
  unfold resolveOne
  rw [hvalue, TimeExpression.value_relocate]
  split <;> rfl

theorem resolveFrom_relocate (earlier es : List TimeExpression) :
    resolveFrom context (ss.map (Sentence.relocate b)) language (earlier.map (TimeExpression.relocate b))
        (es.map (TimeExpression.relocate b)) =
      (resolveFrom context ss language earlier es).map (TimeExpression.relocate b) := by
  induction es generalizing earlier with
  | nil => rfl
  | cons e es ih => rw [List.map_cons, resolveFrom, resolveFrom, resolveOne_relocate, ← List.map_cons, ih, List.map_cons]

end Resolution

/-! ## Documents -/

namespace Tagger

variable (t : Tagger)

theorem tally_relocate (ss : List Sentence) : t.tally (ss.map (Sentence.relocate b)) = t.tally ss := by
  have hcount : ∀ c, Extraction.countOutcomes c ((ss.map (Sentence.relocate b)).flatMap (Extraction.results t.rules c)) =
      Extraction.countOutcomes c (ss.flatMap (Extraction.results t.rules c)) := by
    intro c
    rw [List.flatMap_map]
    simp only [Extraction.results_relocate]
    rw [← List.map_flatMap, Extraction.countOutcomes_relocate]
  have hsubsumed : ∀ s : Sentence,
      (Extraction.findings t.rules (s.relocate b) t.options).length - (t.tagSentence (s.relocate b)).length =
        (Extraction.findings t.rules s t.options).length - (t.tagSentence s).length := by
    intro s
    rw [tagSentence, Extraction.findings_relocate, Extraction.extractSentence_relocate, List.length_map,
      List.length_map, tagSentence]
  unfold tally
  simp only [hcount, List.length_map, List.map_map, Function.comp_def, hsubsumed]

theorem extractAll_relocate (ss : List Sentence) :
    t.extractAll (ss.map (Sentence.relocate b)) = (t.extractAll ss).relocate b := by
  have hexpressions : (t.extractAll (ss.map (Sentence.relocate b))).expressions =
      (t.extractAll ss).expressions.map (TimeExpression.relocate b) := by
    rw [expressions_extractAll, expressions_extractAll, ← Extraction.byStart_relocate, List.map_flatMap,
      List.flatMap_map]
    exact congrArg _ (List.flatMap_congr fun s _ => Extraction.extractSentence_relocate b t.rules s t.options)
  have hmetrics : (t.extractAll (ss.map (Sentence.relocate b))).metrics = (t.extractAll ss).metrics := by
    simp only [metrics_extractAll, tally_relocate, List.map_eq_nil_iff]
  exact congrArg₂ TagResult.mk hexpressions hmetrics

/-- Tagging a document that is moved gives the same expressions, moved, and the same counters. A sentence is moved by
building it from moved tokens. -/
theorem tagDocument_relocate (context : DocumentContext) (ss : List Sentence) :
    t.tagDocument (ss.map (Sentence.relocate b)) context = (t.tagDocument ss context).relocate b ∧
      ∀ (text : String) (start : Nat) (tokens : List Token),
        Sentence.ofTokens text (start + b) (tokens.map (Token.relocate b)) =
          (Sentence.ofTokens text start tokens).relocate b := by
  refine ⟨?_, Sentence.ofTokens_relocate b⟩
  unfold tagDocument resolvePlaceholders
  rw [extractAll_relocate]
  split
  · exact congrArg₂ TagResult.mk (Resolution.resolveFrom_relocate b context ss t.language [] _) rfl
  · rfl

end Tagger

end

end TemporalTagger
