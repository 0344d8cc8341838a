/-
Sentences that are one phrase. The span of a whole sentence always stands free and on token
boundaries, so a rule without constraints reports the sentence exactly if its pattern reports it as
one match. Main fact: `covers_iff`.
-/
import TemporalTagger.Proofs.Extraction
import TemporalTagger.Proofs.Rule.Compilation

namespace TemporalTagger

/-! ## The span of a sentence -/

namespace Text

theorem upTo?_zero (s : String) : upTo? s 0 = some "" := upTo?_eq_some_iff.2 ⟨s, by simp, rfl⟩

theorem from?_size (s : String) : from? s s.utf8ByteSize = some "" := from?_eq_some_iff.2 ⟨s, by simp, rfl⟩

end Text

/-- The span of a whole sentence passes both tests. -/
theorem Boundary.accepts_whole (s : Sentence) : accepts s ⟨0, s.size⟩ = true := by
  rw [accepts, Bool.and_eq_true]
  constructor
  · rw [standsFree, Text.upTo?_zero, show s.size = s.text.utf8ByteSize from rfl, Text.from?_size]
    decide +kernel
  · rw [onTokens, if_pos (Nat.sub_zero _)]

/-! ## Rules that cover a sentence -/

namespace Extraction

variable {rules : RuleSet} {s : Sentence} {options : Options} {r : Rule}

/-- An expression that a rule has made covers the whole sentence. -/
structure Covers (r : Rule) (s : Sentence) (e : TimeExpression) : Prop where
  category : e.category = r.category
  rule : e.rule = r.name
  span : e.span = ⟨s.start, s.stop⟩

theorem span?_wholeMatch {o : Offset} (ho : o = Offset.wholeMatch) (m : Regex.Match) {span : Span}
    (h : span.start ≤ span.stop) : o.span? m = some span ↔ m.group? 0 = some span := by
  subst ho
  simp only [Offset.span?, Offset.wholeMatch]
  cases m.group? 0 with
  | none => simp
  | some g =>
    simp only [Option.bind_eq_bind, Option.bind_some, Option.some.injEq]
    constructor
    · intro h'
      split at h'
      · exact Option.some.inj h'
      · cases h'
    · rintro rfl
      rw [if_pos h]

theorem eq_of_differ (h : rules.rules.Pairwise RuleSet.Differ) {a b : Rule} (ha : a ∈ rules.rules)
    (hb : b ∈ rules.rules) (hc : a.category = b.category) (hn : a.name = b.name) : a = b := by
  by_contra hne
  exact h.forall ha hb hne ⟨hc, hn⟩

/-- A rule without constraints that reports whole matches, and whose fast check gives nothing away, covers a
sentence exactly if the sentence is one of its matches. -/
theorem covers_iff (hdiffer : rules.rules.Pairwise RuleSet.Differ) (hr : r ∈ rules.rules)
    (hwanted : r.category ∈ options.categories.toList) (hkeep : options.dropSubsumed = false)
    (hconstraints : r.constraints = []) (hoffset : r.offset = Offset.wholeMatch)
    (hhinted : r.passesFastCheck s.text = false → r.pattern.occursIn s.text = false) (hs : 0 < s.size) :
    (∃ e ∈ extractSentence rules s options, Covers r s e) ↔
      ∃ m ∈ r.pattern.allMatches s.text, m.group? 0 = some ⟨0, s.size⟩ := by
  simp only [mem_extractSentence hkeep]
  constructor
  · rintro ⟨e, ⟨r', m, hstems⟩, hcovers⟩
    obtain ⟨span, hpassed⟩ := judge_eq_emitted.1 hstems.judged
    obtain rfl := hpassed.express
    obtain rfl : r' = r := eq_of_differ hdiffer hstems.rule hr hcovers.category hcovers.rule
    refine ⟨m, hstems.matched, ?_⟩
    rw [← span?_wholeMatch hoffset m (Nat.zero_le _), hpassed.offset]
    have hspan : s.inDocument span = ⟨s.start, s.stop⟩ := hcovers.span
    simp only [Sentence.inDocument, Sentence.stop, Span.mk.injEq] at hspan
    obtain ⟨start, stop⟩ := span
    simp only at hspan
    rw [show start = 0 by omega, show stop = s.size by omega]
  · rintro ⟨m, hm, hg⟩
    have hspan := (span?_wholeMatch hoffset m (Nat.zero_le s.size)).2 hg
    have hchecked : r.passesFastCheck s.text = true := by
      by_contra h
      rw [Pattern.allMatches_eq_nil (hhinted (by simpa using h))] at hm
      cases hm
    refine ⟨express rules.normalization r s m ⟨0, s.size⟩, ⟨r, m, hr, hwanted, hchecked, hm, ?_⟩, rfl, rfl, rfl⟩
    exact judge_eq_emitted.2 ⟨_, hspan, hs, Boundary.accepts_whole s,
      by rw [Rule.satisfiesPos, hconstraints, List.all_nil], rfl⟩

end Extraction

end TemporalTagger
