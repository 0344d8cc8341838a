/-
Glued matches in a document. A match is tested in its sentence alone; a cut between sentences can hide a
neighbour that binds it. Which neighbours these are is said exactly. Main fact: `standsFree_iff`.
-/
import TemporalTagger.Proofs.Boundary
import TemporalTagger.Proofs.Increments

namespace TemporalTagger

open Unicode Text

/-! ## Neighbours -/

namespace Boundary

theorem head?_dropWhile_append {p : Char → Bool} {c : Char} (hc : p c = false) (x : List Char) : ∀ r : List Char,
    ((r ++ c :: x).dropWhile p).head? = ((r ++ [c]).dropWhile p).head?
  | [] => by simp [hc]
  | a :: r => by
    rw [List.cons_append, List.cons_append, List.dropWhile_cons, List.dropWhile_cons]
    split
    · exact head?_dropWhile_append hc x r
    · rfl

/-- Beyond the first character of a sentence nothing of what stands before it counts. -/
theorem bindsAfter_concat {c : Char} (hterminal : Sentence.isTerminal c = false) (hspace : isSpace c = false)
    (r x : List Char) : bindsAfter (r ++ c :: x) = bindsAfter (r ++ [c]) := by
  have hdot : c ≠ '.' := by rintro rfl; cases hterminal
  rw [bindsAfter_eq, bindsAfter_eq, head?_dropWhile_append hspace]
  cases r with
  | nil => simp [hdot]
  | cons a r => cases r <;> rfl

/-- What a sentence follows binds it only as a digit with a full stop. -/
theorem bindsAfter_closed {pre : List Char} (h : Sentence.Closed pre) :
    bindsAfter pre.reverse = true ↔ ∃ d, isDigit d = true ∧ [d, '.'] <:+ pre := by
  have hsuffix : ∀ d, [d, '.'] <:+ pre ↔ ['.', d] <+: pre.reverse := fun d => List.reverse_prefix.symm
  simp only [hsuffix, bindsAfter_eq]
  unfold Sentence.Closed at h
  generalize pre.reverse = r at h
  have hsign : ((r.dropWhile isSpace).head?.any fun sign => decide (sign = '$') || decide (sign = '+')) = false := by
    cases hd : (r.dropWhile isSpace).head? with
    | none => rfl
    | some c => rcases Sentence.isTerminal_iff.1 (h c hd) with rfl | rfl | rfl <;> rfl
  rw [hsign, Bool.or_false]
  cases r with
  | nil => simp
  | cons c r =>
    have hword : isWord c = false := by
      by_cases hspace : isSpace c = true
      · exact Sentence.isWord_of_isSpace hspace
      · refine Sentence.isWord_of_isTerminal (h c ?_)
        rw [List.dropWhile_cons_of_neg hspace, List.head?_cons]
    cases r with
    | nil => simp [hword]
    | cons d r =>
      simp only [List.head?_cons, Option.any_some, hword, Bool.false_or, List.getElem?_cons_succ,
        List.getElem?_cons_zero, Bool.and_eq_true, decide_eq_true_eq, List.cons_prefix_cons, List.nil_prefix, and_true]
      constructor
      · rintro ⟨rfl, hd⟩
        exact ⟨d, hd, rfl, rfl⟩
      · rintro ⟨_, hd, rfl, rfl⟩
        exact ⟨rfl, hd⟩

end Boundary

/-! ## Sentences -/

namespace Sentence

/-- What binds a span in a document but is cut off from its sentence: a digit and a full stop before the
sentence that the span begins, binding text after the sentence that it ends, or a digit after the full
stop that alone separates it from the end of the sentence. -/
def CutsOff (s : Sentence) (document : String) (span : Span) : Prop :=
  (span.start = s.start ∧ ∃ before d, upTo? document s.start = some before ∧ isDigit d = true ∧
    [d, '.'] <:+ before.toList) ∨
  (span.stop = s.stop ∧ ∃ after, from? document s.stop = some after ∧ Boundary.bindsBefore after = true) ∨
  (span.stop + 1 = s.stop ∧ ['.'] <:+ s.text.toList ∧
    ∃ after d, from? document s.stop = some after ∧ after.toList.head? = some d ∧ isDigit d = true)

variable {s : Sentence} {document : String} {pre post : List Char}

theorem CutFrom.upTo? (h : s.CutFrom document pre post) : Text.upTo? document s.start = some (String.ofList pre) := by
  rw [← h.eq_ofList, ← h.start, upTo?_part]

theorem CutFrom.from? (h : s.CutFrom document pre post) : Text.from? document s.stop = some (String.ofList post) := by
  rw [← h.eq_ofList, ← h.byteLength_eq_stop, from?_part]

/-- Before a part of a sentence, the document binds it where the sentence does, and else only where the
part begins the sentence. -/
theorem CutFrom.bindsAfter_iff (h : s.CutFrom document pre post) {a rest : List Char} (ha : s.text.toList = a ++ rest)
    (hfree : Boundary.bindsAfter a.reverse = false) :
    Boundary.bindsAfter (pre ++ a).reverse = true ↔ a = [] ∧ ∃ d, isDigit d = true ∧ [d, '.'] <:+ pre := by
  cases a with
  | nil => rw [List.append_nil, Boundary.bindsAfter_closed h.before]; simp
  | cons c a =>
    obtain ⟨_, _, hfirst, hterminal, hspace⟩ := h.first
    obtain ⟨rfl, -⟩ := List.cons.inj (ha.symm.trans hfirst)
    rw [List.reverse_append, List.reverse_cons, List.append_assoc, List.singleton_append,
      Boundary.bindsAfter_concat hterminal hspace, ← List.reverse_cons, hfree]
    simp

/-- After a part of a sentence, the document binds it where the sentence does, and else only where the
part ends the sentence, or is followed by its full stop alone. -/
theorem CutFrom.bindsBefore_iff (h : s.CutFrom document pre post) {a b : List Char} (hb : s.text.toList = a ++ b)
    (hfree : Boundary.bindsBefore (String.ofList b) = false) :
    Boundary.bindsBefore (String.ofList (b ++ post)) = true ↔
      (b = [] ∧ Boundary.bindsBefore (String.ofList post) = true) ∨
        (b = ['.'] ∧ ∃ d, post.head? = some d ∧ isDigit d = true) := by
  rw [Boundary.bindsBefore_eq, String.toList_ofList] at hfree ⊢
  match b with
  | [] => rw [Boundary.bindsBefore_eq, String.toList_ofList]; simp
  | c :: d :: b =>
    have hsame : (c :: d :: b ++ post)[1]? = (c :: d :: b)[1]? := rfl
    rw [List.cons_append, List.head?_cons, ← List.cons_append, hsame, ← List.head?_cons (l := d :: b), hfree]
    simp
  | [c] =>
    have hfront : ([c] ++ post)[1]? = post.head? := List.head?_eq_getElem?.symm
    simp only [List.head?_cons, Option.any_some, Bool.or_eq_false_iff, decide_eq_false_iff_not] at hfree
    rw [hfront, List.singleton_append, List.head?_cons, Option.any_some, hfree.1.2]
    simp only [hfree.1.1, decide_false, Bool.false_or, Bool.and_eq_true, Bool.or_eq_true, decide_eq_true_eq,
      List.cons_ne_nil, false_and, List.cons.injEq, and_true, false_or, Option.any_eq_true]
    -- a comma ends a sentence only if nothing but blanks follow
    have hcomma : c = ',' → ∀ d, post.head? = some d → isDigit d = false := by
      rintro rfl d hd
      have hblank := h.last.resolve_right fun ⟨t, ht, hterminal⟩ => by
        rw [hb, List.getLast?_concat] at ht
        obtain rfl := Option.some.inj ht
        cases hterminal
      exact isDigit_of_isSpace (hblank d (List.mem_of_head? hd))
    constructor
    · rintro ⟨rfl | rfl, d, hd, hdigit⟩
      · exact ⟨rfl, d, hd, hdigit⟩
      · rw [hcomma rfl d hd] at hdigit
        cases hdigit
    · rintro ⟨rfl, hd⟩
      exact ⟨.inl rfl, hd⟩

/-- What is cut off, in terms of the parts of sentence and document. -/
theorem CutFrom.cutsOff_iff (h : s.CutFrom document pre post) {a mid b : List Char}
    (htext : s.text.toList = a ++ mid ++ b) :
    s.CutsOff document (s.inDocument ⟨byteLength a, byteLength (a ++ mid)⟩) ↔
      (a = [] ∧ ∃ d, isDigit d = true ∧ [d, '.'] <:+ pre) ∨
        (b = [] ∧ Boundary.bindsBefore (String.ofList post) = true) ∨
          (b = ['.'] ∧ ∃ d, post.head? = some d ∧ isDigit d = true) := by
  have hstop : s.stop = s.start + (byteLength (a ++ mid) + byteLength b) := by
    rw [stop, size, ← byteLength_toList, htext, byteLength_append]
  have hbegins : s.start + byteLength a = s.start ↔ a = [] := by rw [Nat.add_eq_left, byteLength_eq_zero]
  have hends : s.start + byteLength (a ++ mid) = s.stop ↔ b = [] := by rw [hstop, ← byteLength_eq_zero]; omega
  have hdot : s.start + byteLength (a ++ mid) + 1 = s.stop ∧ ['.'] <:+ s.text.toList ↔ b = ['.'] := by
    rw [hstop, htext]
    constructor
    · rintro ⟨hone, hsuffix⟩
      obtain ⟨c, rfl⟩ : ∃ c, b = [c] := by
        cases b with
        | nil => rw [byteLength_nil] at hone; omega
        | cons c b =>
          have := c.utf8Size_pos
          rw [byteLength_cons] at hone
          exact ⟨c, by rw [byteLength_eq_zero.1 (show byteLength b = 0 by omega)]⟩
      obtain ⟨x, hx⟩ := hsuffix
      rw [(List.append_inj_right' hx rfl)]
    · rintro rfl
      exact ⟨rfl, List.suffix_append _ _⟩
  unfold CutsOff
  rw [h.upTo?, h.from?]
  simp only [inDocument, hbegins, hends, ← and_assoc, hdot]
  simp only [Option.some.injEq, and_assoc, exists_and_left, exists_eq_left', String.toList_ofList]

end Sentence

/-! ## Documents -/

namespace Tagger

/-- Every expression of a document lies in a sentence of it, as it was found there. -/
theorem exists_of_mem_tagDocument (t : Tagger) {ss : List Sentence} {context : DocumentContext} {e : TimeExpression}
    (he : e ∈ (t.tagDocument ss context).expressions) : ∃ s ∈ ss, ∃ e' ∈ t.tagSentence s, e'.span = e.span := by
  have hspan := List.mem_map_of_mem (f := (·.span)) he
  rw [map_span_tagDocument] at hspan
  obtain ⟨e', he', heq⟩ := List.mem_map.1 hspan
  obtain ⟨s, hs, he'⟩ := t.mem_extractAll.1 he'
  exact ⟨s, hs, e', he', heq⟩

/-- An expression stands free in its document unless a cut between sentences hides what binds it. -/
theorem standsFree_iff (t : Tagger) (document : String) (context : DocumentContext) {e : TimeExpression} {s : Sentence}
    (he : e ∈ (t.tagDocument (Sentence.split document) context).expressions) (hs : s ∈ Sentence.split document)
    (hse : s.containsSpan e.span = true) :
    Boundary.standsFree document e.span = true ↔ ¬ s.CutsOff document e.span := by
  obtain ⟨s', hs', e', he', hspan⟩ := t.exists_of_mem_tagDocument he
  obtain ⟨hse', hlt⟩ := Extraction.span_of_mem_extractSentence he'
  rw [← hspan] at hse ⊢
  obtain rfl := Sentence.eq_of_containsSpan hlt hs hse hs' hse'
  obtain ⟨a, mid, b, htext, hmid, hpart, haccepts⟩ := Extraction.exists_part he'
  obtain ⟨pre, post, hcut⟩ := Sentence.exists_cutFrom hs
  have htext' : s.text.toList = a ++ mid ++ b := by rw [htext, String.toList_ofList]
  have hdoc : document = String.ofList (pre ++ a ++ mid ++ (b ++ post)) := by
    rw [← String.ofList_toList (s := document), hcut.parts, htext']
    simp only [List.append_assoc]
  have hedoc : e'.span = ⟨byteLength (pre ++ a), byteLength (pre ++ a ++ mid)⟩ := by
    rw [hpart, Sentence.inDocument, ← hcut.start, List.append_assoc, byteLength_append pre a, byteLength_append pre]
  have hfree : Boundary.bindsAfter a.reverse = false ∧ Boundary.bindsBefore (String.ofList b) = false := by
    have := (Bool.and_eq_true _ _ ▸ haccepts : _ ∧ _).1
    rw [htext, Boundary.standsFree_ofList] at this
    simpa using this
  have hbefore := hcut.bindsAfter_iff (htext'.trans (List.append_assoc ..)) hfree.1
  have hafter := hcut.bindsBefore_iff htext' hfree.2
  rw [hpart, hcut.cutsOff_iff htext', ← hafter, ← hbefore, ← hpart, hedoc, hdoc, Boundary.standsFree_ofList]
  simp [not_or]

/-- The number in the second sentence of `x1.5` goes on after a full stop and a digit. -/
theorem standsFree_iff_numerals :
    ∃ e ∈ (numerals.tagDocument (Sentence.split "x1.5") {}).expressions, ∃ s ∈ Sentence.split "x1.5",
      s.containsSpan e.span = true ∧ Boundary.standsFree "x1.5" e.span = false ∧
        (Boundary.standsFree "x1.5" e.span = true ↔ ¬ s.CutsOff "x1.5" e.span) := by
  have hspans : (numerals.tagDocument (Sentence.split "x1.5") {}).expressions.map (·.span) = [⟨3, 4⟩] := by
    decide +kernel
  have hsentences : ⟨3, 4⟩ ∈ (Sentence.split "x1.5").map fun s => (⟨s.start, s.stop⟩ : Span) := by decide +kernel
  obtain ⟨e, he, hspan⟩ := List.mem_map.1 (hspans ▸ List.mem_singleton_self _ : (⟨3, 4⟩ : Span) ∈ _)
  obtain ⟨s, hs, hplace⟩ := List.mem_map.1 hsentences
  obtain ⟨hstart, hstop⟩ := Span.mk.inj hplace
  have hse : s.containsSpan e.span = true := by rw [Sentence.containsSpan, hspan, hstart, hstop]; rfl
  exact ⟨e, he, s, hs, hse, by rw [hspan]; decide +kernel, numerals.standsFree_iff "x1.5" {} he hs hse⟩

end Tagger

end TemporalTagger
