/-
Boundaries of matches. What stands beside a span binds it by its nearest characters. Over the tokens of a text that is
cut plainly, a span that stands free is on token boundaries too: where a word goes on beyond one of its ends there is an
apostrophe, which is punctuation. The token test takes any pair of offsets, and looks at their distance and at each of
them by itself; so it also accepts some that delimit no part of the sentence. Main facts: `accepts_tokenize` and
`onTokens_not_delimits_iff`.
-/
import TemporalTagger.Boundary
import TemporalTagger.Proofs.Sentence.Tokens

namespace TemporalTagger

open Unicode Text Sentence

/-- A span delimits a part of a text: it is not reversed, it ends within the text, and it begins and ends between two
characters. -/
structure Span.Delimits (span : Span) (text : String) : Prop where
  start_le_stop : span.start ≤ span.stop
  stop_le_size : span.stop ≤ text.utf8ByteSize
  start_isCut : IsCut text.toList span.start
  stop_isCut : IsCut text.toList span.stop

theorem delimits_whole (text : String) : Span.Delimits ⟨0, text.utf8ByteSize⟩ text where
  start_le_stop := Nat.zero_le _
  stop_le_size := le_rfl
  start_isCut := ⟨[], List.nil_prefix, rfl⟩
  stop_isCut := ⟨text.toList, List.prefix_refl _, byteLength_toList text⟩

namespace Boundary

/-! ## Sides -/

/-- Text that binds what comes before it, by its first two characters. -/
theorem bindsBefore_eq (after : String) :
    bindsBefore after = after.toList.head?.any fun c =>
      c = '°' || isWord c || ((c = '.' || c = ',') && after.toList[1]?.any isDigit) := by
  have hsecond : (after.drop 1).front? = after.toList[1]? := by
    rw [String.Slice.front?_eq, String.toList_copy_drop, List.head?_drop]
  rw [bindsBefore, String.front?_eq, hsecond]
  cases after.toList.head? <;> rfl

/-- Text that binds what follows it, by its last two characters and the last one that is no space. -/
theorem bindsAfter_eq (reversed : List Char) :
    bindsAfter reversed = ((reversed.head?.any fun c => isWord c || (c = '.' && reversed[1]?.any isDigit)) ||
      (reversed.dropWhile isSpace).head?.any fun sign => sign = '$' || sign = '+') := by
  cases reversed with
  | nil => rfl
  | cons c rest =>
    rw [bindsAfter, List.getElem?_cons_succ, ← List.head?_eq_getElem?]
    congr 1
    cases (c :: rest).dropWhile isSpace <;> rfl

/-- Whether a part of a text stands free, by its sides. -/
theorem standsFree_ofList (a mid b : List Char) :
    standsFree (String.ofList (a ++ mid ++ b)) ⟨byteLength a, byteLength (a ++ mid)⟩ =
      (!bindsAfter a.reverse && !bindsBefore (String.ofList b)) := by
  rw [standsFree, upTo?_part, from?_part]
  simp only [Option.getD_some, String.toList_ofList]

/-! ## The token test -/

/-- What stands before the start of a span and after its stop lets it pass: both sides are open or, in a sentence with
tokens, each end is that of a token or has punctuation beside it. -/
def SidesPass (s : Sentence) (span : Span) (previous next : Option Char) : Prop :=
  (isOpen previous = true ∧ isOpen next = true) ∨
    (s.tokens ≠ [] ∧
      (previous.any isPunctuation = true ∨ ∃ t ∈ s.tokens, t.span.start = s.start + span.start) ∧
      (next.any isPunctuation = true ∨ ∃ t ∈ s.tokens, t.span.stop = s.start + span.stop))

/-- The test looks at the length first, and then at each end by itself. -/
theorem onTokens_iff {s : Sentence} {span : Span} : onTokens s span = true ↔ span.stop - span.start = s.size ∨
    ∃ before after, upTo? s.text span.start = some before ∧ from? s.text span.stop = some after ∧
      SidesPass s span before.back? after.front? := by
  unfold onTokens
  split
  next hlength => simp [hlength]
  next hlength =>
    simp only [hlength, false_or]
    split
    next before after hbefore hafter =>
      simp only [hbefore, hafter, Option.some.injEq, exists_eq_left', exists_and_left, SidesPass, Sentence.inDocument]
      by_cases hopen : isOpen before.back? = true ∧ isOpen after.front? = true
      · simp [hopen]
      · cases htokens : s.tokens <;> simp [hopen]
    next hnone =>
      simp only [Bool.false_eq_true, false_iff, not_exists, not_and]
      intro before after hbefore hafter
      exact absurd hafter (hnone before after hbefore)

/-! ## Tokens -/

theorem isPunctuation_of_isApostrophe {c : Char} (h : isApostrophe c = true) : isPunctuation c = true := by
  rw [isApostrophe, Bool.or_eq_true, decide_eq_true_eq, decide_eq_true_eq] at h
  rcases h with rfl | rfl <;> decide +kernel

/-- No word character stands before what is not bound to it. -/
theorem isWord_of_bindsAfter {a : List Char} {c : Char} (h : bindsAfter a.reverse = false) (hc : a.getLast? = some c) :
    isWord c = false := by
  rw [bindsAfter_eq, List.head?_reverse, hc] at h
  simp only [Option.any_some, Bool.or_eq_false_iff] at h
  exact h.1.1

theorem isWord_of_bindsBefore {b : List Char} {c : Char} (h : bindsBefore (String.ofList b) = false)
    (hc : b.head? = some c) : isWord c = false := by
  rw [bindsBefore_eq, String.toList_ofList, hc] at h
  simp only [Option.any_some, Bool.or_eq_false_iff] at h
  exact h.1.2

/-- What begins with a visible character and is not bound to what stands before it begins with a token or follows an
apostrophe. -/
theorem starts_tokenize (start : Nat) {a b : List Char} {c : Char} (hc : isSpace c = false)
    (hfree : bindsAfter a.reverse = false) :
    ∃ t ∈ (tokenize (String.ofList (a ++ c :: b)) start).tokens,
      t.span.start = start + byteLength a ∨ a.getLast?.any isPunctuation = true := by
  obtain ⟨span, hspan, hends⟩ := exists_token_from start a b hc
  refine ⟨⟨span, none⟩, mem_tokens_tokenize.2 ⟨span, by rwa [String.toList_ofList], rfl⟩, ?_⟩
  refine hends.imp_right ?_
  rintro ⟨d, hd, hword | happ⟩
  · rw [isWord_of_bindsAfter hfree hd] at hword
    cases hword
  · rw [hd, Option.any_some, isPunctuation_of_isApostrophe happ]

/-- What ends with a visible character and is not bound to what follows it ends with a token or stands before an
apostrophe. -/
theorem stops_tokenize (start : Nat) {a b : List Char} {c : Char} (hc : isSpace c = false)
    (hfree : bindsBefore (String.ofList b) = false) :
    ∃ t ∈ (tokenize (String.ofList (a ++ [c] ++ b)) start).tokens,
      t.span.stop = start + byteLength (a ++ [c]) ∨ b.head?.any isPunctuation = true := by
  obtain ⟨span, hspan, hends⟩ := exists_token_to start a b hc
  refine ⟨⟨span, none⟩, mem_tokens_tokenize.2 ⟨span, by rwa [String.toList_ofList], rfl⟩, ?_⟩
  refine hends.imp_right ?_
  rintro ⟨d, hd, hword | happ⟩
  · rw [isWord_of_bindsBefore hfree hd] at hword
    cases hword
  · rw [hd, Option.any_some, isPunctuation_of_isApostrophe happ]

/-- A part of a text is on tokens if one begins with it or punctuation stands before it, and one ends with it or
punctuation follows it. -/
theorem onTokens_of_ends {s : Sentence} {a mid b : List Char} (htext : s.text = String.ofList (a ++ mid ++ b))
    (hstart : ∃ t ∈ s.tokens, t.span.start = s.start + byteLength a ∨ a.getLast?.any isPunctuation = true)
    (hstop : ∃ t ∈ s.tokens, t.span.stop = s.start + byteLength (a ++ mid) ∨ b.head?.any isPunctuation = true) :
    onTokens s ⟨byteLength a, byteLength (a ++ mid)⟩ = true := by
  obtain ⟨t, ht, hstart⟩ := hstart
  obtain ⟨u, hu, hstop⟩ := hstop
  rw [onTokens_iff, htext, upTo?_part, from?_part]
  refine .inr ⟨_, _, rfl, rfl, .inr ⟨List.ne_nil_of_mem ht, ?_, ?_⟩⟩
  · rw [String.back?_eq, String.toList_ofList]
    exact hstart.symm.imp_right fun h => ⟨t, ht, h⟩
  · rw [String.front?_eq, String.toList_ofList]
    exact hstop.symm.imp_right fun h => ⟨u, hu, h⟩

/-- A part of a text that begins and ends with visible characters is accepted with the tokens of the text if it stands
free: the tokens reject no such part. -/
theorem accepts_tokenize {text part : String} {span : Span} (start : Nat) (hpart : slice? text span = some part)
    (hfirst : ∃ c, part.toList.head? = some c ∧ isSpace c = false)
    (hlast : ∃ c, part.toList.getLast? = some c ∧ isSpace c = false) :
    (accepts (tokenize text start) span = true ↔ standsFree text span = true) ∧
      (standsFree text span = true → onTokens (tokenize text start) span = true) := by
  -- beside an end that is no end of a token there is a word character, which binds, or an apostrophe
  have htokens : standsFree text span = true → onTokens (tokenize text start) span = true := by
    obtain ⟨a, b, rfl, rfl⟩ := exists_parts_of_slice? hpart
    obtain ⟨first, hfirst, hfspace⟩ := hfirst
    obtain ⟨last, hlast, hlspace⟩ := hlast
    intro hfree
    rw [standsFree_ofList, Bool.and_eq_true, Bool.not_eq_true', Bool.not_eq_true'] at hfree
    refine onTokens_of_ends rfl ?_ ?_
    · obtain ⟨rest, hrest⟩ := List.head?_eq_some_iff.1 hfirst
      rw [hrest, List.append_assoc, List.cons_append]
      exact starts_tokenize start hfspace hfree.1
    · obtain ⟨rest, hrest⟩ := List.getLast?_eq_some_iff.1 hlast
      rw [hrest, ← List.append_assoc]
      exact stops_tokenize start hlspace hfree.2
  refine ⟨?_, htokens⟩
  rw [accepts, Bool.and_eq_true]
  exact ⟨And.left, fun hfree => ⟨hfree, htokens hfree⟩⟩

/-- The middle of a word joined by apostrophes. -/
theorem accepts_tokenize_joined :
    slice? "aujourd'hui, 1999" ⟨8, 11⟩ = some "hui" ∧
      (accepts (tokenize "aujourd'hui, 1999" 5) ⟨8, 11⟩ = true ↔ standsFree "aujourd'hui, 1999" ⟨8, 11⟩ = true) ∧
      standsFree "aujourd'hui, 1999" ⟨8, 11⟩ = true ∧ ∀ t ∈ (tokenize "aujourd'hui, 1999" 5).tokens, t.span.start ≠ 13 := by
  have hpart : slice? "aujourd'hui, 1999" ⟨8, 11⟩ = some "hui" := by decide +kernel
  have hends := accepts_tokenize 5 hpart ⟨'h', by decide, by decide +kernel⟩ ⟨'i', by decide, by decide +kernel⟩
  have hstarts : ∀ span ∈ tokenSpans 5 "aujourd'hui, 1999".toList, span.start ≠ 13 := by decide +kernel
  refine ⟨hpart, hends.1, by decide +kernel, ?_⟩
  rintro t ht
  obtain ⟨span, hspan, rfl⟩ := mem_tokens_tokenize.1 ht
  exact hstarts span hspan

/-! ## Spans that delimit nothing -/

variable {s : Sentence} {span : Span}

/-- A span that is accepted and is not as long as the sentence begins and ends between two characters. -/
theorem isCut_of_onTokens (h : onTokens s span = true) (hlength : span.stop - span.start ≠ s.size) :
    IsCut s.text.toList span.start ∧ IsCut s.text.toList span.stop := by
  obtain ⟨before, after, hbefore, hafter, -⟩ := (onTokens_iff.1 h).resolve_left hlength
  exact ⟨isCut_of_upTo? hbefore, isCut_of_from? hafter⟩

/-- Beside the ends of a reversed span stand the first and the last character of the part that it names backwards. -/
theorem onTokens_reversed {part : String} (hreversed : span.stop < span.start)
    (hpart : slice? s.text ⟨span.stop, span.start⟩ = some part) :
    onTokens s span = true ↔ SidesPass s span part.back? part.front? := by
  obtain ⟨pre, post, htext, hspan⟩ := exists_parts_of_slice? hpart
  obtain ⟨hstop, hstart⟩ := Span.mk.inj hspan
  have hne : part.toList ≠ [] := by
    intro hnil
    rw [hnil, List.append_nil] at hstart
    omega
  have hlength : span.stop - span.start ≠ s.size := by
    have hpos := byteLength_pos hne
    rw [Sentence.size, htext, byteLength_ofList, byteLength_append, byteLength_append]
    omega
  have hbefore : upTo? s.text span.start = some (String.ofList (pre ++ part.toList)) := by
    have hcut := upTo?_part (pre ++ part.toList) post []
    rwa [List.append_nil, ← htext, ← hstart] at hcut
  have hafter : from? s.text span.stop = some (String.ofList (part.toList ++ post)) := by
    have hcut := from?_part [] pre (part.toList ++ post)
    rwa [List.nil_append, ← List.append_assoc, ← htext, ← hstop] at hcut
  rw [onTokens_iff, hbefore, hafter]
  simp only [hlength, false_or, Option.some.injEq, exists_and_left, exists_eq_left', String.back?_eq, String.front?_eq,
    String.toList_ofList, List.getLast?_append_of_ne_nil _ hne, List.head?_append_of_ne_nil _ hne]

/-- The spans that are accepted and delimit no part of the sentence are those as long as the sentence that are not its
own, and those reversed that name backwards a part of which the two ends pass. -/
theorem onTokens_not_delimits_iff (s : Sentence) (span : Span) :
    onTokens s span = true ∧ ¬ span.Delimits s.text ↔
      (span.stop - span.start = s.size ∧ span ≠ ⟨0, s.size⟩) ∨
        (span.stop < span.start ∧ ∃ part, slice? s.text ⟨span.stop, span.start⟩ = some part ∧
          SidesPass s span part.back? part.front?) := by
  constructor
  · rintro ⟨haccepted, hnot⟩
    by_cases hlength : span.stop - span.start = s.size
    · refine .inl ⟨hlength, ?_⟩
      rintro rfl
      exact hnot (delimits_whole s.text)
    · obtain ⟨hstart, hstop⟩ := isCut_of_onTokens haccepted hlength
      have hreversed : span.stop < span.start := by
        by_contra hle
        exact hnot ⟨by omega, byteLength_toList s.text ▸ hstop.le, hstart, hstop⟩
      obtain ⟨-, mid, -, -, -, hpart⟩ := @slice?_of_isCut s.text ⟨span.stop, span.start⟩ hstop hstart hreversed.le
      exact .inr ⟨hreversed, _, hpart, (onTokens_reversed hreversed hpart).1 haccepted⟩
  · rintro (⟨hlength, hne⟩ | ⟨hreversed, part, hpart, hsides⟩)
    · refine ⟨onTokens_iff.2 (.inl hlength), fun ⟨hle, hsize, _, _⟩ => hne ?_⟩
      -- only the whole sentence has room for so long a part
      obtain ⟨start, stop⟩ := span
      rw [Sentence.size] at hlength ⊢
      dsimp only at hle hsize hlength
      rw [Span.mk.injEq]
      omega
    · exact ⟨(onTokens_reversed hreversed hpart).2 hsides, fun h => absurd h.start_le_stop (by omega)⟩

/-- A span past the end that is as long as the sentence, and two reversed ones. -/
example : let s : Sentence := ⟨"in 1990", 0, []⟩
    onTokens s ⟨3, 10⟩ = true ∧ onTokens s ⟨3, 2⟩ = true ∧ onTokens s ⟨7, 3⟩ = false := by decide +kernel

end Boundary

end TemporalTagger
